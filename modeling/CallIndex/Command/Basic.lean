import CallIndex.Command.Words
import CallIndex.Path
import CallIndex.Text.Integer

/-!
# Commands

What can be asked on a command line. Every command indexes a directory first and then answers from that index.
-/

namespace CallIndex

/-- The directory to index and the patterns to leave out. -/
structure Scope where
  path : String := "."
  exclude : List String := []
  deriving DecidableEq, Repr

/-- A command. -/
inductive Command where
  | index (scope : Scope) (force : Bool)
  | stats (scope : Scope) (asJson : Bool)
  | find (query : String) (kind : Option String) (scope : Scope) (asJson : Bool)
  | calls (method : String) (className : Option String) (scope : Scope) (asJson : Bool)
  | trace (entry : String) (depth : Option Nat) (withArguments : Bool) (scope : Scope) (asJson : Bool)
  | importers (file : String) (scope : Scope) (asJson : Bool)
  | graph (scope : Scope) (asJson : Bool)
  deriving DecidableEq, Repr

namespace Command

/-- What a command indexes. -/
def scope : Command → Scope
  | index scope .. | stats scope .. | find _ _ scope .. | calls _ _ scope .. | trace _ _ _ scope ..
  | importers _ scope .. | graph scope .. => scope

/-- The paths that a command looks up. -/
def paths : Command → List String
  | importers file scope _ => [file, scope.path]
  | command => [command.scope.path]

/-- The switch that asks for help. -/
def helpSwitch : Switch := { long := "help" }

/-- The switches of the commands that answer a query. -/
def querySwitches : List Switch := [
  { long := "path", letter := some 'p', takesValue := true },
  { long := "exclude", letter := some 'e', takesValue := true },
  { long := "json", letter := some 'j' },
  helpSwitch]

/-- The switches before the name of a command. -/
def leadingSwitches : List Switch := [{ long := "verbose", letter := some 'v' }, helpSwitch]

/-- The switches of a command; `none` for a name that is no command. -/
def switches? (name : String) : Option (List Switch) :=
  match name with
  | "index" => some [
      { long := "force", letter := some 'f' }, { long := "exclude", letter := some 'e', takesValue := true }, helpSwitch]
  | "find" => some ({ long := "type", letter := some 't', takesValue := true } :: querySwitches)
  | "calls" => some ({ long := "class", letter := some 'c', takesValue := true } :: querySwitches)
  | "trace" => some ({ long := "depth", letter := some 'd', takesValue := true } :: { long := "params" } :: querySwitches)
  | "stats" | "dependents" | "graph" => some querySwitches
  | _ => none

/-- The depth that is asked for: an integer, and not a negative one. -/
def depthOf? (s : String) : Option Nat :=
  match Text.integer? s.toList with
  | some n => if 0 ≤ n then some n.toNat else none
  | none => none

/-- The directory and the patterns that the words name. -/
def scopeOf (w : Words) : Scope :=
  { path := (w.value? "path").getD ".", exclude := w.values "exclude" }

/-- The command that the words after its name ask for, whatever its paths. -/
def ofAnyWords? (name : String) (w : Words) : Option Command :=
  let scope := scopeOf w
  let asJson := w.has "json"
  match name, w.operands with
  | "index", [] => some (.index scope (w.has "force"))
  | "index", [path] => some (.index { scope with path := path } (w.has "force"))
  | "stats", [] => some (.stats scope asJson)
  | "find", [query] => some (.find query (w.value? "type") scope asJson)
  | "calls", [method] => some (.calls method (w.value? "class") scope asJson)
  | "trace", [entry] =>
    match w.value? "depth" with
    | none => some (.trace entry none (w.has "params") scope asJson)
    | some d => (depthOf? d).map fun n => .trace entry (some n) (w.has "params") scope asJson
  | "dependents", [file] => some (.importers file scope asJson)
  | "graph", [] => some (.graph scope asJson)
  | _, _ => none

/-- The command that the words after its name ask for; its paths must be ones that can be looked up. -/
def ofWords? (name : String) (w : Words) : Option Command :=
  (ofAnyWords? name w).filter fun command => !command.paths.any hasZero

end Command

end CallIndex
