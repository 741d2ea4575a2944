import CallIndex.Call.Target
import CallIndex.Index

/-!
# Queries

The calls that a method or function makes, and the calls that a file makes to a method checked against the parameters
of the method.
-/

namespace CallIndex

open Call (CallSite)

namespace Index

/-- The calls out of an entry with their normalised targets. -/
def normalisedCalls (ix : Index) (externals : List String) (e : SymbolEntry) : List CallSite :=
  (ix.bodyCalls e).filterMap fun c =>
    (Call.target? externals c.raw e.ownerClass?).map fun target =>
      { c with caller := e.qualifiedName, callee := target, rawCallee := some c.raw }

/-- The calls inside every declaration of a method of the given class. Without a class, a function is looked for
first. -/
def callsFrom (ix : Index) (externals : List String) (className : Option String) (method : String) :
    Except Fault (List CallSite) := do
  let method := Text.trimmed method
  if method = "" then throw .emptyMethodName
  let find := fun query kind => (ix.symbols.find query (some kind)).mapError Fault.dangling
  let entries ← match className with
    | some c =>
      if c = "" then free find method else find (Text.trimmed c ++ "::" ++ method) .methodKind
    | none => free find method
  return entries.flatMap (ix.normalisedCalls externals)
where
  free (find : String → SymbolKind → Except Fault (List SymbolEntry)) (method : String) :
      Except Fault (List SymbolEntry) := do
    let functions ← find method .functionKind
    if functions.isEmpty then find method .methodKind else return functions

end Index

/-- Does a normalised target name the method `method` of the class `className`, the case of the class apart? -/
def targetsMethod (target className method : String) : Bool :=
  let (left, member) := match Text.cutAtLast? "::".toList target.toList with
    | some (left, member) => (String.ofList left, String.ofList member)
    | none => ("", target)
  member = method && Text.lowerCase left = Text.lowerCase className

/-- The calls of a file to a method, and what is wrong with them. -/
structure SignatureCheck where
  expected : Option MethodDecl := none
  calls : List CallSite := []
  issues : List String := []
  deriving DecidableEq, Repr

/-- A check without issues. -/
def SignatureCheck.isMatch (c : SignatureCheck) : Bool :=
  c.issues.isEmpty

/-- The issue of a call to `qualified` with too many arguments. Calls whose arguments go on behind their line are not
counted. -/
def argumentIssue? (qualified : String) (declared : Nat) (c : CallSite) : Option String :=
  match c.arguments with
  | none => none
  | some arguments =>
    if "...".toList.isSuffixOf arguments.toList then none
    else
      let count := (Source.splitTopLevel arguments.toList).length
      if declared < count then some s!"line {c.line}: {count} arguments, {qualified} takes {declared}" else none

namespace Index

/-- The class that a self-reference on a line refers to, by the last declaration at or above the line. `sorted` are
the declarations of the file, by line. -/
def ownerAt? (sorted : List SymbolEntry) (line : Int) : Option String :=
  ((sorted.filter fun e => e.line ≤ line).getLast?).bind (·.ownerClass?)

/-- Checks the calls that the file `path` makes to a method. -/
def checkSignature (ix : Index) (externals : List String) (path className method : String) :
    Except Fault SignatureCheck := do
  let className := Text.trimmed className
  let method := Text.trimmed method
  if className = "" || method = "" then throw .emptyClassOrMethodName
  let qualified := className ++ "::" ++ method
  if !ix.files.contains path then return { issues := ["Calling file not analyzed"] }
  let found ← (ix.symbols.find qualified (some .methodKind)).mapError Fault.dangling
  let definitions := found.filterMap fun e =>
    match e.declaration with
    | .ofMethod m => some m
    | _ => none
  match definitions with
  | [] => return { issues := [s!"Method definition not found: {qualified}"] }
  | expected :: _ =>
    let inFile ← (ix.symbols.inFile path).mapError Fault.dangling
    let sorted := inFile.mergeSort fun a b => a.line ≤ b.line
    let calls := (ix.callsOf path).filterMap fun c =>
      match Call.target? externals c.raw (ownerAt? sorted c.line) with
      | some target =>
        if targetsMethod target className method then some { c with callee := target, rawCallee := some c.raw }
        else none
      | none => none
    let issues := calls.filterMap (argumentIssue? qualified expected.parameters.length)
    return {
      expected := some expected
      calls := calls
      issues := if calls.isEmpty then issues ++ [s!"No calls to {qualified}"] else issues }

end Index

end CallIndex
