import CallIndex.Call.Chain

/-!
# Call targets

A call chain is normalised to the symbol it presumably calls: `Class::member`, a bare name, or nothing when it calls
on an object of the platform.

* A self-reference with one member is a member of the owner, and nothing outside of any class.
* A leading self-reference of a longer chain is dropped.
* One name stands for itself, and a chain of scopes only for itself.
* Of any other chain the last two names are kept, unless its root or its next-to-last name is external.
-/

namespace CallIndex.Call

/-- Objects of the platforms, calls on which are left out. -/
def defaultExternals : List String := [
  "Array", "JSON", "Math", "Object", "Promise", "console", "document", "fs", "json", "log", "logger", "logging", "os",
  "path", "process", "re", "server", "sys", "window"]

/-- Names by which a method refers to its own class or object. -/
def selfNames : List String := ["self", "cls", "this", "$this", "static"]

/-- A name without its leading dollar signs. -/
def bareName (s : List Char) : List Char :=
  s.dropWhile (· = '$')

/-- Is the name, dollar signs apart, that of an external object? -/
def isExternal (externals : List String) (s : List Char) : Bool :=
  externals.contains (String.ofList (bareName s))

/-- The target of a chain without a leading self-reference. -/
def chainTarget (externals : List String) (chain : Chain) : Option (List Char) :=
  match chain.links.getLast? with
  | none => some chain.root
  | some (_, last) =>
    if chain.separators.all (· = .scope) then some chain.render
    else
      let left := ((chain.links.dropLast.getLast?).map (·.2)).getD chain.root
      if isExternal externals chain.root || isExternal externals left then none
      else some (bareName left ++ "::".toList ++ bareName last)

/-- The symbol that a call chain calls from inside the class `owner`. -/
def target? (externals : List String) (raw : String) (owner : Option String) : Option String :=
  let chain := Chain.cut (Text.trim raw.toList)
  if selfNames.contains (String.ofList chain.root) then
    match chain.links with
    | [] => some (String.ofList chain.root)
    | [(_, member)] => owner.map fun o => o ++ "::" ++ String.ofList (bareName member)
    | (_, first) :: links => (chainTarget externals ⟨first, links⟩).map String.ofList
  else (chainTarget externals chain).map String.ofList

end CallIndex.Call
