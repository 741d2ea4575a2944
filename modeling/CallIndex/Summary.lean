import CallIndex.Call.Site

/-!
# File summaries

The summary of a source file lists its declarations, its imports and exports and its call sites. The body of a
declaration is taken to run from its own line to the line before the next declaration of the file.

* `FileSummary.nextDeclaration?` is the least declaration line above a given line.
* `callsWithin` keeps the calls of a half-open range of lines.
-/

namespace CallIndex

open Call (CallSite)

/-- A class, interface or trait. The interfaces are those of the bases that the class implements. -/
structure ClassDecl where
  name : String
  line : Int
  methodNames : List String := []
  propertyNames : List String := []
  bases : List String := []
  interfaces : List String := []
  deriving DecidableEq, Repr

/-- A free function. -/
structure FunctionDecl where
  name : String
  line : Int
  parameters : List String := []
  isAsync : Bool := false
  deriving DecidableEq, Repr

/-- A method and the name of its class. -/
structure MethodDecl where
  className : String
  name : String
  line : Int
  parameters : List String := []
  isAsync : Bool := false
  isStatic : Bool := false
  deriving DecidableEq, Repr

/-- The name of a method within its file. -/
def MethodDecl.qualifiedName (m : MethodDecl) : String :=
  m.className ++ "::" ++ m.name

/-- What is known of one source file. -/
structure FileSummary where
  path : String := ""
  language : String := "python"
  classes : List ClassDecl := []
  functions : List FunctionDecl := []
  methods : List MethodDecl := []
  imports : List String := []
  exports : List String := []
  calls : List CallSite := []
  digest : String := ""
  deriving DecidableEq, Repr

namespace FileSummary

/-- The lines of all declarations, sorted. -/
def declarationLines (s : FileSummary) : List Int :=
  (s.classes.map (·.line) ++ s.functions.map (·.line) ++ s.methods.map (·.line)).mergeSort

/-- The methods whose class is not declared in the file. -/
def orphanMethods (s : FileSummary) : List MethodDecl :=
  s.methods.filter fun m => !(s.classes.any fun c => c.name = m.className)

/-- The least declaration line above `line`. -/
def nextDeclaration? (s : FileSummary) (line : Int) : Option Int :=
  s.declarationLines.find? (line < ·)

/-- The summary as it reads for another path: calls made by the file itself move along. -/
def relocate (s : FileSummary) (path : String) : FileSummary :=
  if s.path = path then s
  else { s with
    path := path
    calls := s.calls.map fun c => if c.caller = s.path then { c with caller := path } else c }

end FileSummary

/-- The calls with `start ≤ line < stop`; without `stop` there is no upper bound. -/
def callsWithin (calls : List CallSite) (start : Int) (stop : Option Int) : List CallSite :=
  calls.filter fun c => start ≤ c.line && stop.all (c.line < ·)

end CallIndex
