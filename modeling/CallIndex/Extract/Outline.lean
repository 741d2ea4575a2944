import CallIndex.Block
import CallIndex.Summary

/-!
# Outlines

An outline collects what a scan of the lines of a source finds: declarations, imports and exports, the names declared
on each line, and the problems met. It does not know the path of the file; `Findings.summary` adds it. All languages are
scanned line by line (`runLines`), and those with braces keep a `BlockScan` between the lines.
-/

namespace CallIndex.Extract

/-- Something that a scan could not make sense of. -/
inductive Problem where
  | openRegion (region : Source.OpenRegion)
  | openBracket (line : Nat)
  | brace (problem : BraceProblem)
  deriving DecidableEq, Repr

/-- The wording of a problem. -/
def Problem.message : Problem → String
  | openRegion region => region.message
  | openBracket line => (Source.BracketFault.unclosed line).message
  | brace problem => problem.message

/-- What has been found so far. Classes are known by their position in `classes`. -/
structure Outline where
  classes : List ClassDecl := []
  functions : List FunctionDecl := []
  methods : List MethodDecl := []
  imports : List String := []
  exports : List String := []
  declared : List (Nat × String) := []
  problems : List Problem := []
  deriving DecidableEq, Repr

namespace Outline

/-- Notes that `name` is declared on line `line`. -/
def declare (o : Outline) (line : Nat) (name : String) : Outline :=
  { o with declared := o.declared ++ [(line, name)] }

/-- Adds a class. -/
def addClass (o : Outline) (c : ClassDecl) : Outline :=
  { o with classes := o.classes ++ [c] }

/-- Adds a function. -/
def addFunction (o : Outline) (f : FunctionDecl) : Outline :=
  { o with functions := o.functions ++ [f] }

/-- Adds a method, and its name to the class at position `owner`, if there is one. -/
def addMethod (o : Outline) (owner : Option Nat) (m : MethodDecl) : Outline :=
  { o with
    methods := o.methods ++ [m]
    classes := match owner with
      | some i => o.classes.modify i fun c => { c with methodNames := c.methodNames ++ [m.name] }
      | none => o.classes }

/-- Adds property names to the class at position `owner`; a name is listed once. -/
def addProperties (o : Outline) (owner : Nat) (names : List String) : Outline :=
  { o with
    classes := o.classes.modify owner fun c =>
      { c with propertyNames := names.foldl (fun ps p => if ps.contains p then ps else ps ++ [p]) c.propertyNames } }

/-- Adds imported modules. -/
def addImports (o : Outline) (names : List String) : Outline :=
  { o with imports := o.imports ++ names }

/-- Adds exported names. -/
def addExports (o : Outline) (names : List String) : Outline :=
  { o with exports := o.exports ++ names }

/-- Notes a problem. -/
def addProblem (o : Outline) (p : Problem) : Outline :=
  { o with problems := o.problems ++ [p] }

end Outline

/-- The trimmed top-level parts of the text in the bracket at column `col` of the first of `lines`. When the bracket
is not closed there are none, and that is a problem of line `number`. -/
def bracketParts (number : Nat) (lines : List Source.Line) (col : Nat) : List (List Char) × List Problem :=
  match Source.bracketText? lines col with
  | some text => (Source.splitTopLevel text, [])
  | none => ([], [.openBracket number])

/-- The scan of a language with braces between two lines: the outline so far and the open blocks, each owned by a class
known by its position. -/
structure BlockScan where
  outline : Outline := {}
  blocks : BlockState Nat := {}

/-- Reads lines that are numbered from `number` on. What `step` makes of a line may depend on the lines behind it. -/
def runLines {σ : Type} (step : σ → Nat → Source.Line → List Source.Line → σ) (st : σ) (number : Nat) :
    List Source.Line → σ
  | [] => st
  | line :: rest => runLines step (step st number line rest) (number + 1) rest

/-- All that a scan finds in a source, the path of the file apart. -/
structure Findings where
  outline : Outline := {}
  calls : List Call.Occurrence := []
  problems : List Problem := []
  deriving DecidableEq, Repr

/-- The findings as the summary of the file at `path`. -/
def Findings.summary (f : Findings) (path language digest : String) : FileSummary where
  path := path
  language := language
  classes := f.outline.classes
  functions := f.outline.functions
  methods := f.outline.methods
  imports := f.outline.imports
  exports := f.outline.exports
  calls := f.calls.map (Call.CallSite.ofOccurrence path)
  digest := digest

end CallIndex.Extract
