import CallIndex.Fault
import CallIndex.Text.Basic

/-!
# Execution traces

A trace lists the symbols reached from an entry in the order in which a depth-first walk meets them. The depth of a
step counts down from the depth of the trace; a step at depth zero is listed and not expanded. A back-reference names
a symbol that was met before.
-/

namespace CallIndex.Trace

/-- A call out of a traced symbol. -/
structure TraceCall where
  target : String
  line : Int
  raw : String
  arguments : Option String := none
  isBack : Bool := false
  deriving DecidableEq, Repr

/-- One symbol of a trace, with the calls out of it. -/
structure Step where
  symbol : String
  depth : Int
  isResolved : Bool := true
  isBack : Bool := false
  calls : List TraceCall := []
  deriving DecidableEq, Repr

/-- The steps from an entry, in pre-order. -/
structure ExecutionTrace where
  entry : String
  maxDepth : Int
  steps : List Step := []
  deriving DecidableEq, Repr

/-- Places in a text lie below this number. -/
def placeBound : Int := 9223372036854775808

/-- So many steps of an indentation take more memory than there is. -/
def memoryBound : Int := 4294967296

/-- The blanks before a step that is `distance` steps away from the entry; none for a step before it. -/
def indentation (distance : Int) : Except IndentFault String :=
  if distance < -placeBound || placeBound ≤ distance then .error .noPlace
  else if placeBound ≤ 2 * distance then .error .tooLong
  else if memoryBound ≤ distance then .error .noMemory
  else .ok (Text.repeated distance.toNat "  ")

namespace ExecutionTrace

/-- The symbols met, back-references left out. -/
def symbols (t : ExecutionTrace) : List String :=
  (t.steps.filter (!·.isBack)).map (·.symbol)

/-- One line for a step, indented by its distance from the entry. -/
def stepLine (t : ExecutionTrace) (s : Step) : Except IndentFault String :=
  return (← indentation (t.maxDepth - s.depth)) ++ s.symbol ++
    (if s.isBack then "  (cycle)" else if s.isResolved then "" else "  (unresolved)")

/-- The trace as indented lines. -/
def render (t : ExecutionTrace) : Except IndentFault String :=
  return Text.join "\n" (← t.steps.mapM t.stepLine)

/-- The trace on one line. -/
def summary (t : ExecutionTrace) : String :=
  "ExecutionTrace(" ++ Text.join " -> " t.symbols ++ ")"

end ExecutionTrace

end CallIndex.Trace
