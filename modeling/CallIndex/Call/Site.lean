import CallIndex.Call.Chain
import CallIndex.Source.Bracket

/-!
# Call sites

A call is a chain of names followed by an opening parenthesis in the masked code. It may not begin inside a word or
behind a member separator.

* `scanCalls` lists the calls of a source, line by line and from left to right.
-/

namespace CallIndex.Call

/-- A call as it stands in a source: the chain as written, the line, and the text of the arguments. -/
structure Occurrence where
  callee : String
  line : Int
  arguments : String
  deriving DecidableEq, Repr

/-- A call site of a file. While `rawCallee` is missing, `callee` is the chain as written; otherwise `callee` is the
normalised target. -/
structure CallSite where
  caller : String
  callee : String
  line : Int
  arguments : Option String := none
  rawCallee : Option String := none
  deriving DecidableEq, Repr

namespace CallSite

/-- The chain as written. -/
def raw (site : CallSite) : String :=
  site.rawCallee.getD site.callee

/-- The call site of an occurrence, with the file itself as its caller. -/
def ofOccurrence (path : String) (o : Occurrence) : CallSite :=
  { caller := path, callee := o.callee, line := o.line, arguments := some o.arguments }

end CallSite

/-- May a call begin behind the text `before` (nearest character first)? Not inside a word and not behind a member
separator. -/
def mayBegin (before : List Char) : Bool :=
  match before with
  | [] => true
  | '>' :: '-' :: _ => false
  | ':' :: ':' :: _ => false
  | c :: _ => !(Text.isWord c || c = '$' || c = '#' || c = '.')

/-- A chain of names and the opening parenthesis behind it. -/
def scanCallee (before : List Char) : Text.Scan Chain := do
  if !mayBegin before then failure
  let chain ← scanChain
  Text.Scan.blanks
  Text.Scan.char '('
  return chain

/-- Is the chain, written on line `line`, recorded as a call? Not when it ends in a variable, and not when it is a
single name that is a keyword or is declared on that line. -/
def isRecorded (keywords : List String) (declared : List (Nat × String)) (line : Nat) (chain : Chain) : Bool :=
  match chain.segments with
  | [] => false
  | [name] =>
    !(name.head? = some '$') && !keywords.contains (String.ofList name) &&
      !declared.contains (line, String.ofList name)
  | segments => !(segments.getLast?.bind (·.head?) = some '$')

/-- The calls on one line. -/
def lineCalls (keywords : List String) (declared : List (Nat × String)) (number : Nat) (line : Source.Line) :
    List Occurrence :=
  (Text.Scan.hits scanCallee line.code).filterMap fun hit =>
    if isRecorded keywords declared number hit.value then
      some {
        callee := String.ofList hit.value.render
        line := number
        arguments := String.ofList (Source.argumentText line (hit.stop - 1)) }
    else none

/-- The calls on lines that are numbered from `number` on. -/
def scanCallsFrom (keywords : List String) (declared : List (Nat × String)) (number : Nat) :
    List Source.Line → List Occurrence
  | [] => []
  | line :: rest =>
    lineCalls keywords declared number line ++ scanCallsFrom keywords declared (number + 1) rest

/-- The calls of a source. A single name that is a keyword, or that `declared` lists for its line, is no call. -/
def scanCalls (keywords : List String) (declared : List (Nat × String)) (lines : List Source.Line) :
    List Occurrence :=
  scanCallsFrom keywords declared 1 lines

end CallIndex.Call
