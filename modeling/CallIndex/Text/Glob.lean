/-!
# Glob patterns

In a pattern a star stands for any text, a question mark for one character, and a bracket for one character of a set:
single characters and ranges, or their complement behind an exclamation mark. A bracket that is not closed stands for
itself. Case matters.

* `Glob.matchesText` reads the pattern once, keeping the ends of text that may still be matched.
-/

namespace CallIndex.Text

/-- One element of a pattern. -/
inductive GlobItem where
  /-- Any text. -/
  | anyText
  /-- Any one character. -/
  | anyChar
  /-- One character. -/
  | char (c : Char)
  /-- One character in one of the ranges, or in none of them. -/
  | set (complement : Bool) (ranges : List (Char × Char))
  deriving DecidableEq, Repr

namespace Glob

/-- The text of a set behind its opening bracket, and what follows the closing one. A closing bracket that comes first,
or right behind the exclamation mark, belongs to the set. -/
def splitSet? (s : List Char) : Option (List Char × List Char) :=
  let mark := if s.head? = some '!' then ['!'] else []
  let s := s.drop mark.length
  let bracket := if s.head? = some ']' then [']'] else []
  let s := s.drop bracket.length
  match s.dropWhile (· ≠ ']') with
  | [] => none
  | _ :: rest => some (mark ++ bracket ++ s.takeWhile (· ≠ ']'), rest)

/-- Cuts the text of a set at the hyphens that make ranges; the first `skip` characters of a piece make none. -/
def cutRanges (skip : Nat) (s : List Char) : List (List Char) :=
  match (s.drop skip).findIdx? (· = '-') with
  | none => [s]
  | some n =>
    if (s.drop (skip + n + 1)).length < s.length then s.take (skip + n) :: cutRanges 2 (s.drop (skip + n + 1))
    else [s]
termination_by s.length

/-- A hyphen at the end of a set stands for itself. -/
def closeRanges : List (List Char) → List (List Char)
  | [piece, []] => [piece ++ ['-']]
  | piece :: pieces => piece :: closeRanges pieces
  | [] => []

/-- Drops the ranges that run backwards, together with their two ends. -/
def dropBackward (pieces : List (List Char)) : List (List Char) :=
  pieces.foldr (fun piece rest =>
    match rest with
    | [] => [piece]
    | next :: others =>
      match piece.getLast?, next.head? with
      | some lo, some hi => if hi < lo then (piece.dropLast ++ next.tail) :: others else piece :: rest
      | _, _ => piece :: rest) []

/-- The ranges between the ends of neighbouring pieces. -/
def rangesBetween : List (List Char) → List (Char × Char)
  | piece :: next :: rest =>
    let here := match piece.getLast?, next.head? with
      | some lo, some hi => [(lo, hi)]
      | _, _ => []
    here ++ rangesBetween (next :: rest)
  | _ => []

/-- The set with the given text. -/
def readSet (body : List Char) : GlobItem :=
  let pieces := dropBackward (closeRanges (cutRanges (if body.head? = some '!' then 2 else 1) body))
  let complement := (pieces.head?.bind (·.head?)) = some '!'
  let pieces := if complement then (pieces.head?.getD []).tail :: pieces.tail else pieces
  .set complement (pieces.flatten.map (fun c => (c, c)) ++ rangesBetween pieces)

/-- Reads a pattern. -/
def read (s : List Char) : List GlobItem :=
  match s with
  | [] => []
  | c :: rest =>
    if c = '*' then .anyText :: read rest
    else if c = '?' then .anyChar :: read rest
    else if c = '[' then
      match splitSet? rest with
      | some (body, behind) =>
        if behind.length ≤ rest.length then readSet body :: read behind else []
      | none => .char c :: read rest
    else .char c :: read rest
termination_by s.length

/-- The ends of a text, the whole text first. -/
def ends : List Char → List (List Char)
  | [] => [[]]
  | c :: s => (c :: s) :: ends s

/-- The rests of texts that start with a character of a class. -/
def restsAfter (p : Char → Bool) (states : List (List Char)) : List (List Char) :=
  states.filterMap fun
    | [] => none
    | c :: rest => if p c then some rest else none

/-- The texts that remain to be matched behind one item, longest first. -/
def advance (states : List (List Char)) : GlobItem → List (List Char)
  | .anyText => (states.head?.map ends).getD []
  | .anyChar => restsAfter (fun _ => true) states
  | .char d => restsAfter (fun c => c = d) states
  | .set complement ranges =>
    restsAfter (fun c => (ranges.any fun (lo, hi) => lo ≤ c && c ≤ hi) != complement) states

/-- Does the pattern match the whole text? -/
def matchesText (pattern text : String) : Bool :=
  ((read pattern.toList).foldl advance [text.toList]).contains []

end Glob

end CallIndex.Text
