import CallIndex.Source.Mask

/-!
# Brackets

Bracketed text is found in the masked lines and read from the raw ones. Depth goes up at every opening and down at
every closing bracket, whatever their kinds.

* `bracketTextAt` reads from an opening bracket to the bracket that closes it, over several lines.
* `splitTopLevel` splits a text at the separators outside of all brackets.
-/

namespace CallIndex.Source

/-- An opening parenthesis, bracket or brace. -/
def isOpening (c : Char) : Bool :=
  c = '(' || c = '[' || c = '{'

/-- A closing parenthesis, bracket or brace. -/
def isClosing (c : Char) : Bool :=
  c = ')' || c = ']' || c = '}'

/-- How a line of code ends that is read with brackets open. -/
inductive Closing where
  /-- The bracket at this offset brings the depth to zero. -/
  | found (offset : Nat)
  /-- No bracket does; the depth at the end of the line. -/
  | pending (depth : Int)
  deriving DecidableEq, Repr

/-- Looks in a line of code, read from depth `depth` on, for the closing bracket that brings the depth to zero. -/
def seekClosing (depth : Int) : List Char → Closing
  | [] => .pending depth
  | c :: rest =>
    let next := if isOpening c then depth + 1 else if isClosing c then depth - 1 else depth
    if isClosing c && next = 0 then .found 0
    else match seekClosing next rest with
      | .found offset => .found (offset + 1)
      | .pending depth => .pending depth

/-- The number of lines over which a bracketed text may run. -/
def bracketLineLimit : Nat := 50

/-- The pieces of raw text, line by line, from the start of `lines` to the closing bracket, `budget` lines at most. -/
def bracketPieces? (budget : Nat) (depth : Int) : List Line → Option (List (List Char))
  | [] => none
  | line :: rest =>
    match budget with
    | 0 => none
    | budget + 1 =>
      match seekClosing depth line.code with
      | .found offset => some [line.raw.take offset]
      | .pending depth => (bracketPieces? budget depth rest).map (line.raw :: ·)

/-- Pieces of text stripped of blanks, the empty ones dropped, with a space between neighbours. -/
def joinPieces (pieces : List (List Char)) : List Char :=
  List.intercalate [' '] ((pieces.map Text.trim).filter (!·.isEmpty))

/-- Why the text of a bracket at a place cannot be read. -/
inductive BracketFault where
  /-- The bracket is not closed in time; the number of its line. -/
  | unclosed (line : Int)
  /-- There is no such line. -/
  | noLine
  /-- There is no such column. -/
  | noColumn
  /-- The number is not that of any place in a list. -/
  | noPlace
  deriving DecidableEq, Repr

/-- The wording of a fault. -/
def BracketFault.message : BracketFault → String
  | unclosed line => s!"unterminated parameter list at line {line}"
  | noLine => "list index out of range"
  | noColumn => "string index out of range"
  | noPlace => "cannot fit 'int' into an index-sized integer"

/-- The items from a place on. A place below zero counts from the end, and all items follow once more behind the last;
there is nothing before the first item. -/
def itemsFrom? {α : Type} (place : Int) (items : List α) : Option (List α) :=
  let size : Int := items.length
  if 0 ≤ place then some (items.drop place.toNat)
  else if 0 ≤ size + place then some (items.drop (size + place).toNat ++ items)
  else none

/-- Places of a list do not lie below this number. -/
def lowestPlace : Int := -9223372036854775808

/-- The fault of a place at which there is nothing: `otherwise`, unless it is too low for a place. -/
def missingAt (place : Int) (otherwise : BracketFault) : BracketFault :=
  if place < lowestPlace then .noPlace else otherwise

/-- The items between two places, of which one below zero counts from the end. -/
def itemsBetween {α : Type} (start stop : Int) (items : List α) : List α :=
  let offset := fun (place : Int) => (if place < 0 then items.length + place else place).toNat
  (items.take (offset stop)).drop (offset start)

/-- The raw text between the bracket at column `col` of the line with index `index` and the bracket that closes it.
Places below zero count from the end. -/
def bracketTextAt (lines : List Line) (index col : Int) : Except BracketFault (List Char) :=
  match itemsFrom? index lines with
  | none => .error (missingAt index .noLine)
  | some [] => .error (.unclosed (index + 1))
  | some (line :: rest) =>
    match itemsFrom? col line.code with
    | none => .error (missingAt col .noColumn)
    | some code =>
      match seekClosing 0 code with
      | .found offset => .ok (joinPieces [itemsBetween (col + 1) (col + offset) line.raw])
      | .pending depth =>
        match bracketPieces? (bracketLineLimit - 1) depth rest with
        | none => .error (.unclosed (index + 1))
        | some pieces => .ok (joinPieces (itemsBetween (col + 1) line.raw.length line.raw :: pieces))

/-- The raw text between the bracket at column `col` of the first line and the bracket that closes it, or nothing when
it is not closed in time. -/
def bracketText? (lines : List Line) (col : Nat) : Option (List Char) :=
  (bracketTextAt lines 0 col).toOption

/-- The argument text of a call whose parenthesis opens at column `col`. Only the line itself is read: arguments that
go on behind it end in three dots. -/
def argumentText (line : Line) (col : Nat) : List Char :=
  match seekClosing 0 (line.code.drop col) with
  | .found offset => Text.trim ((line.raw.drop (col + 1)).take (offset - 1))
  | .pending _ =>
    let rest := Text.trim (line.raw.drop (col + 1))
    if rest.isEmpty then "...".toList else rest ++ " ...".toList

/-- A bracket that opens a level for `splitTopLevel`; angle brackets count. -/
def opensLevel (c : Char) : Bool :=
  isOpening c || c = '<'

/-- A bracket that closes a level for `splitTopLevel`. -/
def closesLevel (c : Char) : Bool :=
  isClosing c || c = '>'

/-- The depth behind the character `c`; it never falls below zero. -/
def levelAfter (depth : Nat) (c : Char) : Nat :=
  if opensLevel c then depth + 1 else if closesLevel c then depth - 1 else depth

theorem levelAfter_of_isBlank {c : Char} (hc : Text.isBlank c) (depth : Nat) : levelAfter depth c = depth := by
  have hne : ∀ d, Text.isBlank d = false → c ≠ d := by
    rintro d hd rfl
    rw [hc] at hd
    cases hd
  have hopens : opensLevel c = false := by
    simp [opensLevel, isOpening, hne '(' (by decide), hne '[' (by decide), hne '{' (by decide), hne '<' (by decide)]
  have hcloses : closesLevel c = false := by
    simp [closesLevel, isClosing, hne ')' (by decide), hne ']' (by decide), hne '}' (by decide), hne '>' (by decide)]
  simp [levelAfter, hopens, hcloses]

/-- The pieces of a text, read from depth `depth` on, between the separators at depth zero. -/
def levelPieces (isSeparator : Char → Bool) (depth : Nat) : List Char → List (List Char)
  | [] => [[]]
  | c :: rest =>
    let depth := levelAfter depth c
    if isSeparator c && depth = 0 then [] :: levelPieces isSeparator depth rest
    else match levelPieces isSeparator depth rest with
      | [] => [[c]]
      | piece :: pieces => (c :: piece) :: pieces

/-- The trimmed pieces of a text between the separators outside of all brackets, without the empty ones. -/
def splitTopLevelBy (isSeparator : Char → Bool) (s : List Char) : List (List Char) :=
  ((levelPieces isSeparator 0 s).map Text.trim).filter (!·.isEmpty)

/-- The trimmed parts of a text between the commas outside of all brackets. -/
def splitTopLevel (s : List Char) : List (List Char) :=
  splitTopLevelBy (· = ',') s

end CallIndex.Source
