import CallIndex.Text.WordTable
import CallIndex.Text.PrintTable
import CallIndex.Text.CaseTable

/-!
# Character classes

The classes that the scanners and printers go by: characters of a word, decimal digits, blanks, characters that are
shown as themselves, and the lower-case form of a text.

* `isWord` holds of letters, digits, other numeric signs and the underscore.
* `isWordStart` leaves out the decimal digits, and nothing else, of `isWord`.
* `lowerCase` lengthens a text only at a capital I with a dot above.
-/

namespace CallIndex.Text

/-- Membership in an increasing list of closed intervals; the search ends at the first interval above `n`. -/
def inRanges (n : Nat) : List (Nat × Nat) → Bool
  | [] => false
  | (lo, hi) :: rest => if n < lo then false else if n ≤ hi then true else inRanges n rest

/-- A decimal digit of any script. -/
def isDecimal (c : Char) : Bool :=
  inRanges c.toNat decimalRanges

/-- A letter, a digit, another numeric sign, or the underscore. -/
def isWord (c : Char) : Bool :=
  c == '_' || inRanges c.toNat alphanumericRanges

/-- A character that may begin a name: one of a word, but no decimal digit. -/
def isWordStart (c : Char) : Bool :=
  isWord c && !isDecimal c

/-- Code points of blanks: the spaces of all widths, the line breaks and the four information separators. -/
def blankRanges : List (Nat × Nat) := [
  (0x9, 0xd), (0x1c, 0x20), (0x85, 0x85), (0xa0, 0xa0), (0x1680, 0x1680), (0x2000, 0x200a), (0x2028, 0x2029),
  (0x202f, 0x202f), (0x205f, 0x205f), (0x3000, 0x3000)]

/-- White space. -/
def isBlank (c : Char) : Bool :=
  inRanges c.toNat blankRanges

/-- A character that a quoted text shows as itself. -/
def isPrintable (c : Char) : Bool :=
  !inRanges c.toNat unprintableRanges

/-- The value of a decimal digit: its distance from the zero of its run of ten. -/
def decimalValue? (c : Char) : Option Nat :=
  go decimalRanges
where
  go : List (Nat × Nat) → Option Nat
    | [] => none
    | (lo, hi) :: rest => if lo ≤ c.toNat && c.toNat ≤ hi then some ((c.toNat - lo) % 10) else go rest

/-- The lower-case form of a character where it is one character. -/
def lowerChar (c : Char) : Char :=
  go lowerRuns
where
  go : List CaseRun → Char
    | [] => c
    | r :: rest =>
      if c.toNat < r.first then c
      else if c.toNat ≤ r.last then
        if (c.toNat - r.first) % r.step = 0 then Char.ofNat (Int.toNat (c.toNat + r.shift)) else c
      else go rest

/-- A capital sigma is final when a letter with case comes before it and none after it, ignorable characters
passed over on both sides. `before` is the text to its left, nearest first. -/
def isFinalSigma (before after : List Char) : Bool :=
  let ignorable := fun (c : Char) => inRanges c.toNat caseIgnorableRanges
  let cased := fun (c : Char) => inRanges c.toNat casedRanges
  (before.dropWhile ignorable).head?.any cased && !(after.dropWhile ignorable).head?.any cased

/-- The lower-case form of a text that follows `before` (nearest character first). -/
def lowerAfter (before : List Char) : List Char → List Char
  | [] => []
  | c :: rest =>
    if c = 'Σ' then (if isFinalSigma before rest then 'ς' else 'σ') :: lowerAfter (c :: before) rest
    else if c = 'İ' then 'i' :: '̇' :: lowerAfter (c :: before) rest
    else lowerChar c :: lowerAfter (c :: before) rest

/-- The lower-case form of a text. -/
def lowerCase (s : String) : String :=
  String.ofList (lowerAfter [] s.toList)

end CallIndex.Text
