import CallIndex.Text.Basic

/-!
# Written integers

An integer is a sign and digits, with blanks around it. It may start with needless zeros, end in a fraction of zeros,
and have single underscores between its digits; these are taken away in turn, and what is left must be a plain integer.

* `plainInteger?` reads an integer without any of this.
* `integer?` reads an integer as people write it.
-/

namespace CallIndex.Text

/-- The largest number of characters of a plain integer. -/
def maxDigits : Nat := 4300

/-- The value of digits. -/
def ofDigits (ds : List Char) : Nat :=
  ds.foldl (fun n d => n * 10 + (d.toNat - '0'.toNat)) 0

/-- The value of a natural number without needless zeros. -/
def plainNatural? (s : List Char) : Option Nat :=
  match s with
  | [] => none
  | c :: rest => if s.all Char.isDigit && (c ≠ '0' || rest.isEmpty) then some (ofDigits s) else none

/-- The value of an integer without needless zeros, with a minus sign or none. -/
def plainInteger? (s : List Char) : Option Int :=
  if maxDigits < s.length then none
  else match s with
    | '-' :: digits => (plainNatural? digits).map fun n => -(n : Int)
    | digits => (plainNatural? digits).map fun n => (n : Int)

/-- A blank that may stand around a number; the information separators may not. -/
def isMargin (c : Char) : Bool :=
  isBlank c && !(0x1c ≤ c.toNat && c.toNat ≤ 0x1f)

/-- The text without the blanks around it. -/
def withoutMargins (s : List Char) : List Char :=
  ((s.dropWhile isMargin).reverse.dropWhile isMargin).reverse

/-- The text without its plus sign; one before a minus sign stays. -/
def withoutPlus : List Char → List Char
  | '+' :: '-' :: s => '+' :: '-' :: s
  | '+' :: s => s
  | s => s

/-- What follows the zeros and underscores at the front of a text whose last character so far is `last`. The last zero
stays before a point and at the end. -/
def behindZeros? (last : Char) : List Char → Option (List Char)
  | [] => some [last]
  | c :: s =>
    if c = '0' || c = '_' then behindZeros? c s
    else if c.isDigit || c = '-' then some (c :: s)
    else if c = '.' then some (last :: c :: s)
    else none

/-- The text without needless zeros at its front; there is none when it starts with neither a digit nor a minus. -/
def withoutZeros? : List Char → Option (List Char)
  | [] => none
  | c :: s =>
    if c = '0' then behindZeros? c s
    else if c.isDigit || c = '-' then some (c :: s)
    else none

/-- The text without a fraction of zeros, of which there is at least one. -/
def withoutFraction (s : List Char) : List Char :=
  match cutAt? ['.'] s with
  | some (whole, zeros) => if !zeros.isEmpty && zeros.all (· = '0') then whole else s
  | none => s

/-- The text without its underscores, when none of them stands at an end or beside another one. -/
def withoutUnderscores (s : List Char) : List Char :=
  if s.head? = some '_' || s.getLast? = some '_' || occurs ['_', '_'] s then s else s.filter (· ≠ '_')

/-- The digits of a text without needless zeros, fraction and underscores. -/
def plainForm? (s : List Char) : Option (List Char) :=
  (withoutZeros? s).map fun s => withoutUnderscores (withoutFraction s)

/-- The value of a written integer. -/
def integer? (s : List Char) : Option Int :=
  match withoutPlus (withoutMargins s) with
  | '-' :: s => (plainForm? s).bind fun s => plainInteger? ('-' :: s)
  | s => (plainForm? s).bind plainInteger?

end CallIndex.Text
