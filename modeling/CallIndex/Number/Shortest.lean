import CallIndex.Number.Double

/-!
# Shortest decimals

A number of double precision is written with the fewest decimal digits from which it can be read back; of several
decimals with so many digits the nearest is taken. The digits stand around a point for numbers of moderate size, and
before a power of ten otherwise.

* `Double.shortest` chooses the digits.
* `Double.write` lays them out.
-/

namespace CallIndex

/-- The number `digits * 10 ^ power`. -/
structure Decimal where
  digits : Nat
  power : Int
  deriving DecidableEq, Repr

namespace Double

/-- Raises `power`, at most `steps` times, as long as the next power of ten is not above `num / den`. -/
def climb (num den : Nat) : Nat → Int → Int
  | 0, power => power
  | steps + 1, power =>
    let (n, d) := scaledRatio 10 num den (power + 1)
    if d ≤ n then climb num den steps (power + 1) else power

/-- The largest power of ten that is not above `num / den`. The guess from the binary digits, ten of which make up
three decimal ones, is too small by at most three. -/
def leadingPower (num den : Nat) : Int :=
  climb num den 4 (((num.log2 : Int) - den.log2 - 1) * 30103 / 100000 - 1)

/-- The two neighbours of `num / den` among the natural numbers, the nearer one first. -/
def neighbours (num den : Nat) : List Nat :=
  let nearest := nearestNat num den
  if nearest = num / den then [nearest, nearest + 1] else [nearest, nearest - 1]

/-- A decimal with `count` digits from which the positive number `x = num / den` can be read back. -/
def decimalWith? (x : Double) (num den count : Nat) : Option Decimal :=
  let power := leadingPower num den - count + 1
  let (n, d) := scaledRatio 10 num den power
  ((neighbours n d).find? fun digits => ofDecimal false digits power = x).map fun digits => ⟨digits, power⟩

/-- The shortest decimal from which `significand * 2 ^ exponent` can be read back; seventeen digits always suffice. -/
def shortest (significand : Nat) (exponent : Int) : Decimal :=
  let (num, den) := scaledRatio 2 significand 1 (-exponent)
  ((List.range 17).findSome? fun count => decimalWith? (.finite false significand exponent) num den (count + 1)).getD
    (if 0 ≤ exponent then ⟨num, 0⟩ else ⟨significand * Nat.pow 5 (-exponent).toNat, exponent⟩)

/-- A natural number with at least two digits. -/
def twoDigits (n : Nat) : String :=
  if n < 10 then "0" ++ toString n else toString n

/-- Digits without the zeros at their end. -/
def withoutFinalZeros (digits : List Char) : List Char :=
  (digits.reverse.dropWhile (· = '0')).reverse

/-- Digits with a point behind the first `place` of them. Between four zeros behind the point and sixteen digits before
it all zeros are written out; otherwise the point stands behind the first digit and a power of ten follows. -/
def layOut (digits : List Char) (place : Int) : String :=
  let zeros (n : Int) : List Char := List.replicate n.toNat '0'
  if -4 < place ∧ place ≤ 16 then
    String.ofList (
      if place ≤ 0 then '0' :: '.' :: zeros (-place) ++ digits
      else if digits.length ≤ place then digits ++ zeros (place - digits.length) ++ ['.', '0']
      else digits.take place.toNat ++ '.' :: digits.drop place.toNat)
  else
    let fraction := if digits.tail.isEmpty then "" else "." ++ String.ofList digits.tail
    String.ofList (digits.take 1) ++ fraction ++ (if place < 1 then "e-" else "e+") ++ twoDigits (place - 1).natAbs

/-- The words for what has no digits. -/
structure NumberWords where
  infinity : String
  undefined : String

/-- The text of a number. -/
def write (words : NumberWords) : Double → String
  | finite negative significand exponent =>
    let sign := if negative then "-" else ""
    if significand = 0 then sign ++ "0.0"
    else
      let d := shortest significand exponent
      let digits := Nat.toDigits 10 d.digits
      sign ++ layOut (withoutFinalZeros digits) (digits.length + d.power)
  | infinite negative => (if negative then "-" else "") ++ words.infinity
  | undefined => words.undefined

end Double

end CallIndex
