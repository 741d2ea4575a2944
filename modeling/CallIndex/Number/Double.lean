/-!
# Numbers of double precision

A number of double precision is a whole multiple of a power of two, with at most 53 binary digits and a bounded
exponent; there are two zeros, two infinities, and a value that is no number.

* `Double.ofRatio` gives the number nearest to a quotient, of two equally near ones the even one.
* `Double.ofDecimal` does so for decimal digits and a power of ten.
* `Double.integer?` gives the value of a number that is an integer.
-/

namespace CallIndex

/-- A number of double precision. -/
inductive Double where
  /-- The number `± significand * 2 ^ exponent`. -/
  | finite (isNegative : Bool) (significand : Nat) (exponent : Int)
  | infinite (isNegative : Bool)
  /-- No number at all. -/
  | undefined
  deriving DecidableEq, Repr

/-- The quotient `num / den`, divided by a power of `base`, as numerator and denominator. -/
def scaledRatio (base num den : Nat) (power : Int) : Nat × Nat :=
  if 0 ≤ power then (num, den * Nat.pow base power.toNat) else (num * Nat.pow base (-power).toNat, den)

/-- The natural number nearest to `num / den`; a half goes to the even neighbour. -/
def nearestNat (num den : Nat) : Nat :=
  let floor := num / den
  let twice := 2 * (num % den)
  if twice < den then floor
  else if den < twice then floor + 1
  else floor + floor % 2

namespace Double

/-- Significands lie below this number. -/
def significandBound : Nat := Nat.pow 2 53

/-- The smallest exponent. -/
def leastExponent : Int := -1074

/-- The largest exponent. -/
def greatestExponent : Int := 971

/-- A zero. -/
def zero (isNegative : Bool) : Double :=
  .finite isNegative 0 leastExponent

/-- The exponent with which `num / den` has 53 binary digits before the point, or the smallest exponent. The first guess
is at most one too small. -/
def exponentOf (num den : Nat) : Int :=
  let guess : Int := (num.log2 : Int) - den.log2 - 53
  let (n, d) := scaledRatio 2 num den guess
  max leastExponent (if n / d < significandBound then guess else guess + 1)

/-- The number nearest to `± num / den`. -/
def ofRatio (isNegative : Bool) (num den : Nat) : Double :=
  if num = 0 then zero isNegative
  else
    let exponent := exponentOf num den
    let (n, d) := scaledRatio 2 num den exponent
    let significand := nearestNat n d
    let (significand, exponent) :=
      if significand = significandBound then (significand / 2, exponent + 1) else (significand, exponent)
    if greatestExponent < exponent then .infinite isNegative else .finite isNegative significand exponent

/-- The number nearest to `± digits * 10 ^ power`. Far from one, where the answer is infinite or zero, nothing is
computed. -/
def ofDecimal (isNegative : Bool) (digits : Nat) (power : Int) : Double :=
  if digits = 0 then zero isNegative
  else if 310 < power then .infinite isNegative
  else if power + digits.log2 < -1100 then zero isNegative
  else
    let (num, den) := scaledRatio 10 digits 1 (-power)
    ofRatio isNegative num den

/-- Is the number less than zero? -/
def isNegative : Double → Bool
  | finite negative significand _ => negative && significand ≠ 0
  | infinite negative => negative
  | undefined => false

/-- Is the number one of the zeros? -/
def isZero : Double → Bool
  | finite _ significand _ => significand = 0
  | _ => false

/-- The value of a number that is an integer. -/
def integer? : Double → Option Int
  | finite negative significand exponent =>
    let (num, den) := scaledRatio 2 significand 1 (-exponent)
    if num % den = 0 then some (if negative then -((num / den : Nat) : Int) else ((num / den : Nat) : Int)) else none
  | _ => none

/-- The least natural number that is not below the number; larger than every finite number where there is none. -/
def ceiling : Double → Nat
  | finite negative significand exponent =>
    let (num, den) := scaledRatio 2 significand 1 (-exponent)
    if negative then 0 else (num + (den - 1)) / den
  | _ => Nat.pow 2 1024

end Double

end CallIndex
