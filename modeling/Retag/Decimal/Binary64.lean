/-!
Binary floating point numbers of 64 bits, as exact values. A decimal number goes to the nearest one;
of two equally near ones, to the one with even significand.
-/

set_option autoImplicit false

namespace Retag

/-- A finite number is its significand times two to its exponent. -/
inductive Binary64 where
  | finite (negative : Bool) (significand : Nat) (exponent : Int)
  | infinite (negative : Bool)
  | nan
  deriving DecidableEq, Repr

namespace Binary64

def significandLimit : Nat := Nat.pow 2 53

def leastExponent : Int := -1074

def greatestExponent : Int := 971

/-- A quotient to the nearest number, a tie to the even one. -/
def roundDiv (numerator denominator : Nat) : Nat :=
  let quotient := numerator / denominator
  let twice := 2 * (numerator % denominator)
  if twice < denominator then quotient
  else if twice = denominator then quotient + quotient % 2
  else quotient + 1

def scaled (numerator denominator : Nat) (exponent : Int) : Nat × Nat :=
  (numerator * Nat.pow 2 (-exponent).toNat, denominator * Nat.pow 2 exponent.toNat)

def ofQuotient (negative : Bool) (numerator denominator : Nat) : Binary64 :=
  let guess : Int := (numerator.log2 : Int) - denominator.log2 - 53
  let fits (exponent : Int) : Bool :=
    let (above, below) := scaled numerator denominator exponent
    above / below < significandLimit
  let exponent := if fits guess then guess else if fits (guess + 1) then guess + 1 else guess + 2
  let exponent := max exponent leastExponent
  let (above, below) := scaled numerator denominator exponent
  let significand := roundDiv above below
  let (significand, exponent) :=
    if significand = significandLimit then (significand / 2, exponent + 1) else (significand, exponent)
  if greatestExponent < exponent then .infinite negative else .finite negative significand exponent

/-- The nearest number to `digits` times ten to the `exponent`. Numbers far outside the range are
settled by their count of digits alone. -/
def ofDecimal (negative : Bool) (digits : Nat) (exponent : Int) : Binary64 :=
  let magnitude : Int := (Nat.toDigits 10 digits).length + exponent
  if digits = 0 ∨ magnitude < -400 then .finite negative 0 leastExponent
  else if 400 < magnitude then .infinite negative
  else ofQuotient negative (digits * Nat.pow 10 exponent.toNat) (Nat.pow 10 (-exponent).toNat)

end Binary64

end Retag
