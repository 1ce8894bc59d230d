/-! Floating-point numbers of 64 bits as exact data, and the rounding of quotients to them. -/

namespace Mustache

/--
A floating-point number: a signed multiple of a power of two, an infinity, or no number at all.

The mantissa stays below `2 ^ 53` and the exponent is at least `-1074`.
An exponent above that goes with a mantissa of at least `2 ^ 52`, so each number has one form.
-/
inductive Binary64 where
  /-- The result of an undefined operation. -/
  | nan
  /-- A magnitude beyond every finite number. -/
  | infinite (negative : Bool)
  /-- The number `mantissa * 2 ^ exponent`, or its negation. -/
  | finite (negative : Bool) (mantissa : Nat) (exponent : Int)
  deriving DecidableEq, Repr

namespace Binary64

/-- The zero without a sign. -/
def zero : Binary64 := .finite false 0 (-1074)

/-- Both zeros are zero. -/
def isZero : Binary64 → Bool
  | .finite _ 0 _ => true
  | _ => false

/-- The quotient of two numbers, rounded to the nearest integer and from halfway to the even one. -/
def roundedQuotient (num den : Nat) : Nat :=
  let quotient := num / den
  let twice := 2 * (num % den)
  if twice < den then quotient
  else if den < twice then quotient + 1
  else quotient + quotient % 2

/-- The exponent of the largest power of two that does not exceed a positive quotient. -/
def quotientLog2 (num den : Nat) : Int :=
  let estimate : Int := (Nat.log2 num : Int) - Nat.log2 den
  -- The difference of the logarithms is at most one too large.
  if den * Nat.pow 2 estimate.toNat ≤ num * Nat.pow 2 (-estimate).toNat then estimate else estimate - 1

/-- The number nearest to a quotient with the given sign. -/
def nearest (negative : Bool) (num den : Nat) : Binary64 :=
  if num = 0 then .finite negative 0 (-1074)
  else
    let exponent := max (quotientLog2 num den - 52) (-1074)
    let mantissa :=
      roundedQuotient (num * Nat.pow 2 (-exponent).toNat) (den * Nat.pow 2 exponent.toNat)
    -- Rounding up may reach the next power of two, which is written with the next exponent.
    let (mantissa, exponent) :=
      if mantissa = Nat.pow 2 53 then (Nat.pow 2 52, exponent + 1) else (mantissa, exponent)
    if 971 < exponent then .infinite negative else .finite negative mantissa exponent

/-- The number nearest to a non-negative multiple of a power of ten, with the given sign. -/
def ofDecimal (negative : Bool) (digits : Nat) (exponent : Int) : Binary64 :=
  let magnitude : Int := (Nat.toDigits 10 digits).length + exponent
  -- Far outside the range the power of ten is not computed.
  if digits = 0 || magnitude < -330 then .finite negative 0 (-1074)
  else if 310 < magnitude then .infinite negative
  else nearest negative (digits * Nat.pow 10 exponent.toNat) (Nat.pow 10 (-exponent).toNat)

/-- The number nearest to a number rounded to three decimal places. -/
def toThousandths : Binary64 → Binary64
  | .finite negative mantissa exponent =>
    let num := mantissa * Nat.pow 2 exponent.toNat * 1000
    nearest negative (roundedQuotient num (Nat.pow 2 (-exponent).toNat)) 1000
  | other => other

end Binary64

end Mustache
