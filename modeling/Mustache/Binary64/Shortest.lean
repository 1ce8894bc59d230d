import Mustache.Binary64

/-! The shortest decimal that reads back as a given floating-point number. -/

namespace Mustache.Binary64

/--
The multiple of a power of ten that stands for a positive number, if one rounds back to it.

The decimals that round back form an interval around the number.
It reaches halfway to each neighbour, and its ends belong to it when the mantissa is even.
-/
def decimalAt? (mantissa : Nat) (exponent scale : Int) : Option Nat :=
  -- All magnitudes are counted in quarters of the last binary place.
  let up := Nat.pow 2 (exponent - 2).toNat * Nat.pow 10 (-scale).toNat
  let down := Nat.pow 2 (2 - exponent).toNat * Nat.pow 10 scale.toNat
  -- Below a power of two the neighbour is only half as far away.
  let below := if mantissa = Nat.pow 2 52 ∧ -1074 < exponent then 1 else 2
  let low := (4 * mantissa - below) * up
  let high := (4 * mantissa + 2) * up
  let readsBack := fun (digits : Nat) =>
    if mantissa % 2 = 0 then low ≤ digits * down && digits * down ≤ high
    else low < digits * down && digits * down < high
  let floor := 4 * mantissa * up / down
  let nearer := roundedQuotient (4 * mantissa * up) down
  -- Only the two multiples around the number can be inside, and the nearer one is preferred.
  [nearer, floor, floor + 1].find? readsBack

/-- The coarsest of a run of ever finer powers of ten that has a multiple reading back. -/
def coarsestDecimal (mantissa : Nat) (exponent : Int) : Nat → Int → Nat × Int
  | 0, scale => (0, scale)
  | steps + 1, scale =>
    match decimalAt? mantissa exponent scale with
    | some digits => (digits, scale)
    | none => coarsestDecimal mantissa exponent steps (scale - 1)

/--
The digits and the power of ten of the shortest decimal that reads back as a positive number.

Seventeen digits always suffice, so the search starts just above the number and takes few steps.
-/
def shortestDecimal (mantissa : Nat) (exponent : Int) : Nat × Int :=
  let leading : Int := (Nat.log2 mantissa : Int) + 1 + exponent
  coarsestDecimal mantissa exponent 24 ((leading * 30103).fdiv 100000 + 1)

end Mustache.Binary64
