/-!
# Binary floating-point formats

Magnitudes of a binary floating-point format are named by their codes: the bit
patterns below the sign. Codes are in the order of the magnitudes, and the code
after the largest finite one is infinity. All arithmetic is exact, on natural
numbers, so rounding is stated without reference to any machine.
-/

namespace Stackline.Number

/-- A binary format: the bits of its significand, the exponent of its smallest
unit, and the exponent field of infinity. -/
structure Format where
  precision : Nat
  unit : Int
  top : Nat
  deriving DecidableEq, Repr

/-- Double precision. -/
def binary64 : Format :=
  ⟨53, -1074, 2047⟩

/-- Single precision. -/
def binary32 : Format :=
  ⟨24, -149, 255⟩

/-- The integer nearest to a quotient. A tie goes to the even neighbour. -/
def roundDiv (numerator denominator : Nat) : Nat :=
  let quotient := numerator / denominator
  let remainder := numerator % denominator
  if 2 * remainder < denominator then quotient
  else if denominator < 2 * remainder then quotient + 1
  else quotient + quotient % 2

/-- The largest `e` such that `2 ^ e` is at most the quotient. -/
def floorLog2 (numerator denominator : Nat) : Int :=
  let estimate : Int := (numerator.log2 : Int) - (denominator.log2 : Int)
  if numerator * Nat.pow 2 (-estimate).toNat < denominator * Nat.pow 2 estimate.toNat then
    estimate - 1
  else estimate

namespace Format

/-- The codes that share one exponent field. -/
def binade (format : Format) : Nat :=
  Nat.pow 2 (format.precision - 1)

/-- The code of infinity. -/
def infinity (format : Format) : Nat :=
  format.top * format.binade

/-- The exponent of the last place of a magnitude. -/
def lastPlace (format : Format) (numerator denominator : Nat) : Int :=
  max (floorLog2 numerator denominator - (format.precision - 1 : Nat)) format.unit

/-- The code nearest to a quotient. Counting units of the last place upward from
the smallest unit gives the code, also where rounding moves to the next binade;
past the largest finite code it is infinity. -/
def nearest (format : Format) (numerator denominator : Nat) : Nat :=
  if numerator = 0 then 0
  else
    let place := format.lastPlace numerator denominator
    let count :=
      roundDiv (numerator * Nat.pow 2 (-place).toNat) (denominator * Nat.pow 2 place.toNat)
    min (count + (place - format.unit).toNat * format.binade) format.infinity

/-- The significand of a finite code. -/
def significand (format : Format) (code : Nat) : Nat :=
  if code < format.binade then code else format.binade + code % format.binade

/-- The exponent of the last place of a finite code. -/
def place (format : Format) (code : Nat) : Int :=
  if code < format.binade then format.unit
  else format.unit + ((code / format.binade - 1 : Nat) : Int)

/-- The magnitude of a finite code, as a quotient. -/
def quotient (format : Format) (code : Nat) : Nat × Nat :=
  (format.significand code * Nat.pow 2 (format.place code).toNat,
    Nat.pow 2 (-(format.place code)).toNat)

/-- Carry a magnitude from one format to the nearest of another. -/
def convert (source target : Format) (code : Nat) : Nat :=
  if source.infinity ≤ code then target.infinity
  else target.nearest (source.quotient code).1 (source.quotient code).2

end Format

end Stackline.Number
