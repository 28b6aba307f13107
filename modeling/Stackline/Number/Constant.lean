import Stackline.Number.Numeral
import Stackline.Number.Binary
import Stackline.Text.Hex

/-!
# Real constants

A constant of kind `float` is only accepted by the assembler if its value is
exact in single precision. A numeral whose double is such a value keeps its own
text, with a fraction written out; any other is replaced by the sixteen
hexadecimal digits of the double that its single-precision value widens to.
-/

namespace Stackline.Number

/-- The double nearest to `coefficient * 10 ^ power`, where the coefficient has
`width` digits without its leading zeros. Outside of `10 ^ -330` to `10 ^ 310`
the answer is settled by the width alone, so that no power of ten is written out
for a huge exponent. -/
def doubleOfDecimal (coefficient : Nat) (power : Int) (width : Nat) : Nat :=
  let leading := power + (width : Int)
  if coefficient = 0 then 0
  else if 310 < leading then binary64.infinity
  else if leading < -330 then 0
  else binary64.nearest (coefficient * Nat.pow 10 power.toNat) (Nat.pow 10 (-power).toNat)

/-- The hexadecimal spelling of a 64-bit word. -/
def hexWord (word : Nat) : String :=
  "0x" ++ String.ofList (Text.hexDigits 16 word)

namespace Numeral

/-- The code of the double nearest to the magnitude of a numeral. -/
def double (numeral : Numeral) : Nat :=
  doubleOfDecimal numeral.coefficient numeral.power
    (numeral.significant.dropWhile (· = '0')).length

/-- The code of the double that the single-precision value of a numeral widens
to. The numeral is rounded to a double first, and that double to single
precision: two roundings, not one. -/
def widened (numeral : Numeral) : Nat :=
  binary32.convert binary64 (binary64.convert binary32 numeral.double)

/-- The bit pattern of the widened value, with its sign. -/
def widenedBits (numeral : Numeral) : Nat :=
  (if numeral.negative then Nat.pow 2 63 else 0) + numeral.widened

/-- The spelling of a numeral as a constant of kind `float`. -/
def constantText (numeral : Numeral) : String :=
  if numeral.widened = numeral.double then String.ofList numeral.withFraction.chars
  else hexWord numeral.widenedBits

end Numeral

end Stackline.Number
