/-!
# Hexadecimal digits

The upper-case hexadecimal digits of a number, a fixed count of them.
-/

namespace Stackline.Text

/-- An upper-case hexadecimal digit. -/
def upperHexDigit (digit : Nat) : Char :=
  (Nat.digitChar digit).toUpper

/-- The last `count` hexadecimal digits of a number, most significant first. -/
def hexDigits : Nat → Nat → List Char
  | 0, _ => []
  | count + 1, number => hexDigits count (number / 16) ++ [upperHexDigit (number % 16)]

end Stackline.Text
