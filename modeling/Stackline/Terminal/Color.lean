import Stackline.Text.Blank
import Stackline.Text.Bytes
import Stackline.Text.Fields

/-!
# Colours

A colour by its three components, read from `r,g,b` in decimal or from `#rrggbb`
in hexadecimal. The hexadecimal form is measured and cut in bytes of its UTF-8
text; a cut that would split a character is kept apart from the ordinary errors,
because no colour reader can answer it.
-/

namespace Stackline.Terminal

/-- A colour by its red, green and blue parts. -/
structure Color where
  r : UInt8
  g : UInt8
  b : UInt8
  deriving DecidableEq, Repr

/-- Why a colour cannot be read. -/
inductive ColorError where
  | malformedDecimal
  | malformedHex
  | badHexDigits
  | splitCharacter
  deriving DecidableEq, Repr

/-- The wording of a colour error. -/
def ColorError.message : ColorError → String
  | .malformedDecimal => "Invalid RGB format"
  | .malformedHex => "Invalid HEX format"
  | .badHexDigits => "Invalid HEX value"
  | .splitCharacter => "a component ends inside a character"

namespace Color

/-- The value of a digit, in either case. -/
def digitValue (c : Char) : Nat :=
  if c.isDigit then c.toNat - '0'.toNat
  else if c.isLower then c.toNat - 'a'.toNat + 10
  else c.toNat - 'A'.toNat + 10

/-- Whether a character is a digit of a base of at most sixteen. -/
def isDigitOf (base : Nat) (c : Char) : Bool :=
  c.isAlphanum && digitValue c < base

/-- A component in some base: digits after an optional plus sign, at most 255. -/
def component? (base : Nat) (text : List Char) : Option UInt8 :=
  let digits := if text.head? = some '+' then text.tail else text
  if digits.isEmpty || !digits.all (isDigitOf base) then none
  else
    let value := digits.foldl (fun value digit => base * value + digitValue digit) 0
    if value < 256 then some value.toUInt8 else none

/-- Read `r,g,b`, with blanks around the components. -/
def ofDecimal (text : String) : Except ColorError Color :=
  match (Text.fields ',' text.toList).map fun field => component? 10 (Text.trimChars field) with
  | [some r, some g, some b] => .ok ⟨r, g, b⟩
  | _ => .error .malformedDecimal

/-- The component in the next two bytes, and what follows them. -/
def hexPair (text : List Char) : Except ColorError (UInt8 × List Char) :=
  match Text.takeBytes? 2 text with
  | none => .error .splitCharacter
  | some (pair, rest) =>
    match component? 16 pair with
    | none => .error .badHexDigits
    | some value => .ok (value, rest)

/-- Read `#rrggbb`, which has seven bytes. -/
def ofHex (text : String) : Except ColorError Color :=
  match text.toList with
  | '#' :: digits =>
    if text.utf8ByteSize = 7 then do
      let (r, digits) ← hexPair digits
      let (g, digits) ← hexPair digits
      let (b, _) ← hexPair digits
      return ⟨r, g, b⟩
    else .error .malformedHex
  | _ => .error .malformedHex

/-- Read a colour of either form. -/
def parse (text : String) : Except ColorError Color :=
  if text.toList.head? = some '#' then ofHex text else ofDecimal text

/-- The colour of errors. -/
def red : Color := ⟨229, 72, 77⟩

/-- The colour of success and of advice. -/
def green : Color := ⟨2, 161, 47⟩

/-- The colour of warnings. -/
def yellow : Color := ⟨245, 217, 10⟩

/-- The colour of option names and of pointers. -/
def blue : Color := ⟨62, 99, 221⟩

/-- The colour of notes. -/
def cyan : Color := ⟨5, 162, 194⟩

/-- The colour of trace marks. -/
def grey : Color := ⟨128, 128, 128⟩

end Color

end Stackline.Terminal
