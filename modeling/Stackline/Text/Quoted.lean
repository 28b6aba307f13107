import Stackline.Text.Unprintable

/-!
# Quoted text

The spelling of a text between double quotes, for traces. Control characters
with a short name are written by it, other unprintable characters by their code
point in lower-case hexadecimal, and all else stands for itself.
-/

namespace Stackline.Text

/-- The spelling of a character by its code point. -/
def codePoint (c : Char) : List Char :=
  "\\u\x7b".toList ++ Nat.toDigits 16 c.toNat ++ ['\x7d']

/-- The spelling of one character inside quotes. -/
def quotedChar (c : Char) : List Char :=
  match c with
  | '"' => ['\\', '"']
  | '\\' => ['\\', '\\']
  | '\n' => ['\\', 'n']
  | '\t' => ['\\', 't']
  | '\r' => ['\\', 'r']
  | '\x00' => ['\\', '0']
  | _ => if isUnprintable c then codePoint c else [c]

/-- A text between quotes. -/
def quoted (text : String) : String :=
  "\"" ++ String.ofList (text.toList.flatMap quotedChar) ++ "\""

end Stackline.Text
