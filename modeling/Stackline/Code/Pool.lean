import Stackline.Text.Hex

/-!
# The string pool

Each text that a program prints or reads with is stored once. Texts are numbered
from one in the order of their first use, and stored as their bytes in UTF-8
with a zero byte behind them. Whether a text is stored is asked of a table of
numbers and not of the texts, so the two have to agree.
-/

namespace Stackline.Code

/-- The bytes of a text in UTF-8. -/
def utf8 (text : String) : List UInt8 :=
  text.toList.flatMap String.utf8EncodeChar

/-- A pooled text by its number and its length with the closing zero byte. -/
structure Pooled where
  id : Nat
  size : Nat
  deriving DecidableEq, Repr

/-- The global symbol of a pooled text. -/
def Pooled.symbol (pooled : Pooled) : String :=
  "@str" ++ toString pooled.id

/-- The bytes that stand for themselves in a definition: printable ASCII other
than the quote and the backslash. -/
def isPlainByte (byte : UInt8) : Bool :=
  0x20 ≤ byte && byte < 0x7f && byte ≠ 0x22 && byte ≠ 0x5c

/-- The spelling of one byte in a definition. -/
def byteText (byte : UInt8) : List Char :=
  if isPlainByte byte then [Char.ofUInt8 byte]
  else '\\' :: Text.hexDigits 2 byte.toNat

/-- The spelling of the bytes of a text in a definition. -/
def escapeBytes (text : String) : String :=
  String.ofList ((utf8 text).flatMap byteText)

/-- The texts of a program in the order of their first use, and a table with the
number of each. -/
structure Pool where
  texts : List String
  numbers : List (String × Nat)
  deriving DecidableEq, Repr

namespace Pool

/-- The pool without texts. -/
def empty : Pool :=
  ⟨[], []⟩

/-- The length of a stored text, with its closing zero byte. -/
def storedSize (text : String) : Nat :=
  (utf8 text).length + 1

/-- Look the number of a text up. A text without a number is stored behind the
others, and its place is entered in the table. -/
def intern (pool : Pool) (text : String) : Pooled × Pool :=
  match pool.numbers.lookup text with
  | some id => (⟨id, storedSize text⟩, pool)
  | none =>
    let texts := pool.texts ++ [text]
    (⟨texts.length, storedSize text⟩, ⟨texts, (text, texts.length) :: pool.numbers⟩)

/-- The definition of a stored text. -/
def definition (pooled : Pooled) (text : String) : String :=
  pooled.symbol ++ " = private unnamed_addr constant [" ++ toString pooled.size ++ " x i8] c\"" ++
    escapeBytes text ++ "\\00\""

/-- The definitions of all stored texts, in the order of their numbers. -/
def definitions (pool : Pool) : List String :=
  pool.texts.mapIdx fun index text => definition ⟨index + 1, storedSize text⟩ text

end Pool

end Stackline.Code
