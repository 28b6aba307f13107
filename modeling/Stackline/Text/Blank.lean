/-!
# Blank characters

The characters with the Unicode property `White_Space`, and trimming by them.
Core's `Char.isWhitespace` knows only four of the twenty-five, so the property
is kept here as a table of closed ranges.
-/

namespace Stackline.Text

/-- Whether a character lies in one of the closed ranges of code points. -/
def covers (ranges : List (Nat × Nat)) (c : Char) : Bool :=
  ranges.any fun range => range.1 ≤ c.toNat && c.toNat ≤ range.2

/-- The code points with the property `White_Space`, in ascending order. -/
def blankRanges : List (Nat × Nat) :=
  [(0x9, 0xd), (0x20, 0x20), (0x85, 0x85), (0xa0, 0xa0), (0x1680, 0x1680), (0x2000, 0x200a),
   (0x2028, 0x2029), (0x202f, 0x202f), (0x205f, 0x205f), (0x3000, 0x3000)]

/-- Whether a character is blank. -/
def isBlank (c : Char) : Bool :=
  covers blankRanges c

/-- Remove the blanks at both ends of a character sequence. -/
def trimChars (cs : List Char) : List Char :=
  ((cs.dropWhile isBlank).reverse.dropWhile isBlank).reverse

/-- Remove the blanks at both ends of a text. -/
def trim (text : String) : String :=
  String.ofList (trimChars text.toList)

example : trim " \ta b\u3000\n" = "a b" := by decide

end Stackline.Text
