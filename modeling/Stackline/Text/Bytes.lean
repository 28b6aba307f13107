/-!
# Bytes of a text

Measuring and cutting a character sequence in bytes of its UTF-8 text.
-/

namespace Stackline.Text

/-- The number of bytes in a character sequence. -/
def byteSize (cs : List Char) : Nat :=
  cs.foldr (fun c size => c.utf8Size + size) 0

/-- The characters that make up the next `count` bytes, and what follows them,
unless a character lies across that boundary. -/
def takeBytes? : Nat → List Char → Option (List Char × List Char)
  | 0, rest => some ([], rest)
  | _ + 1, [] => none
  | count + 1, c :: rest =>
    if c.utf8Size ≤ count + 1 then
      (takeBytes? (count + 1 - c.utf8Size) rest).map fun (taken, rest) => (c :: taken, rest)
    else none

end Stackline.Text
