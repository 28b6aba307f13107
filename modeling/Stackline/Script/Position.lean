/-!
# Positions

A place in a source text by line and column, both counted from one. Only a line
feed starts a new line; a carriage return counts as a character of its line, so
the pair of both starts one line.
-/

namespace Stackline.Script

/-- A line and a column. -/
structure Position where
  line : Nat
  column : Nat
  deriving DecidableEq, Repr

namespace Position

/-- The place of the first character. -/
def start : Position :=
  ⟨1, 1⟩

/-- The place after one character. -/
def next (position : Position) (c : Char) : Position :=
  if c = '\n' then ⟨position.line + 1, 1⟩ else ⟨position.line, position.column + 1⟩

/-- The place after a stretch of text. -/
def advance (position : Position) (passed : List Char) : Position :=
  passed.foldl next position

@[simp] theorem advance_nil (position : Position) : position.advance [] = position := rfl

@[simp] theorem advance_cons (position : Position) (c : Char) (passed : List Char) :
    position.advance (c :: passed) = (position.next c).advance passed := rfl

@[simp] theorem advance_append (position : Position) (first second : List Char) :
    position.advance (first ++ second) = (position.advance first).advance second := by
  simp [advance]

end Position

end Stackline.Script
