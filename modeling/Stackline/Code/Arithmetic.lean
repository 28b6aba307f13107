import Stackline.Code.Kind

/-!
# Arithmetic operators

The four operators on two operands of one kind, with the symbol that stands for
them in messages and the mnemonic of their instruction in either family.
-/

namespace Stackline.Code

/-- An arithmetic operator. -/
inductive Arithmetic where
  | add
  | subtract
  | multiply
  | divide
  deriving DecidableEq, Repr

namespace Arithmetic

/-- The symbol of an operator. -/
def symbol : Arithmetic → String
  | .add => "+"
  | .subtract => "-"
  | .multiply => "*"
  | .divide => "/"

/-- The mnemonic of the instruction that applies an operator in a family. -/
def mnemonic : Arithmetic → Family → String
  | .add, .integer => "add nsw"
  | .subtract, .integer => "sub nsw"
  | .multiply, .integer => "mul nsw"
  | .divide, .integer => "sdiv"
  | .add, .floating => "fadd"
  | .subtract, .floating => "fsub"
  | .multiply, .floating => "fmul"
  | .divide, .floating => "fdiv"

end Arithmetic

end Stackline.Code
