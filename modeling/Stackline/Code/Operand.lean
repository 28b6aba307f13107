import Stackline.Code.Kind

/-!
# Operands

A value that an instruction works on: a register that an earlier instruction
filled, or a constant by its text. Registers are numbered by 32-bit words.
-/

namespace Stackline.Code

/-- The number of a register. -/
abbrev Register := UInt32

/-- The spelling of a register. -/
def registerText (register : Register) : String :=
  "%" ++ toString register.toNat

/-- A value of some kind. -/
inductive Operand where
  | register (id : Register) (kind : Kind)
  | constant (text : String) (kind : Kind)
  deriving DecidableEq, Repr

namespace Operand

/-- The kind of an operand. -/
def kind : Operand → Kind
  | .register _ kind => kind
  | .constant _ kind => kind

/-- The spelling of an operand. -/
def text : Operand → String
  | .register id _ => registerText id
  | .constant text _ => text

/-- Whether an operand is a constant. -/
def isConstant : Operand → Bool
  | .register _ _ => false
  | .constant _ _ => true

/-- The spelling of an operand behind its kind. -/
def typedText (operand : Operand) : String :=
  operand.kind.spelling ++ " " ++ operand.text

end Operand

end Stackline.Code
