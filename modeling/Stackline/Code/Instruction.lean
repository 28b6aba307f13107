import Stackline.Code.Arithmetic
import Stackline.Code.Conversion
import Stackline.Code.External
import Stackline.Code.Listing

/-!
# Instructions

What the lines of a function body do, as data. Nothing about the spelling of
pointers is part of an instruction; it enters with `Instruction.text`.
-/

namespace Stackline.Code

/-- What a call passes besides its format: the storage to read into, or the
value to write. -/
inductive CallArgument where
  | storage (kind : Kind) (address : Register)
  | value (operand : Operand)
  deriving DecidableEq, Repr

/-- An instruction. -/
inductive Instruction where
  | allocate (kind : Kind)
  | load (kind : Kind) (address : Register)
  | store (kind : Kind) (value : Operand) (address : Register)
  | convert (conversion : Conversion) (operand : Operand) (target : Kind)
  | arithmetic (operator : Arithmetic) (kind : Kind) (first second : Operand)
  | call (external : External) (format : Pooled) (argument : Option CallArgument)
  deriving DecidableEq, Repr

/-- The spelling of a piece of storage by a pointer to it. -/
def Pointers.toStorage (pointers : Pointers) (kind : Kind) (address : Register) : String :=
  pointers.toKind kind ++ " " ++ registerText address

/-- The spelling of an argument of a call. -/
def CallArgument.text (pointers : Pointers) : CallArgument → String
  | .storage kind address => pointers.toStorage kind address
  | .value operand => operand.typedText

namespace Instruction

/-- The closing part of an instruction that touches storage. -/
def alignment (kind : Kind) : String :=
  ", align " ++ toString kind.bytes

/-- The spelling of an instruction. -/
def text (pointers : Pointers) : Instruction → String
  | .allocate kind => "alloca " ++ kind.spelling ++ alignment kind
  | .load kind address =>
    "load " ++ kind.spelling ++ ", " ++ pointers.toStorage kind address ++ alignment kind
  | .store kind value address =>
    "store " ++ kind.spelling ++ " " ++ value.text ++ ", " ++ pointers.toStorage kind address ++
      alignment kind
  | .convert conversion operand target =>
    conversion.mnemonic ++ " " ++ operand.typedText ++ " to " ++ target.spelling
  | .arithmetic operator kind first second =>
    operator.mnemonic kind.family ++ " " ++ kind.spelling ++ " " ++ first.text ++ ", " ++
      second.text
  | .call external format argument =>
    "call " ++ pointers.variadic ++ " @" ++ external.symbol ++ "(" ++ pointers.toText format ++
      (argument.elim "" fun argument => ", " ++ argument.text pointers) ++ ")"

end Instruction

/-- The spelling of a line of a function body. -/
def Line.spell (pointers : Pointers) (line : Line Instruction) : String :=
  line.text (Instruction.text pointers)

end Stackline.Code
