import Stackline.Code.Instruction

/-!
# Assembly text

What the text of a line says, read from the text alone. A line says no more than
it shows: an opaque pointer does not tell what it points to, and the size of a
pooled text stands only beside typed pointers. `readLine?` is the whole grammar
of a function body; it knows nothing of how lines are built.
-/

namespace Stackline.Assembly

open Stackline.Code (Kind Family Conversion Arithmetic External)

/-- A value in a line: a register by its number, or a literal. -/
inductive Value where
  | register (id : Nat)
  | literal (text : String)
  deriving DecidableEq, Repr

/-- A pointer in a line: the kind that its type names, if it names one, and the
register that holds the address. -/
structure Pointer where
  pointee : Option Kind
  register : Nat
  deriving DecidableEq, Repr

/-- The format of a call: a pooled text by its number, and the size of its array
if the line gives it. -/
structure Format where
  size : Option Nat
  text : Nat
  deriving DecidableEq, Repr

/-- What a call passes behind its format. -/
inductive Argument where
  | storage (pointer : Pointer)
  | value (kind : Kind) (value : Value)
  deriving DecidableEq, Repr

/-- What a line does, as its text says. -/
inductive Instruction where
  | allocate (kind : Kind) (alignment : Nat)
  | load (kind : Kind) (source : Pointer) (alignment : Nat)
  | store (kind : Kind) (value : Value) (target : Pointer) (alignment : Nat)
  | convert (conversion : Conversion) (source : Kind) (value : Value) (target : Kind)
  | arithmetic (operator : Arithmetic) (family : Family) (kind : Kind) (first second : Value)
  | call (external : External) (format : Format) (argument : Option Argument)
  deriving DecidableEq, Repr

/-- A line: the register that takes its result, if one does, and what it does. -/
structure Line where
  result : Option Nat
  instruction : Instruction
  deriving DecidableEq, Repr

/-! ### Words -/

/-- The characters that are words of their own. -/
def isMark (c : Char) : Bool :=
  c = ',' || c = '(' || c = ')' || c = '[' || c = ']' || c = '*' || c = '='

/-- The characters that end a word. -/
def isBreak (c : Char) : Bool :=
  c = ' ' || isMark c

/-- A word that has come to its end. -/
def closeWord (word : List Char) : List String :=
  if word.isEmpty then [] else [String.ofList word]

/-- The words of a text, behind the part of a word that was read before it. -/
def wordsFrom (word : List Char) : List Char → List String
  | [] => closeWord word
  | c :: rest =>
    if c = ' ' then closeWord word ++ wordsFrom [] rest
    else if isMark c then closeWord word ++ String.singleton c :: wordsFrom [] rest
    else wordsFrom (word ++ [c]) rest

/-- The words of a line. -/
def words (text : String) : List String :=
  wordsFrom [] text.toList

/-! ### Reading -/

/-- Read a decimal number. -/
def readNumber? (digits : List Char) : Option Nat :=
  if digits ≠ [] ∧ digits.all Char.isDigit then some (Nat.ofDigitChars 10 digits 0) else none

/-- Read a register. -/
def readRegister? (word : String) : Option Nat :=
  match word.toList with
  | '%' :: digits => readNumber? digits
  | _ => none

/-- Read a value. What does not look like a register is a literal. -/
def readValue? (word : String) : Option Value :=
  match word.toList with
  | '%' :: digits => (readNumber? digits).map .register
  | _ => some (.literal word)

/-- Read the symbol of a pooled text. -/
def readSymbol? (word : String) : Option Nat :=
  match word.toList with
  | '@' :: 's' :: 't' :: 'r' :: digits => readNumber? digits
  | _ => none

/-- Read a kind. -/
def readKind? : String → Option Kind
  | "i32" => some .i32
  | "i64" => some .i64
  | "float" => some .f32
  | "double" => some .f64
  | _ => none

/-- Read a pointer, and return the words behind it. -/
def readPointer? : List String → Option (Pointer × List String)
  | "ptr" :: register :: rest => do
    return (⟨none, ← readRegister? register⟩, rest)
  | kind :: "*" :: register :: rest => do
    return (⟨some (← readKind? kind), ← readRegister? register⟩, rest)
  | _ => none

/-- Read the alignment that closes a line. -/
def readAlignment? : List String → Option Nat
  | [",", "align", width] => readNumber? width.toList
  | _ => none

/-- Read what stands behind `alloca`. -/
def readAllocate? : List String → Option Instruction
  | kind :: rest => do
    return .allocate (← readKind? kind) (← readAlignment? rest)
  | _ => none

/-- Read what stands behind `load`. -/
def readLoad? : List String → Option Instruction
  | kind :: "," :: rest => do
    let (source, rest) ← readPointer? rest
    return .load (← readKind? kind) source (← readAlignment? rest)
  | _ => none

/-- Read what stands behind `store`. -/
def readStore? : List String → Option Instruction
  | kind :: value :: "," :: rest => do
    let (target, rest) ← readPointer? rest
    return .store (← readKind? kind) (← readValue? value) target (← readAlignment? rest)
  | _ => none

/-- Read what stands behind the name of a conversion. -/
def readConvert? (conversion : Conversion) : List String → Option Instruction
  | [source, value, "to", target] => do
    return .convert conversion (← readKind? source) (← readValue? value) (← readKind? target)
  | _ => none

/-- Read what stands behind the name of an operator. -/
def readArithmetic? (operator : Arithmetic) (family : Family) : List String → Option Instruction
  | [kind, first, ",", second] => do
    return .arithmetic operator family (← readKind? kind) (← readValue? first)
      (← readValue? second)
  | _ => none

/-- Read what stands behind the name of an integer operator that must not wrap. -/
def readNoWrap? (operator : Arithmetic) : List String → Option Instruction
  | "nsw" :: rest => readArithmetic? operator .integer rest
  | _ => none

/-- Read the type of a function that takes a format and any arguments, and return
the words behind it. -/
def readVariadic? : List String → Option (List String)
  | "i32" :: "(" :: "i8" :: "*" :: "," :: "..." :: ")" :: rest => some rest
  | "i32" :: "(" :: "ptr" :: "," :: "..." :: ")" :: rest => some rest
  | _ => none

/-- Read the name of an external function. -/
def readExternal? : String → Option External
  | "@printf" => some .printf
  | "@scanf" => some .scanf
  | _ => none

/-- Read a format, and return the words behind it. The size of an array is
written twice, and must be written alike. -/
def readFormat? : List String → Option (Format × List String)
  | "ptr" :: symbol :: rest => do
    return (⟨none, ← readSymbol? symbol⟩, rest)
  | "i8" :: "*" :: "getelementptr" :: "inbounds" :: "(" :: "[" :: size :: "x" :: "i8" :: "]" ::
      "," :: "[" :: again :: "x" :: "i8" :: "]" :: "*" :: symbol :: "," :: "i64" :: "0" :: "," ::
      "i64" :: "0" :: ")" :: rest =>
    if size = again then do
      return (⟨some (← readNumber? size.toList), ← readSymbol? symbol⟩, rest)
    else none
  | _ => none

/-- Read the argument of a call, with what closes the call. -/
def readArgument? : List String → Option (Option Argument)
  | [")"] => some none
  | [",", "ptr", register, ")"] => do
    return some (.storage ⟨none, ← readRegister? register⟩)
  | [",", kind, "*", register, ")"] => do
    return some (.storage ⟨some (← readKind? kind), ← readRegister? register⟩)
  | [",", kind, value, ")"] => do
    return some (.value (← readKind? kind) (← readValue? value))
  | _ => none

/-- Read what stands behind `call`. -/
def readCall? (words : List String) : Option Instruction := do
  match ← readVariadic? words with
  | external :: "(" :: rest =>
    let (format, rest) ← readFormat? rest
    return .call (← readExternal? external) format (← readArgument? rest)
  | _ => none

/-- Read what a line does. The first word decides. -/
def readInstruction? : List String → Option Instruction
  | [] => none
  | word :: rest =>
    match word with
    | "alloca" => readAllocate? rest
    | "load" => readLoad? rest
    | "store" => readStore? rest
    | "call" => readCall? rest
    | "sext" => readConvert? .signExtend rest
    | "trunc" => readConvert? .truncate rest
    | "fpext" => readConvert? .extend rest
    | "fptrunc" => readConvert? .round rest
    | "sitofp" => readConvert? .integerToFloating rest
    | "fptosi" => readConvert? .floatingToInteger rest
    | "add" => readNoWrap? .add rest
    | "sub" => readNoWrap? .subtract rest
    | "mul" => readNoWrap? .multiply rest
    | "sdiv" => readArithmetic? .divide .integer rest
    | "fadd" => readArithmetic? .add .floating rest
    | "fsub" => readArithmetic? .subtract .floating rest
    | "fmul" => readArithmetic? .multiply .floating rest
    | "fdiv" => readArithmetic? .divide .floating rest
    | _ => none

/-- Read a line. -/
def readLine? (text : String) : Option Line :=
  match words text with
  | result :: "=" :: rest => do
    return ⟨some (← readRegister? result), ← readInstruction? rest⟩
  | rest => do
    return ⟨none, ← readInstruction? rest⟩

/-- Read the lines of a body. -/
def readBody? (texts : List String) : Option (List Line) :=
  texts.mapM readLine?

end Stackline.Assembly
