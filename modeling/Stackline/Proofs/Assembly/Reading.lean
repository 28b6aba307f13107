import Stackline.Proofs.Assembly.Words

/-!
# Spelled lines read back

The text of every line reads back as what the line does, in either spelling of
pointers, as long as its constants are literals (`readLine?_spell`). The proof
goes over the words of a line: each spelling is a sequence of plain words with
breaks between them.
-/

namespace Stackline

open Stackline.Code
open Stackline.Number

/-- A constant is spelled by a literal of some kind. -/
def Code.Operand.Legible : Operand → Prop
  | .register _ _ => True
  | .constant text _ => ∃ kind, Literal kind text

/-- An argument without a constant that is no literal. -/
def Code.CallArgument.Legible : CallArgument → Prop
  | .storage _ _ => True
  | .value operand => operand.Legible

/-- An instruction without a constant that is no literal. -/
def Code.Instruction.Legible : Instruction → Prop
  | .allocate _ => True
  | .load _ _ => True
  | .store _ value _ => value.Legible
  | .convert _ operand _ => operand.Legible
  | .arithmetic _ _ first second => first.Legible ∧ second.Legible
  | .call _ _ argument => ∀ given ∈ argument, given.Legible

namespace Assembly

/-- What the text of an operand says. -/
def Value.of : Operand → Value
  | .register id _ => .register id.toNat
  | .constant text _ => .literal text

/-- What the text of a pointer says. -/
def Pointer.of (pointers : Pointers) (kind : Kind) (address : Register) : Pointer :=
  match pointers with
  | .typed => ⟨some kind, address.toNat⟩
  | .untyped => ⟨none, address.toNat⟩

/-- What the text of a format says. -/
def Format.of (pointers : Pointers) (pooled : Pooled) : Format :=
  match pointers with
  | .typed => ⟨some pooled.size, pooled.id⟩
  | .untyped => ⟨none, pooled.id⟩

/-- What the text of an argument says. -/
def Argument.of (pointers : Pointers) : CallArgument → Argument
  | .storage kind address => .storage (.of pointers kind address)
  | .value operand => .value operand.kind (.of operand)

/-- What the text of an instruction says. -/
def Instruction.of (pointers : Pointers) : Code.Instruction → Instruction
  | .allocate kind => .allocate kind kind.bytes
  | .load kind address => .load kind (.of pointers kind address) kind.bytes
  | .store kind value address => .store kind (.of value) (.of pointers kind address) kind.bytes
  | .convert conversion operand target => .convert conversion operand.kind (.of operand) target
  | .arithmetic operator kind first second =>
    .arithmetic operator kind.family kind (.of first) (.of second)
  | .call external format argument =>
    .call external (.of pointers format) (argument.map (.of pointers))

/-- What the text of a line says. -/
def Line.of (pointers : Pointers) : Code.Line Code.Instruction → Line
  | .value id instruction => ⟨some id.toNat, .of pointers instruction⟩
  | .effect instruction => ⟨none, .of pointers instruction⟩

/-! ### Reading the parts of a line -/

theorem isPlain_operand {operand : Operand} (legible : operand.Legible) :
    IsPlain operand.text := by
  cases operand with
  | register id kind => exact isPlain_registerText id
  | constant text kind =>
    obtain ⟨_, literal⟩ := legible
    exact isPlain_literal literal

@[simp] theorem readNumber?_toDigits (number : Nat) :
    readNumber? (Nat.toDigits 10 number) = some number := by
  have digits : (Nat.toDigits 10 number).all Char.isDigit := List.all_eq_true.2 fun _ member =>
    Nat.isDigit_of_mem_toDigits (by decide) (by decide) member
  simp only [readNumber?, digits, Nat.ofDigitChars_ten_toDigits]
  simp

theorem readRegister?_registerText (register : Register) :
    readRegister? (registerText register) = some register.toNat := by
  simp [readRegister?, registerText]

theorem readSymbol?_symbol (pooled : Pooled) : readSymbol? pooled.symbol = some pooled.id := by
  simp [readSymbol?, Pooled.symbol]

theorem readValue?_text {operand : Operand} (legible : operand.Legible) :
    readValue? operand.text = some (.of operand) := by
  cases operand with
  | register id kind =>
    simp [readValue?, Operand.text, registerText, Value.of]
  | constant text kind =>
    obtain ⟨_, literal⟩ := legible
    have noRegister : '%' ∉ text.toList := fun member =>
      (plain_of_isLiteralChar (isLiteralChar_of_mem_literal literal member)).2 rfl
    simp only [readValue?, Operand.text, Value.of]
    split
    · rename_i digits equal
      simp [equal] at noRegister
    · rfl

theorem readKind?_spelling (kind : Kind) : readKind? kind.spelling = some kind := by
  cases kind <;> rfl

/-! ### The words of an instruction -/

/-- The words of a pointer. -/
def pointerWords (pointers : Pointers) (kind : Kind) (address : Register) : List String :=
  match pointers with
  | .typed => [kind.spelling, "*", registerText address]
  | .untyped => ["ptr", registerText address]

/-- The words of an alignment. -/
def alignmentWords (kind : Kind) : List String :=
  [",", "align", toString kind.bytes]

/-- The words of a format. -/
def formatWords (pointers : Pointers) (format : Pooled) : List String :=
  match pointers with
  | .typed =>
    ["i8", "*", "getelementptr", "inbounds", "(", "[", toString format.size, "x", "i8", "]", ",",
      "[", toString format.size, "x", "i8", "]", "*", format.symbol, ",", "i64", "0", ",", "i64",
      "0", ")"]
  | .untyped => ["ptr", format.symbol]

/-- The words of an argument. -/
def argumentWords (pointers : Pointers) : CallArgument → List String
  | .storage kind address => pointerWords pointers kind address
  | .value operand => [operand.kind.spelling, operand.text]

/-- The words of the type of an external function. -/
def variadicWords : Pointers → List String
  | .typed => ["i32", "(", "i8", "*", ",", "...", ")"]
  | .untyped => ["i32", "(", "ptr", ",", "...", ")"]

/-- The words of the name of an operator. -/
def mnemonicWords : Arithmetic → Family → List String
  | .add, .integer => ["add", "nsw"]
  | .subtract, .integer => ["sub", "nsw"]
  | .multiply, .integer => ["mul", "nsw"]
  | .divide, .integer => ["sdiv"]
  | .add, .floating => ["fadd"]
  | .subtract, .floating => ["fsub"]
  | .multiply, .floating => ["fmul"]
  | .divide, .floating => ["fdiv"]

/-- The words of an instruction. -/
def instructionWords (pointers : Pointers) : Code.Instruction → List String
  | .allocate kind => "alloca" :: kind.spelling :: alignmentWords kind
  | .load kind address =>
    "load" :: kind.spelling :: "," :: (pointerWords pointers kind address ++ alignmentWords kind)
  | .store kind value address =>
    "store" :: kind.spelling :: value.text :: "," ::
      (pointerWords pointers kind address ++ alignmentWords kind)
  | .convert conversion operand target =>
    [conversion.mnemonic, operand.kind.spelling, operand.text, "to", target.spelling]
  | .arithmetic operator kind first second =>
    mnemonicWords operator kind.family ++ [kind.spelling, first.text, ",", second.text]
  | .call external format argument =>
    "call" :: (variadicWords pointers ++ ("@" ++ external.symbol) :: "(" ::
      (formatWords pointers format ++
        (argument.elim [] fun argument => "," :: argumentWords pointers argument) ++ [")"]))

theorem spells_toStorage (pointers : Pointers) (kind : Kind) (address : Register) :
    Spells (pointers.toStorage kind address) (pointerWords pointers kind address) := by
  have register := (isPlain_registerText address).spells
  cases pointers with
  | typed =>
    have star : Closes (kind.spelling ++ "*") [kind.spelling, "*"] :=
      (isPlain_spelling kind).spells.close ⟨_, _, rfl, rfl⟩ fun _ => rfl
    have space : Closes " " [] := fun _ => rfl
    exact (star.close space).append register
  | untyped =>
    have ptr : Closes "ptr " ["ptr"] := fun _ => rfl
    exact ptr.append register

theorem spells_alignment (kind : Kind) :
    Spells (Code.Instruction.alignment kind) (alignmentWords kind) := by
  have align : Closes ", align " [",", "align"] := fun _ => rfl
  exact align.append (isPlain_number kind.bytes).spells

theorem opens_alignment (kind : Kind) : Opens (Code.Instruction.alignment kind) := by
  cases kind <;> exact ⟨_, _, rfl, rfl⟩

/-- A kind before an operand. -/
theorem spells_typedText {operand : Operand} (legible : operand.Legible) :
    Spells operand.typedText [operand.kind.spelling, operand.text] := by
  have kind : Closes (operand.kind.spelling ++ " ") [operand.kind.spelling] :=
    (isPlain_spelling operand.kind).spells.close ⟨_, _, rfl, rfl⟩ fun _ => rfl
  exact kind.append (isPlain_operand legible).spells

theorem spells_toText (pointers : Pointers) (format : Pooled) :
    Spells (pointers.toText format) (formatWords pointers format) := by
  have symbol := (isPlain_symbol format).spells
  cases pointers with
  | typed =>
    have array : Closes ("[" ++ toString format.size ++ " x i8]")
        ["[", toString format.size, "x", "i8", "]"] := by
      have opening : Closes "[" ["["] := fun _ => rfl
      have size := opening.append (isPlain_number format.size).spells
      exact size.close ⟨_, _, rfl, rfl⟩ fun _ => rfl
    have opening : Closes "i8* getelementptr inbounds ("
        ["i8", "*", "getelementptr", "inbounds", "("] := fun _ => rfl
    have comma : Closes ", " [","] := fun _ => rfl
    have star : Closes "* " ["*"] := fun _ => rfl
    have indices : Closes ", i64 0, i64 0)" [",", "i64", "0", ",", "i64", "0", ")"] := fun _ => rfl
    have head := ((((opening.close array).close comma).close array).close star).append symbol
    exact (head.close ⟨_, _, rfl, rfl⟩ indices).spells
  | untyped =>
    have ptr : Closes "ptr " ["ptr"] := fun _ => rfl
    exact ptr.append symbol

theorem closes_mnemonic (operator : Arithmetic) (family : Family) :
    Closes (operator.mnemonic family ++ " ") (mnemonicWords operator family) := by
  cases operator <;> cases family <;> exact fun _ => rfl

theorem spells_argument {pointers : Pointers} {argument : CallArgument}
    (legible : argument.Legible) :
    Spells (argument.text pointers) (argumentWords pointers argument) := by
  cases argument with
  | storage kind address => exact spells_toStorage pointers kind address
  | value operand => exact spells_typedText legible

/-- The call up to its argument. -/
theorem spells_callHead (pointers : Pointers) (external : External) (format : Pooled) :
    Spells ("call " ++ pointers.variadic ++ " @" ++ external.symbol ++ "(" ++
        pointers.toText format)
      ("call" :: (variadicWords pointers ++ ("@" ++ external.symbol) :: "(" ::
        formatWords pointers format)) := by
  have head : Closes ("call " ++ pointers.variadic ++ " @" ++ external.symbol ++ "(")
      ("call" :: (variadicWords pointers ++ ["@" ++ external.symbol, "("])) := by
    cases pointers <;> cases external <;> exact fun _ => rfl
  have joined := head.append (spells_toText pointers format)
  simpa only [List.cons_append, List.append_assoc, List.nil_append] using joined

/-- The call from its argument on. -/
theorem closes_callTail (pointers : Pointers) {argument : Option CallArgument}
    (legible : ∀ given ∈ argument, given.Legible) :
    Opens ((argument.elim "" fun argument => ", " ++ argument.text pointers) ++ ")") ∧
      Closes ((argument.elim "" fun argument => ", " ++ argument.text pointers) ++ ")")
        ((argument.elim [] fun argument => "," :: argumentWords pointers argument) ++ [")"]) := by
  have closing : Closes ")" [")"] := fun _ => rfl
  cases argument with
  | none =>
    have nothing : Closes "" [] := fun _ => rfl
    exact ⟨⟨')', [], by simp, rfl⟩, nothing.close closing⟩
  | some argument =>
    have comma : Closes ", " [","] := fun _ => rfl
    have given := comma.append (@spells_argument pointers argument (legible argument rfl))
    refine ⟨⟨',', (" " ++ argument.text pointers ++ ")").toList, by simp, rfl⟩, ?_⟩
    exact given.close ⟨_, _, rfl, rfl⟩ closing

/-- The words of a spelled instruction. -/
theorem spells_instruction {pointers : Pointers} {instruction : Code.Instruction}
    (legible : instruction.Legible) :
    Spells (instruction.text pointers) (instructionWords pointers instruction) := by
  have comma : Closes ", " [","] := fun _ => rfl
  have space : Closes " " [] := fun _ => rfl
  cases instruction with
  | allocate kind =>
    have alloca : Closes "alloca " ["alloca"] := fun _ => rfl
    exact (alloca.append (isPlain_spelling kind).spells).append (opens_alignment kind)
      (spells_alignment kind)
  | load kind address =>
    have load : Closes "load " ["load"] := fun _ => rfl
    have head := (load.append (isPlain_spelling kind).spells).close ⟨_, _, rfl, rfl⟩ comma
    have joined := (head.append (spells_toStorage pointers kind address)).append
      (opens_alignment kind) (spells_alignment kind)
    exact joined
  | store kind value address =>
    have store : Closes "store " ["store"] := fun _ => rfl
    have kindHead := (store.append (isPlain_spelling kind).spells).close ⟨_, _, rfl, rfl⟩ space
    have head := (kindHead.append (isPlain_operand legible).spells).close ⟨_, _, rfl, rfl⟩ comma
    have joined := (head.append (spells_toStorage pointers kind address)).append
      (opens_alignment kind) (spells_alignment kind)
    exact joined
  | convert conversion operand target =>
    have towards : Closes " to " ["to"] := fun _ => rfl
    have head := (isPlain_mnemonic conversion).spells.close ⟨_, _, rfl, rfl⟩ space
    have source := (head.append (spells_typedText legible)).close ⟨_, _, rfl, rfl⟩ towards
    exact source.append (isPlain_spelling target).spells
  | arithmetic operator kind first second =>
    obtain ⟨firstLegible, secondLegible⟩ := legible
    have typed := (closes_mnemonic operator kind.family).append (isPlain_spelling kind).spells
    have head := typed.close ⟨_, _, rfl, rfl⟩ space
    have left := (head.append (isPlain_operand firstLegible).spells).close ⟨_, _, rfl, rfl⟩ comma
    have joined := left.append (isPlain_operand secondLegible).spells
    simp only [List.append_assoc, List.nil_append] at joined
    exact joined
  | call external format argument =>
    obtain ⟨opens, tail⟩ := closes_callTail pointers legible
    have joined := ((spells_callHead pointers external format).close opens tail).spells
    rw [← String.append_assoc] at joined
    simp only [List.cons_append, List.append_assoc] at joined
    simp only [instructionWords, List.append_assoc]
    exact joined

/-! ### Reading instructions -/

@[simp] theorem readAlignment?_alignmentWords (kind : Kind) :
    readAlignment? (alignmentWords kind) = some kind.bytes := by
  cases kind <;> rfl

@[simp] theorem readPointer?_pointerWords (pointers : Pointers) (kind : Kind) (address : Register)
    (rest : List String) :
    readPointer? (pointerWords pointers kind address ++ rest) =
      some (.of pointers kind address, rest) := by
  cases pointers <;> cases kind <;>
    simp [pointerWords, readPointer?, readRegister?_registerText, Pointer.of, Kind.spelling,
      readKind?]

@[simp] theorem readFormat?_formatWords (pointers : Pointers) (format : Pooled)
    (rest : List String) :
    readFormat? (formatWords pointers format ++ rest) = some (.of pointers format, rest) := by
  cases pointers <;> simp [formatWords, readFormat?, readSymbol?_symbol, Format.of]

@[simp] theorem readVariadic?_variadicWords (pointers : Pointers) (rest : List String) :
    readVariadic? (variadicWords pointers ++ rest) = some rest := by
  cases pointers <;> rfl

theorem readArgument?_value {kind : Kind} {operand : Operand} (legible : operand.Legible) :
    readArgument? [",", kind.spelling, operand.text, ")"] =
      some (some (.value kind (.of operand))) := by
  cases kind <;> simp [readArgument?, Kind.spelling, readKind?, readValue?_text legible]

theorem readArgument?_argumentWords {pointers : Pointers} {argument : Option CallArgument}
    (legible : ∀ given ∈ argument, given.Legible) :
    readArgument? ((argument.elim [] fun argument => "," :: argumentWords pointers argument) ++
      [")"]) = some (argument.map (.of pointers)) := by
  cases argument with
  | none => rfl
  | some argument =>
    cases argument with
    | storage kind address =>
      cases pointers <;> cases kind <;>
        simp [argumentWords, pointerWords, readArgument?, readRegister?_registerText, Argument.of,
          Pointer.of, Kind.spelling, readKind?]
    | value operand =>
      have read := @readArgument?_value operand.kind operand (legible _ rfl)
      simpa [argumentWords, Argument.of] using read

theorem readExternal?_symbol (external : External) :
    readExternal? ("@" ++ external.symbol) = some external := by
  cases external <;> rfl

/-- The words of an instruction tell what it does. -/
theorem readInstruction?_instructionWords {pointers : Pointers} {instruction : Code.Instruction}
    (legible : instruction.Legible) :
    readInstruction? (instructionWords pointers instruction) =
      some (.of pointers instruction) := by
  cases instruction with
  | allocate kind =>
    simp [instructionWords, readInstruction?, readAllocate?, readKind?_spelling, Instruction.of]
  | load kind address =>
    simp [instructionWords, readInstruction?, readLoad?, readKind?_spelling, Instruction.of]
  | store kind value address =>
    simp [instructionWords, readInstruction?, readStore?, readKind?_spelling,
      readValue?_text legible, Instruction.of]
  | convert conversion operand target =>
    cases conversion <;>
      simp [instructionWords, Conversion.mnemonic, readInstruction?, readConvert?,
        readKind?_spelling, readValue?_text legible, Instruction.of]
  | arithmetic operator kind first second =>
    obtain ⟨firstLegible, secondLegible⟩ := legible
    have read (family : Family) :
        readArithmetic? operator family [kind.spelling, first.text, ",", second.text] =
          some (.arithmetic operator family kind (.of first) (.of second)) := by
      simp [readArithmetic?, readKind?_spelling, readValue?_text firstLegible,
        readValue?_text secondLegible]
    cases operator <;> cases family : kind.family <;>
      simp [instructionWords, mnemonicWords, family, readInstruction?, readNoWrap?, read,
        Instruction.of]
  | call external format argument =>
    simp [instructionWords, readInstruction?, readCall?, readExternal?_symbol,
      readArgument?_argumentWords legible, Instruction.of]

/-- No instruction looks like one whose value is taken. -/
theorem instructionWords_shape (pointers : Pointers) (instruction : Code.Instruction) :
    ∃ first second rest, instructionWords pointers instruction = first :: second :: rest ∧
      second ≠ "=" := by
  have spelled (kind : Kind) : kind.spelling ≠ "=" := by cases kind <;> decide
  cases instruction with
  | arithmetic operator kind first second =>
    obtain ⟨word, words, shape, notEquals⟩ : ∃ word words,
        mnemonicWords operator kind.family = word :: words ∧ ∀ second ∈ words, second ≠ "=" := by
      cases operator <;> cases kind.family <;> exact ⟨_, _, rfl, by decide⟩
    rw [instructionWords, shape]
    cases words with
    | nil => exact ⟨_, _, _, rfl, spelled kind⟩
    | cons second others => exact ⟨_, _, _, rfl, notEquals second (.head _)⟩
  | call external format argument =>
    cases pointers <;> exact ⟨_, _, _, rfl, by decide⟩
  | _ => exact ⟨_, _, _, rfl, spelled _⟩

/-- The text of a line tells what the line does. -/
theorem readLine?_spell {pointers : Pointers} {line : Code.Line Code.Instruction}
    (legible : line.content.Legible) :
    readLine? (line.spell pointers) = some (.of pointers line) := by
  cases line with
  | value id instruction =>
    have equals : Closes " = " ["="] := fun _ => rfl
    have head := (isPlain_registerText id).spells.close ⟨_, _, rfl, rfl⟩ equals
    have found : words (Code.Line.spell pointers (.value id instruction)) =
        registerText id :: "=" :: instructionWords pointers instruction :=
      (head.append (spells_instruction legible)).words_eq
    have read := @readInstruction?_instructionWords pointers instruction legible
    simp [readLine?, found, readRegister?_registerText, read, Line.of]
  | effect instruction =>
    have found : words (Code.Line.spell pointers (.effect instruction)) =
        instructionWords pointers instruction :=
      (spells_instruction legible).words_eq
    obtain ⟨first, second, rest, shape, notEquals⟩ := instructionWords_shape pointers instruction
    have read := @readInstruction?_instructionWords pointers instruction legible
    rw [shape] at found read
    simp [readLine?, found, notEquals, read, Line.of]

end Assembly

end Stackline
