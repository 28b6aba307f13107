import Mathlib
import Stackline.Proofs.Assembly.Reading
import Stackline.Proofs.Text.Lines

/-!
# The characters of spelled lines

Which characters the text of a line does not hold. The parts that vary, numbers, registers,
symbols and literals, are made of few characters, so the rest of the characters in a line are
those of its fixed parts. In particular no line breaks another one off.
-/

namespace Stackline.Assembly

open Stackline.Code
open Stackline.Text (Lacks lacks_append)

/-- The characters that occur in no number, register, symbol or literal. -/
def isOutside (c : Char) : Bool :=
  !isLiteralChar c && c ≠ '%' && c ≠ '@'

variable {c : Char}

theorem lacks_of_isLiteralChar {text : String} (outside : isOutside c)
    (literal : ∀ other ∈ text.toList, isLiteralChar other) : Lacks c text := by
  intro member
  simp [isOutside, literal c member] at outside

theorem lacks_number (outside : isOutside c) (number : Nat) : Lacks c (toString number) := by
  apply lacks_of_isLiteralChar outside
  intro other member
  rw [Nat.toString_eq_ofList_toDigits, String.toList_ofList] at member
  exact isLiteralChar_of_isDigit (Nat.isDigit_of_mem_toDigits (by decide) (by decide) member)

theorem lacks_registerText (outside : isOutside c) (register : Register) :
    Lacks c (registerText register) := by
  refine lacks_append.2 ⟨?_, lacks_number outside register.toNat⟩
  intro member
  cases List.mem_singleton.1 member
  cases outside

theorem lacks_symbol (outside : isOutside c) (pooled : Pooled) : Lacks c pooled.symbol := by
  refine lacks_append.2 ⟨?_, lacks_number outside pooled.id⟩
  intro member
  simp only [String.reduceToList, List.mem_cons, List.not_mem_nil, or_false] at member
  rcases member with rfl | rfl | rfl | rfl <;> cases outside

theorem lacks_operand (outside : isOutside c) {operand : Operand} (legible : operand.Legible) :
    Lacks c operand.text := by
  cases operand with
  | register id kind => exact lacks_registerText outside id
  | constant text kind =>
    obtain ⟨_, literal⟩ := legible
    exact lacks_of_isLiteralChar outside fun _ => isLiteralChar_of_mem_literal literal

/-! ### Line feeds -/

theorem oneLine_kind (kind : Kind) : Lacks '\n' kind.spelling := by
  cases kind <;> decide

theorem oneLine_typedText {operand : Operand} (legible : operand.Legible) :
    Lacks '\n' operand.typedText := by
  simp only [Operand.typedText, lacks_append]
  exact ⟨⟨oneLine_kind operand.kind, by decide⟩, lacks_operand (by decide) legible⟩

theorem oneLine_toStorage (pointers : Pointers) (kind : Kind) (address : Register) :
    Lacks '\n' (pointers.toStorage kind address) := by
  refine lacks_append.2 ⟨?_, lacks_registerText (by decide) address⟩
  cases pointers <;> cases kind <;> decide

theorem oneLine_toText (pointers : Pointers) (pooled : Pooled) :
    Lacks '\n' (pointers.toText pooled) := by
  have symbol : Lacks '\n' pooled.symbol := lacks_symbol (by decide) pooled
  cases pointers with
  | typed =>
    have size : Lacks '\n' (toString pooled.size) := lacks_number (by decide) pooled.size
    have array := And.intro (And.intro (by decide : Lacks '\n' "[") size)
      (by decide : Lacks '\n' " x i8]")
    unfold Pointers.toText
    simp only [lacks_append]
    exact ⟨⟨⟨⟨⟨⟨by decide, array⟩, by decide⟩, array⟩, by decide⟩, symbol⟩, by decide⟩
  | untyped => exact lacks_append.2 ⟨by decide, symbol⟩

theorem oneLine_argument {pointers : Pointers} {argument : CallArgument}
    (legible : argument.Legible) : Lacks '\n' (argument.text pointers) := by
  cases argument with
  | storage kind address => exact oneLine_toStorage pointers kind address
  | value operand => exact oneLine_typedText legible

/-- The text of an instruction stays on one line. -/
theorem oneLine_instruction {pointers : Pointers} {instruction : Code.Instruction}
    (legible : instruction.Legible) : Lacks '\n' (instruction.text pointers) := by
  have alignment (kind : Kind) : Lacks '\n' (Code.Instruction.alignment kind) := by
    cases kind <;> decide
  have operand {value : Operand} : value.Legible → Lacks '\n' value.text :=
    lacks_operand (by decide)
  unfold Code.Instruction.text
  cases instruction with
  | allocate kind =>
    simp only [lacks_append, oneLine_kind, alignment, and_true]
    decide
  | load kind address =>
    simp only [lacks_append, oneLine_kind, oneLine_toStorage, alignment,
      and_true]
    decide
  | store kind value address =>
    simp only [lacks_append, oneLine_kind, oneLine_toStorage, alignment,
      operand legible, and_true]
    decide
  | convert conversion value target =>
    have mnemonic : Lacks '\n' conversion.mnemonic := by cases conversion <;> decide
    simp only [lacks_append, oneLine_kind, mnemonic,
      oneLine_typedText legible, and_true]
    decide
  | arithmetic operator kind first second =>
    have mnemonic (family : Family) : Lacks '\n' (operator.mnemonic family) := by
      cases operator <;> cases family <;> decide
    simp only [lacks_append, oneLine_kind, mnemonic, operand legible.1,
      operand legible.2, and_true]
    decide
  | call external format argument =>
    have variadic : Lacks '\n' pointers.variadic := by cases pointers <;> decide
    have symbol : Lacks '\n' external.symbol := by cases external <;> decide
    have passed : Lacks '\n' (argument.elim "" fun given => ", " ++ given.text pointers) := by
      cases argument with
      | none => exact List.not_mem_nil
      | some given => exact lacks_append.2 ⟨by decide, oneLine_argument (legible given rfl)⟩
    simp only [lacks_append, variadic, symbol, passed, oneLine_toText,
      and_true]
    decide

/-- The text of a line stays on one line. -/
theorem oneLine_spell {pointers : Pointers} {line : Code.Line Code.Instruction}
    (legible : line.content.Legible) : Lacks '\n' (line.spell pointers) := by
  cases line with
  | value id instruction =>
    refine lacks_append.2 ⟨lacks_append.2 ⟨?_, by decide⟩, oneLine_instruction legible⟩
    exact lacks_registerText (by decide) id
  | effect instruction => exact oneLine_instruction legible

end Stackline.Assembly
