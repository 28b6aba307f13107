import Stackline.Proofs.Assembly.Syntax
import Stackline.Proofs.Number.Literal

/-!
# The words of spelled texts

What words a text has, without splitting it: a text spells words where a break follows
it, and closes them where anything may follow. Texts that are put together have the words
of their parts. The names, numbers and literals that lines are made of are single words.
-/

namespace Stackline.Assembly

open Stackline.Code
open Stackline.Number

/-- A text that is one word. -/
structure IsPlain (word : String) : Prop where
  nonempty : word ≠ ""
  plain : ∀ c ∈ word.toList, isBreak c = false

theorem IsPlain.of_all {word : String} (nonempty : word ≠ "")
    (plain : word.toList.all (!isBreak ·)) : IsPlain word :=
  ⟨nonempty, by simpa using plain⟩

@[simp] theorem closeWord_nil : closeWord [] = [] := rfl

theorem IsPlain.closeWord_eq {word : String} (isPlain : IsPlain word) :
    closeWord word.toList = [word] := by
  simp [closeWord, isPlain.nonempty]

theorem wordsFrom_append {word chunk rest : List Char} (plain : ∀ c ∈ chunk, isBreak c = false) :
    wordsFrom word (chunk ++ rest) = wordsFrom (word ++ chunk) rest := by
  induction chunk generalizing word with
  | nil => simp
  | cons c chunk inductionHypothesis =>
    obtain ⟨head, tail⟩ := List.forall_mem_cons.1 plain
    simp only [isBreak, Bool.or_eq_false_iff, decide_eq_false_iff_not] at head
    simp [wordsFrom, head, inductionHypothesis tail]

/-- A text has these words wherever a break or the end follows it. -/
def Spells (text : String) (found : List String) : Prop :=
  ∀ rest : List Char, (∀ c ∈ rest.head?, isBreak c) →
    wordsFrom [] (text.toList ++ rest) = found ++ wordsFrom [] rest

/-- A text has these words whatever follows it. -/
def Closes (text : String) (found : List String) : Prop :=
  ∀ rest : List Char, wordsFrom [] (text.toList ++ rest) = found ++ wordsFrom [] rest

/-- A text begins with a break. -/
def Opens (text : String) : Prop :=
  ∃ c rest, text.toList = c :: rest ∧ isBreak c

theorem Spells.words_eq {text : String} {found : List String} (spells : Spells text found) :
    words text = found := by
  simpa [words, wordsFrom] using spells [] (by simp)

theorem Closes.spells {text : String} {found : List String} (closes : Closes text found) :
    Spells text found :=
  fun rest _ => closes rest

theorem Closes.append {text next : String} {found others : List String}
    (closes : Closes text found) (spells : Spells next others) :
    Spells (text ++ next) (found ++ others) := by
  intro rest breaks
  rw [String.toList_append, List.append_assoc, closes, spells rest breaks, List.append_assoc]

theorem Closes.close {text next : String} {found others : List String}
    (closes : Closes text found) (follows : Closes next others) :
    Closes (text ++ next) (found ++ others) := by
  intro rest
  rw [String.toList_append, List.append_assoc, closes, follows, List.append_assoc]

theorem Opens.breaks {text : String} (opens : Opens text) (rest : List Char) :
    ∀ c ∈ (text.toList ++ rest).head?, isBreak c := by
  obtain ⟨c, others, equal, breaks⟩ := opens
  simp [equal, breaks]

theorem Spells.append {text next : String} {found others : List String}
    (spells : Spells text found) (opens : Opens next) (follows : Spells next others) :
    Spells (text ++ next) (found ++ others) := by
  intro rest breaks
  rw [String.toList_append, List.append_assoc, spells _ (opens.breaks rest), follows rest breaks,
    List.append_assoc]

theorem Spells.close {text next : String} {found others : List String}
    (spells : Spells text found) (opens : Opens next) (closes : Closes next others) :
    Closes (text ++ next) (found ++ others) := by
  intro rest
  rw [String.toList_append, List.append_assoc, spells _ (opens.breaks rest), closes rest,
    List.append_assoc]

/-- A plain word ends where a break follows. -/
theorem IsPlain.spells {word : String} (isPlain : IsPlain word) : Spells word [word] := by
  intro rest breaks
  rw [wordsFrom_append isPlain.plain, List.nil_append]
  cases rest with
  | nil => simp [wordsFrom, isPlain.closeWord_eq]
  | cons c rest =>
    have isBreak := breaks c rfl
    simp only [Assembly.isBreak, Bool.or_eq_true, decide_eq_true_eq] at isBreak
    by_cases space : c = ' '
    · simp [wordsFrom, space, isPlain.closeWord_eq]
    · have isMark := isBreak.resolve_left space
      simp [wordsFrom, space, isMark, isPlain.closeWord_eq]

/-! ### Single words -/

theorem isPlain_spelling (kind : Kind) : IsPlain kind.spelling := by
  cases kind <;> exact .of_all (by decide) (by decide)

theorem isPlain_mnemonic (conversion : Conversion) : IsPlain conversion.mnemonic := by
  cases conversion <;> exact .of_all (by decide) (by decide)

/-- The characters that literals are made of. -/
def isLiteralChar (c : Char) : Bool :=
  c.isAlphanum || c = '-' || c = '+' || c = '.'

/-- A character of a literal neither ends a word nor opens a register. -/
theorem plain_of_isLiteralChar {c : Char} (isLiteral : isLiteralChar c) :
    isBreak c = false ∧ c ≠ '%' := by
  rw [Bool.eq_false_iff]
  constructor
  · intro breaks
    simp only [isBreak, isMark, Bool.or_eq_true, decide_eq_true_eq] at breaks
    rcases breaks with rfl | (((((rfl | rfl) | rfl) | rfl) | rfl) | rfl) | rfl <;>
      exact absurd isLiteral (by decide)
  · rintro rfl
    exact absurd isLiteral (by decide)

theorem isLiteralChar_of_isDigit {c : Char} (digit : c.isDigit) : isLiteralChar c := by
  simp [isLiteralChar, Char.isAlphanum, digit]

theorem isPlain_number (number : Nat) : IsPlain (toString number) := by
  constructor
  · simp
  · intro c member
    rw [Nat.toString_eq_ofList_toDigits, String.toList_ofList] at member
    have digit := Nat.isDigit_of_mem_toDigits (by decide) (by decide) member
    exact (plain_of_isLiteralChar (isLiteralChar_of_isDigit digit)).1

/-- A plain word stays one behind characters that are plain. -/
theorem IsPlain.append {opening word : String} (isPlain : IsPlain word)
    (plain : opening.toList.all (!isBreak ·)) : IsPlain (opening ++ word) := by
  constructor
  · simp [isPlain.nonempty]
  · intro c member
    rw [String.toList_append] at member
    rcases List.mem_append.1 member with early | late
    · simpa using List.all_eq_true.1 plain c early
    · exact isPlain.plain c late

theorem isPlain_registerText (register : Register) : IsPlain (registerText register) :=
  (isPlain_number register.toNat).append (by decide)

theorem isPlain_symbol (pooled : Pooled) : IsPlain pooled.symbol :=
  (isPlain_number pooled.id).append (by decide)

theorem isLiteralChar_of_mem_exponent {exponent : Exponent} (wellFormed : exponent.WellFormed)
    {c : Char} (member : c ∈ exponent.chars) : isLiteralChar c := by
  simp only [Exponent.chars, List.cons_append, List.mem_cons, List.mem_append,
    Option.mem_toList] at member
  rcases member with rfl | sign | digit
  · rcases wellFormed.mark with mark | mark <;> rw [mark] <;> decide
  · rcases wellFormed.sign c sign with rfl | rfl <;> decide
  · exact isLiteralChar_of_isDigit (wellFormed.digits.2 c digit)

theorem isLiteralChar_of_mem_numeral {numeral : Numeral} (wellFormed : numeral.WellFormed)
    {c : Char} (member : c ∈ numeral.chars) : isLiteralChar c := by
  simp only [Numeral.chars, List.mem_append] at member
  rcases member with ((sign | whole) | fraction) | exponent
  · split at sign
    · cases List.mem_singleton.1 sign
      decide
    · cases sign
  · exact isLiteralChar_of_isDigit (wellFormed.whole.2 c whole)
  · cases given : numeral.fraction with
    | none => simp [given, Numeral.fractionChars] at fraction
    | some digits =>
      rw [given] at fraction
      rcases List.mem_cons.1 fraction with rfl | digit
      · decide
      · exact isLiteralChar_of_isDigit ((wellFormed.fraction digits given).2 c digit)
  · cases given : numeral.exponent with
    | none => simp [given, Numeral.exponentChars] at exponent
    | some found =>
      rw [given] at exponent
      exact isLiteralChar_of_mem_exponent (wellFormed.exponent found given) exponent

theorem isLiteralChar_of_mem_literal {kind : Kind} {text : String} (literal : Literal kind text)
    {c : Char} (member : c ∈ text.toList) : isLiteralChar c := by
  cases literal with
  | integer wellFormed _ =>
    exact isLiteralChar_of_mem_numeral wellFormed (by simpa using member)
  | decimal wellFormed _ =>
    exact isLiteralChar_of_mem_numeral wellFormed (by simpa using member)
  | hexadecimal _ upper =>
    have mark : "0x".toList.all isLiteralChar := by decide
    rw [String.toList_append] at member
    rcases List.mem_append.1 member with opening | digit
    · exact List.all_eq_true.1 mark c opening
    · rw [String.toList_ofList] at digit
      rcases upper c digit with decimal | ⟨low, high⟩
      · exact isLiteralChar_of_isDigit decimal
      · have isUpper : c.isUpper := decide_eq_true ⟨low, Char.le_trans high (by decide)⟩
        have alpha : c.isAlpha := Bool.or_eq_true_iff.2 (.inl isUpper)
        simp [isLiteralChar, Char.isAlphanum, alpha]

theorem isPlain_literal {kind : Kind} {text : String} (literal : Literal kind text) :
    IsPlain text :=
  ⟨literal.ne_empty, fun _ member =>
    (plain_of_isLiteralChar (isLiteralChar_of_mem_literal literal member)).1⟩

end Stackline.Assembly
