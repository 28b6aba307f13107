import Stackline.Proofs.Number.Literal

/-!
# The texts that are real numbers

A reader of real numbers goes over a text once and checks what may stand next: an optional
sign, digits, an optional point with digits behind it, and an optional exponent. It accepts
every well-formed numeral (`isRealText_chars`).
-/

namespace Stackline.Number

/-- How far a text is read as a real number. -/
inductive Stage where
  | start
  | signed
  | whole
  | point
  | fraction
  | mark
  | markSigned
  | exponent
  deriving DecidableEq, Repr

namespace Stage

/-- The signs of numbers. -/
def isSign (c : Char) : Bool :=
  c = '-' || c = '+'

/-- The marks of exponents. -/
def isMark (c : Char) : Bool :=
  c = 'e' || c = 'E'

/-- The stage behind a digit. -/
def digit : Stage → Stage
  | .start => .whole
  | .signed => .whole
  | .whole => .whole
  | .point => .fraction
  | .fraction => .fraction
  | .mark => .exponent
  | .markSigned => .exponent
  | .exponent => .exponent

/-- The stage behind a character, if it may stand there. -/
def next? (stage : Stage) (c : Char) : Option Stage :=
  if c.isDigit then some stage.digit
  else
    match stage with
    | .start => if isSign c then some .signed else none
    | .whole => if c = '.' then some .point else if isMark c then some .mark else none
    | .fraction => if isMark c then some .mark else none
    | .mark => if isSign c then some .markSigned else none
    | _ => none

/-- The stages at which a number can end. -/
def isLast : Stage → Bool
  | .whole => true
  | .fraction => true
  | .exponent => true
  | _ => false

end Stage

/-- Whether a text is a real number. -/
def isRealText (text : List Char) : Bool :=
  (text.foldlM Stage.next? .start).any Stage.isLast

namespace Stage

theorem next?_digit (stage : Stage) {c : Char} (isDigit : c.isDigit) :
    stage.next? c = some stage.digit :=
  if_pos isDigit

@[simp] theorem digit_digit (stage : Stage) : stage.digit.digit = stage.digit := by
  cases stage <;> rfl

/-- Behind digits is where the first of them led to. -/
theorem foldlM_digits {digits : List Char} (isDigits : Digits digits) (stage : Stage) :
    digits.foldlM next? stage = some stage.digit := by
  obtain ⟨nonempty, all⟩ := isDigits
  induction digits generalizing stage with
  | nil => exact absurd rfl nonempty
  | cons c rest inductionHypothesis =>
    rw [List.foldlM_cons, next?_digit stage (all c (.head _)), Option.bind_eq_bind,
      Option.bind_some]
    cases rest with
    | nil => rfl
    | cons d others =>
      rw [inductionHypothesis _ (by simp) (fun c member => all c (.tail _ member)), digit_digit]

theorem foldlM_fraction {fraction : Option (List Char)}
    (isDigits : ∀ digits ∈ fraction, Digits digits) :
    (Numeral.fractionChars fraction).foldlM next? .whole =
      some (if fraction.isSome then .fraction else .whole) := by
  cases fraction with
  | none => rfl
  | some digits => exact foldlM_digits (isDigits digits rfl) .point

theorem foldlM_exponent {exponent : Option Exponent}
    (wellFormed : ∀ part ∈ exponent, part.WellFormed) {stage : Stage}
    (marked : ∀ c, isMark c → stage.next? c = some .mark) :
    (Numeral.exponentChars exponent).foldlM next? stage =
      some (if exponent.isSome then .exponent else stage) := by
  cases exponent with
  | none => rfl
  | some part =>
    obtain ⟨isMark, isSign, isDigits⟩ := wellFormed part rfl
    have mark : stage.next? part.mark = some .mark :=
      marked _ (by simpa [Stage.isMark] using isMark)
    have sign : part.sign.toList.foldlM next? .mark =
        some (if part.sign.isSome then .markSigned else .mark) := by
      cases signed : part.sign with
      | none => rfl
      | some c => rcases isSign c signed with rfl | rfl <;> rfl
    have digits := foldlM_digits isDigits (if part.sign.isSome then .markSigned else .mark)
    simp only [Numeral.exponentChars, Exponent.chars, List.cons_append, List.foldlM_cons, mark,
      List.foldlM_append, sign, digits, Option.bind_eq_bind, Option.bind_some]
    cases part.sign <;> rfl

end Stage

/-- A well-formed numeral is a real number. -/
theorem isRealText_chars {numeral : Numeral} (wellFormed : numeral.WellFormed) :
    isRealText numeral.chars := by
  have sign : (if numeral.negative then ['-'] else []).foldlM Stage.next? .start =
      some (if numeral.negative then .signed else .start) := by
    cases numeral.negative <;> rfl
  have whole : numeral.whole.foldlM Stage.next? (if numeral.negative then .signed else .start) =
      some .whole := by
    rw [Stage.foldlM_digits wellFormed.whole]
    cases numeral.negative <;> rfl
  have marked : ∀ c, Stage.isMark c →
      (if numeral.fraction.isSome then Stage.fraction else .whole).next? c = some .mark := by
    intro c mark
    simp only [Stage.isMark, Bool.or_eq_true, decide_eq_true_eq] at mark
    rcases mark with rfl | rfl <;> cases numeral.fraction <;> rfl
  simp only [isRealText, Numeral.chars, List.foldlM_append, sign, whole,
    Stage.foldlM_fraction wellFormed.fraction, Stage.foldlM_exponent wellFormed.exponent marked,
    Option.bind_eq_bind, Option.bind_some, Option.any_some]
  cases numeral.exponent <;> cases numeral.fraction <;> rfl

/-- Other texts are not: a point has digits on both sides, and an exponent has digits. -/
example : [".5", "4.", "1e", "1e+", "--1", "1.5.2", ""].all (!isRealText ·.toList) := by decide

end Stackline.Number
