import Mathlib
import Stackline.Code.Program

/-!
# The lines of texts that are put together

A text lays out lines if it has them whatever follows, so that texts that are put together
have the lines of their parts. A text that is free of line feeds lays out one line with a line
feed behind it. How lines are put to use is left to other modules.
-/

namespace Stackline.Text

open Stackline.Code (endLines)

/-- The character does not occur in the text. -/
def Lacks (c : Char) (text : String) : Prop :=
  c ∉ text.toList

instance (c : Char) (text : String) : Decidable (Lacks c text) :=
  inferInstanceAs (Decidable (c ∉ text.toList))

@[simp] theorem lacks_append {c : Char} {first second : String} :
    Lacks c (first ++ second) ↔ Lacks c first ∧ Lacks c second := by
  simp [Lacks]

theorem lacks_spaces {c : Char} (visible : c ≠ ' ') (count : Nat) : Lacks c (spaces count) := by
  intro member
  rw [spaces, String.toList_ofList] at member
  exact visible (List.mem_replicate.1 member).2

theorem lacks_intercalate {c : Char} {separator : String} {parts : List String}
    (between : Lacks c separator) (inside : ∀ part ∈ parts, Lacks c part) :
    Lacks c (separator.intercalate parts) := by
  induction parts with
  | nil => exact List.not_mem_nil
  | cons part others inductionHypothesis =>
    obtain ⟨head, tail⟩ := List.forall_mem_cons.1 inside
    cases others with
    | nil => rwa [String.intercalate_singleton]
    | cons next more =>
      rw [String.intercalate_cons_cons]
      exact lacks_append.2 ⟨lacks_append.2 ⟨head, between⟩, inductionHypothesis tail⟩

/-! ### Reading piece by piece -/

/-- What a sequence begins with can be taken off. -/
theorem isPrefixOf?_append {α : Type} [BEq α] [LawfulBEq α] (opening rest : List α) :
    opening.isPrefixOf? (opening ++ rest) = some rest :=
  List.isPrefixOf?_eq_some_iff_append_eq.2 rfl

/-- Items whose texts can be read one by one can be read as a whole. -/
theorem mapM_map_eq_some {α β γ : Type} {spell : α → β} {read? : β → Option γ} {meaning : α → γ}
    {items : List α} (reads : ∀ item ∈ items, read? (spell item) = some (meaning item)) :
    (items.map spell).mapM read? = some (items.map meaning) := by
  induction items with
  | nil => rfl
  | cons item others inductionHypothesis =>
    obtain ⟨head, tail⟩ := List.forall_mem_cons.1 reads
    simp [head, inductionHypothesis tail]

/-- A run ends where the items behind it begin. -/
theorem takeWhile_dropWhile_append {α : Type} {accepts : α → Bool} {items rest : List α}
    (taken : ∀ item ∈ items, accepts item) (stops : ∀ item ∈ rest.head?, accepts item = false) :
    (items ++ rest).takeWhile accepts = items ∧ (items ++ rest).dropWhile accepts = rest := by
  rw [List.takeWhile_append_of_pos taken, List.dropWhile_append_of_pos taken]
  cases rest with
  | nil => simp
  | cons item others => simp [stops item rfl]

/-! ### Lines -/

theorem fields_eq_splitOn (separator : Char) (cs : List Char) :
    fields separator cs = cs.splitOn separator := by
  induction cs with
  | nil => rfl
  | cons c rest inductionHypothesis =>
    obtain ⟨first, others, pieces⟩ := List.exists_cons_of_ne_nil (fields_ne_nil separator rest)
    rw [List.splitOn, List.splitOnP_cons_eq_if_modifyHead, ← List.splitOn, ← inductionHypothesis,
      pieces]
    by_cases cut : c = separator
    · simp [fields, cut, pieces]
    · simp [fields, cut, pieces]

/-- What is no separator opens the first piece. -/
theorem exists_fields_cons {separator c : Char} (uncut : c ≠ separator) (rest : List Char) :
    ∃ first others, fields separator (c :: rest) = (c :: first) :: others := by
  obtain ⟨first, others, pieces⟩ := List.exists_cons_of_ne_nil (fields_ne_nil separator rest)
  exact ⟨first, others, by simp [fields, uncut, pieces]⟩

/-- The pieces between separators hold none. -/
theorem not_mem_of_mem_fields {separator : Char} {cs piece : List Char}
    (member : piece ∈ fields separator cs) : separator ∉ piece := by
  induction cs generalizing piece with
  | nil =>
    cases List.mem_singleton.1 member
    exact List.not_mem_nil
  | cons c rest inductionHypothesis =>
    obtain ⟨first, others, pieces⟩ := List.exists_cons_of_ne_nil (fields_ne_nil separator rest)
    rw [pieces] at inductionHypothesis
    obtain ⟨head, tail⟩ := List.forall_mem_cons.1 fun _ => inductionHypothesis
    by_cases cut : c = separator
    · simp only [fields, cut, if_true, pieces, List.mem_cons] at member
      rcases member with rfl | here | there
      · exact List.not_mem_nil
      · exact here ▸ head
      · exact tail _ there
    · simp only [fields, cut, if_false, pieces, List.mem_cons] at member
      rcases member with rfl | there
      · simp [Ne.symm cut, head]
      · exact tail _ there

/-- No line holds a line feed. -/
theorem not_mem_of_mem_lines {cs line : List Char} (member : line ∈ lines cs) : '\n' ∉ line := by
  unfold lines at member
  dsimp only at member
  split at member
  · exact not_mem_of_mem_fields (List.mem_of_mem_dropLast member)
  · exact not_mem_of_mem_fields member

@[simp] theorem lines_nil : lines [] = [] := rfl

/-- A line feed cuts the lines before it from those behind it. -/
theorem lines_append (before behind : List Char) :
    lines (before ++ '\n' :: behind) = fields '\n' before ++ lines behind := by
  have nonempty := fields_ne_nil '\n' behind
  simp only [lines, fields_append, List.getLast?_append_of_ne_nil _ nonempty]
  split
  · rw [List.dropLast_append_of_ne_nil nonempty]
  · rfl

/-- A text has these lines whatever follows it. -/
def LaysOut (text : String) (found : List (List Char)) : Prop :=
  ∀ rest : List Char, lines (text.toList ++ rest) = found ++ lines rest

theorem LaysOut.lines_eq {text : String} {found : List (List Char)}
    (laysOut : LaysOut text found) : lines text.toList = found := by
  simpa using laysOut []

theorem laysOut_nothing : LaysOut "" [] := by
  intro rest
  simp

theorem LaysOut.append {first second : String} {found others : List (List Char)}
    (left : LaysOut first found) (right : LaysOut second others) :
    LaysOut (first ++ second) (found ++ others) := by
  intro rest
  rw [String.toList_append, List.append_assoc, left, right, List.append_assoc]

/-- A text lays out its pieces once a line feed ends it. -/
theorem laysOut_fields (text : String) : LaysOut (text ++ "\n") (fields '\n' text.toList) := by
  intro rest
  rw [String.toList_append, List.append_assoc]
  exact lines_append text.toList rest

theorem laysOut_line {text : String} (oneLine : Lacks '\n' text) :
    LaysOut (text ++ "\n") [text.toList] := by
  have laysOut := laysOut_fields text
  rwa [fields_of_not_mem oneLine] at laysOut

/-- Texts without line feeds are lines once a line feed ends each of them. -/
theorem laysOut_endLines {texts : List String} (oneLine : ∀ text ∈ texts, Lacks '\n' text) :
    LaysOut (endLines texts) (texts.map String.toList) := by
  induction texts with
  | nil => exact laysOut_nothing
  | cons text others inductionHypothesis =>
    obtain ⟨head, tail⟩ := List.forall_mem_cons.1 oneLine
    have split : endLines (text :: others) = text ++ "\n" ++ endLines others := by
      simp [endLines]
    rw [split]
    exact (laysOut_line head).append (inductionHypothesis tail)

end Stackline.Text
