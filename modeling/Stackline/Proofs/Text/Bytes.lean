import Mathlib
import Stackline.Text.Bytes

/-!
# Cutting texts by bytes

Bytes can be taken off a character sequence exactly if whole characters make them up
(`takeBytes?_eq_some_iff`). Otherwise the sequence is too short, or a character lies across the
boundary (`takeBytes?_eq_none_iff`).
-/

namespace Stackline.Text

@[simp] theorem byteSize_nil : byteSize [] = 0 := rfl

@[simp] theorem byteSize_cons (c : Char) (rest : List Char) :
    byteSize (c :: rest) = c.utf8Size + byteSize rest := rfl

@[simp] theorem byteSize_append (first second : List Char) :
    byteSize (first ++ second) = byteSize first + byteSize second := by
  induction first with
  | nil => simp
  | cons c rest inductionHypothesis =>
    rw [List.cons_append, byteSize_cons, byteSize_cons, inductionHypothesis]
    omega

theorem eq_nil_of_byteSize {cs : List Char} (empty : byteSize cs = 0) : cs = [] := by
  cases cs with
  | nil => rfl
  | cons c rest =>
    have positive := c.utf8Size_pos
    rw [byteSize_cons] at empty
    omega

/-- The size of a text is counted in the bytes of its characters. -/
theorem byteSize_toList (text : String) : byteSize text.toList = text.utf8ByteSize := by
  have counted (cs : List Char) : byteSize cs = String.utf8Len cs := by
    induction cs with
    | nil => rfl
    | cons c rest inductionHypothesis =>
      rw [byteSize_cons, inductionHypothesis, String.utf8Len_cons, Nat.add_comm]
  rw [counted, ← String.utf8ByteSize_ofList, String.ofList_toList]

/-- Bytes are taken off exactly if characters that make them up stand in front. -/
theorem takeBytes?_eq_some_iff {count : Nat} {text taken rest : List Char} :
    takeBytes? count text = some (taken, rest) ↔
      text = taken ++ rest ∧ byteSize taken = count := by
  fun_induction takeBytes? count text generalizing taken rest with
  | case1 text =>
    cases taken with
    | nil => simp
    | cons c others =>
      have positive := c.utf8Size_pos
      rw [byteSize_cons]
      constructor
      · intro cut
        cases cut
      · rintro ⟨_, size⟩
        omega
  | case2 count =>
    cases taken with
    | nil => simp
    | cons c others => simp
  | case3 count c text fits inductionHypothesis =>
    rw [Option.map_eq_some_iff]
    constructor
    · rintro ⟨⟨others, behind⟩, cut, equal⟩
      cases equal
      obtain ⟨rfl, size⟩ := inductionHypothesis.1 cut
      refine ⟨rfl, ?_⟩
      rw [byteSize_cons]
      omega
    · rintro ⟨split, size⟩
      cases taken with
      | nil => cases size
      | cons first others =>
        obtain ⟨rfl, rfl⟩ := List.cons.inj split
        refine ⟨(others, rest), inductionHypothesis.2 ⟨rfl, ?_⟩, rfl⟩
        rw [byteSize_cons] at size
        omega
  | case4 count c text exceeds =>
    simp only [reduceCtorEq, false_iff, not_and]
    intro split size
    cases taken with
    | nil => cases size
    | cons first others =>
      obtain ⟨rfl, _⟩ := List.cons.inj split
      rw [byteSize_cons] at size
      omega

/-- A character lies across the boundary behind a number of bytes. -/
def Cuts (count : Nat) (text : List Char) : Prop :=
  ∃ before c behind, text = before ++ c :: behind ∧
    byteSize before < count ∧ count < byteSize before + c.utf8Size

theorem Cuts.lt_byteSize {count : Nat} {text : List Char} (cuts : Cuts count text) :
    count < byteSize text := by
  obtain ⟨before, c, behind, rfl, _, ends⟩ := cuts
  rw [byteSize_append, byteSize_cons]
  omega

theorem takeBytes?_eq_none_iff {count : Nat} {text : List Char} :
    takeBytes? count text = none ↔ byteSize text < count ∨ Cuts count text := by
  fun_induction takeBytes? count text with
  | case1 text => simp [Cuts]
  | case2 count => simp
  | case3 count c text fits inductionHypothesis =>
    rw [Option.map_eq_none_iff, inductionHypothesis, byteSize_cons]
    -- The first character lies before the boundary, so what is cut lies behind it.
    constructor
    · rintro (short | ⟨before, cut, behind, rfl, starts, ends⟩)
      · left
        omega
      · refine .inr ⟨c :: before, cut, behind, rfl, ?_, ?_⟩ <;> rw [byteSize_cons] <;> omega
    · rintro (short | ⟨before, cut, behind, split, starts, ends⟩)
      · left
        omega
      · cases before with
        | nil =>
          obtain ⟨rfl, _⟩ := List.cons.inj split
          rw [byteSize_nil] at ends
          omega
        | cons first before =>
          obtain ⟨rfl, rfl⟩ := List.cons.inj split
          rw [byteSize_cons] at starts ends
          exact .inr ⟨before, cut, behind, rfl, by omega, by omega⟩
  | case4 count c text exceeds =>
    simp only [true_iff]
    exact .inr ⟨[], c, text, rfl, by simp, by simpa using exceeds⟩

end Stackline.Text
