import Mathlib.Data.List.Forall2

/-!
# Work that can fail

When work in `Except` succeeds and when it fails: two parts in a row, and a list whose
members are worked on in order (`mapM_eq_error_iff`).
-/

namespace Stackline

section Bind

variable {ε α β : Type} {first : Except ε α} {second : α → Except ε β}

/-- Work with two parts succeeds if both do. -/
theorem bind_eq_ok_iff {result : β} :
    first >>= second = .ok result ↔ ∃ middle, first = .ok middle ∧ second middle = .ok result := by
  cases first <;> simp [bind, Except.bind]

/-- Work with two parts fails if one of them does. -/
theorem bind_eq_error_iff {error : ε} :
    first >>= second = .error error ↔
      first = .error error ∨ ∃ middle, first = .ok middle ∧ second middle = .error error := by
  cases first <;> simp [bind, Except.bind]

end Bind

theorem map_nil_append {ε α : Type} (result : Except ε (List α)) :
    result.map ([] ++ ·) = result := by
  cases result <;> rfl

section Traversal

variable {ε α β : Type} {f : α → Except ε β} {inputs : List α}

theorem mapM_cons_eq_ok {input : α} {rest : List α} {results : List β}
    (mapped : (input :: rest).mapM f = .ok results) :
    ∃ head tail, f input = .ok head ∧ rest.mapM f = .ok tail ∧ results = head :: tail := by
  rw [List.mapM_cons] at mapped
  obtain ⟨head, first, mapped⟩ := bind_eq_ok_iff.1 mapped
  obtain ⟨tail, others, mapped⟩ := bind_eq_ok_iff.1 mapped
  cases mapped
  exact ⟨head, tail, first, others, rfl⟩

/-- The results of a traversal, each beside its input. -/
theorem forall₂_of_mapM_eq_ok {results : List β} (mapped : inputs.mapM f = .ok results) :
    List.Forall₂ (fun input result => f input = .ok result) inputs results := by
  induction inputs generalizing results with
  | nil =>
    cases mapped
    exact .nil
  | cons input rest inductionHypothesis =>
    obtain ⟨head, tail, first, others, rfl⟩ := mapM_cons_eq_ok mapped
    exact .cons first (inductionHypothesis others)

theorem mem_of_mapM_eq_ok {results : List β} (mapped : inputs.mapM f = .ok results) {result : β}
    (member : result ∈ results) : ∃ input ∈ inputs, f input = .ok result := by
  induction inputs generalizing results with
  | nil =>
    cases mapped
    cases member
  | cons input rest inductionHypothesis =>
    obtain ⟨head, tail, first, others, rfl⟩ := mapM_cons_eq_ok mapped
    rcases List.mem_cons.1 member with rfl | later
    · exact ⟨input, .head _, first⟩
    · obtain ⟨found, foundMember, foundEq⟩ := inductionHypothesis others later
      exact ⟨found, .tail _ foundMember, foundEq⟩

/-- A traversal fails at the first input that it fails at. -/
theorem mapM_eq_error_iff {error : ε} :
    inputs.mapM f = .error error ↔ ∃ earlier input later results,
      inputs = earlier ++ input :: later ∧ earlier.mapM f = .ok results ∧
        f input = .error error := by
  constructor
  · intro fails
    induction inputs with
    | nil => cases fails
    | cons input rest inductionHypothesis =>
      rw [List.mapM_cons, bind_eq_error_iff] at fails
      rcases fails with here | ⟨head, first, fails⟩
      · exact ⟨[], input, rest, [], rfl, rfl, here⟩
      · rcases bind_eq_error_iff.1 fails with there | ⟨tail, _, impossible⟩
        · obtain ⟨earlier, found, later, results, rfl, read, failing⟩ := inductionHypothesis there
          refine ⟨input :: earlier, found, later, head :: results, rfl, ?_, failing⟩
          simp [first, read, bind, Except.bind, pure, Except.pure]
        · cases impossible
  · rintro ⟨earlier, input, later, results, rfl, read, failing⟩
    simp [List.mapM_append, read, failing, bind, Except.bind]

/-- A traversal succeeds iff it does so at every input. -/
theorem exists_mapM_eq_ok_iff :
    (∃ results, inputs.mapM f = .ok results) ↔
      ∀ input ∈ inputs, ∃ result, f input = .ok result := by
  constructor
  · rintro ⟨results, mapped⟩ input member
    induction inputs generalizing results with
    | nil => cases member
    | cons first rest inductionHypothesis =>
      obtain ⟨head, tail, found, others, -⟩ := mapM_cons_eq_ok mapped
      rcases List.mem_cons.1 member with rfl | later
      · exact ⟨head, found⟩
      · exact inductionHypothesis tail others later
  · intro succeeds
    cases mapped : inputs.mapM f with
    | ok results => exact ⟨results, rfl⟩
    | error error =>
      obtain ⟨earlier, input, later, -, rfl, -, fails⟩ := mapM_eq_error_iff.1 mapped
      obtain ⟨result, found⟩ := succeeds input (by simp)
      cases fails.symm.trans found

end Traversal

end Stackline
