import Mathlib
import Stackline.Proofs.Except
import Stackline.Proofs.Script.Lines
import Stackline.Text.Blank
import Stackline.Text.Fields

/-!
# Blanks around a script

A script that can be read can also be read without the blanks at its ends, and its
operations stay the same. There are more blanks than a script has spaces and line endings.
The others are only read within comments and quoted texts, so that one at the end belongs
to a comment, which may as well end before it.
-/

namespace Stackline.Script

open Stackline.Grammar
open Stackline.Script.Lexeme (isSpace isEnding isWordPart scanNewline?)
open Stackline.Text (isBlank)

/-! ### Single blanks -/

theorem toNat_of_continuesToken {c : Char} (continues : continuesToken c) :
    33 ≤ c.toNat ∧ c.toNat ≤ 122 := by
  simp only [continuesToken, isWordPart, Char.isAlphanum, Char.isAlpha, Char.isUpper, Char.isLower,
    Char.isDigit, Bool.or_eq_true, Bool.and_eq_true, decide_eq_true_eq, ge_iff_le,
    UInt32.le_iff_toNat_le] at continues
  rcases continues with ((((((upper | lower) | digit) | rfl) | rfl) | rfl) | rfl) | rfl
  · change 65 ≤ c.toNat ∧ c.toNat ≤ 90 at upper
    omega
  · change 97 ≤ c.toNat ∧ c.toNat ≤ 122 at lower
    omega
  · change 48 ≤ c.toNat ∧ c.toNat ≤ 57 at digit
    omega
  all_goals decide

/-- A blank goes on no token. -/
theorem continuesToken_of_isBlank {c : Char} (blank : isBlank c) : continuesToken c = false := by
  have outside : c.toNat < 33 ∨ 122 < c.toNat := by
    simp [isBlank, Text.covers, Text.blankRanges] at blank
    omega
  by_contra continues
  have inside := toNat_of_continuesToken (Bool.eq_true_of_not_eq_false continues)
  omega

theorem breaks_blank {c : Char} (blank : isBlank c) : Breaks [c] := by
  have closed := continuesToken_of_isBlank blank
  refine ⟨?_, .inr ?_⟩
  · rintro _ ⟨⟩
    exact closed
  · simp only [List.mem_singleton]
    rintro rfl
    cases closed

theorem shape_space {c : Char} (space : isSpace c) (position : Position)
    (current : Option Phrase) (rest : List Char) :
    shape position current (c :: rest) = shape (position.next c) current rest :=
  @shape_spaces [c] (by simpa using space) position current rest

/-- Outside comments and quoted texts, no blanks are read but spaces and line endings. -/
theorem shape_odd_blank {c : Char} (blank : isBlank c) (odd : ¬isSpace c) (unending : ¬isEnding c)
    (position : Position) (current : Option Phrase) (rest : List Char) :
    shape position current (c :: rest) = .error (.of position current) := by
  have notMark : c ≠ '#' := by
    rintro rfl
    cases blank
  refine shape_foreign (continuesToken_of_isBlank blank) ?_ (by simpa using unending)
    position current rest
  simp [opensLayout, odd, notMark]

/-! ### Blanks at the head -/

theorem scanNewline?_return {rest : List Char} (unpaired : ¬∃ tail, rest = '\n' :: tail) :
    scanNewline? ('\r' :: rest) = some (['\r'], rest) := by
  cases rest with
  | nil => rfl
  | cons d tail =>
    have notFeed : d ≠ '\n' := by
      rintro rfl
      exact unpaired ⟨tail, rfl⟩
    simp [scanNewline?, notFeed]

theorem exists_of_map_eq_ok {result : Except Refusal (List Phrase)} {earlier found : List Phrase}
    (read : result.map (earlier ++ ·) = .ok found) :
    ∃ later, result = .ok later ∧ found = earlier ++ later := by
  cases result with
  | error refusal => cases read
  | ok later =>
    cases read
    exact ⟨later, rfl, rfl⟩

/-- Where no phrase has begun, a line ending is passed like a space. -/
theorem shape_ending {c : Char} (ending : isEnding c) (position : Position) (rest : List Char) :
    shape position none (c :: rest) = shape (position.next c) none rest := by
  have feed (place : Position) (text : List Char) :
      shape place none ('\n' :: text) = shape (place.next '\n') none text :=
    (shape_newline rfl place none).trans (map_nil_append _)
  simp only [isEnding, Bool.or_eq_true, decide_eq_true_eq] at ending
  rcases ending with rfl | rfl
  · exact feed position rest
  · by_cases pair : ∃ tail, rest = '\n' :: tail
    · obtain ⟨tail, rfl⟩ := pair
      rw [feed (position.next '\r')]
      exact (shape_newline rfl position none).trans (map_nil_append _)
    · exact (shape_newline (scanNewline?_return pair) position none).trans (map_nil_append _)

theorem shape_cons_blank {c : Char} (blank : isBlank c) {position : Position} {rest : List Char}
    {found : List Phrase} (read : shape position none (c :: rest) = .ok found) :
    shape (position.next c) none rest = .ok found := by
  by_cases space : isSpace c
  · rwa [shape_space space] at read
  by_cases ending : isEnding c
  · rwa [shape_ending ending] at read
  · rw [shape_odd_blank blank space ending] at read
    cases read

theorem shape_dropWhile_blank {position : Position} {text : List Char} {found : List Phrase}
    (read : shape position none text = .ok found) :
    ∃ place, shape place none (text.dropWhile isBlank) = .ok found := by
  induction text generalizing position with
  | nil => exact ⟨position, read⟩
  | cons c rest inductionHypothesis =>
    by_cases blank : isBlank c
    · rw [List.dropWhile_cons_of_pos blank]
      exact inductionHypothesis (shape_cons_blank blank read)
    · rw [List.dropWhile_cons_of_neg blank]
      exact ⟨position, read⟩

/-! ### Blanks at the end -/

/-- A blank by itself completes a phrase and adds none. -/
theorem shape_singleton_blank {c : Char} (blank : isBlank c) {position : Position}
    {current : Option Phrase} {found : List Phrase}
    (read : shape position current [c] = .ok found) : found = current.toList := by
  by_cases space : isSpace c
  · rw [shape_space space, shape_nil] at read
    cases read
    rfl
  by_cases ending : isEnding c
  · have alone : scanNewline? [c] = some ([c], []) := by
      simp only [isEnding, Bool.or_eq_true, decide_eq_true_eq] at ending
      rcases ending with rfl | rfl <;> rfl
    rw [shape_newline alone, shape_nil] at read
    cases read
    simp
  · rw [shape_odd_blank blank space ending] at read
    cases read

theorem shape_open_blank {c : Char} (blank : isBlank c) {last : List Char} (opened : Open last)
    {position : Position} {current : Option Phrase} {found : List Phrase}
    (read : shape position current (last ++ [c]) = .ok found) : found = current.toList := by
  rcases opened with layout | rfl
  · obtain ⟨skipped, -, skips⟩ := shape_skip (last ++ [c])
    rw [skips] at read
    rcases List.suffix_cons_iff.1 (skipLayout_append layout [c]) with whole | nothing
    · rw [whole] at read
      exact shape_singleton_blank blank read
    · rw [List.suffix_nil.1 nothing, shape_nil] at read
      cases read
      rfl
  · by_cases feed : c = '\n'
    · subst feed
      rw [List.singleton_append, shape_newline rfl, shape_nil] at read
      cases read
      simp
    · have unpaired : ¬∃ tail, [c] = '\n' :: tail := by simp [feed]
      rw [List.singleton_append, shape_newline (scanNewline?_return unpaired)] at read
      obtain ⟨later, readLater, rfl⟩ := exists_of_map_eq_ok read
      simp [shape_singleton_blank blank readLater]

theorem shape_append_blank {c : Char} (blank : isBlank c) {position : Position}
    {text : List Char} {found : List Phrase}
    (read : shape position none (text ++ [c]) = .ok found) :
    shape position none text = .ok found := by
  have reads := shape_append (breaks_blank blank) position none text
  cases result : shape position none text with
  | error refusal =>
    rw [result] at reads
    cases read.symm.trans reads
  | ok complete =>
    rw [result] at reads
    obtain ⟨earlier, behind, next, last, rfl, opened, -, equal⟩ := reads
    obtain ⟨later, readLater, rfl⟩ := exists_of_map_eq_ok (equal.symm.trans read)
    rw [shape_open_blank blank opened readLater]

theorem shape_rdropWhile_blank {position : Position} {text : List Char} {found : List Phrase}
    (read : shape position none text = .ok found) :
    shape position none (text.rdropWhile isBlank) = .ok found := by
  induction text using List.reverseRecOn with
  | nil => exact read
  | append_singleton rest c inductionHypothesis =>
    by_cases blank : isBlank c
    · rw [List.rdropWhile_concat_pos _ _ _ blank]
      exact inductionHypothesis (shape_append_blank blank read)
    · rwa [List.rdropWhile_concat_neg _ _ _ blank]

/-! ### Statements -/

/-- Phrases with the same tokens have the same operations. -/
theorem mapM_statement_moved {found others : List Phrase} {statements : List Statement}
    (moved : List.Forall₂ (Phrase.Moved fun _ _ => True) found others)
    (read : found.mapM Phrase.statement = .ok statements) :
    ∃ later, others.mapM Phrase.statement = .ok later ∧
      later.map Statement.operation = statements.map Statement.operation := by
  induction moved generalizing statements with
  | nil => exact ⟨statements, read, rfl⟩
  | @cons phrase other rest _ head _ inductionHypothesis =>
    have same : other.operation = phrase.operation := by
      rw [Phrase.operation, Phrase.operation, Phrase.trees, Phrase.trees, head.keyword,
        head.arguments]
    rw [List.mapM_cons] at read
    cases meaning : phrase.operation with
    | error problem =>
      simp only [Phrase.statement, meaning] at read
      cases read
    | ok operation =>
      simp only [Phrase.statement, meaning] at read
      cases tail : rest.mapM Phrase.statement with
      | error problem =>
        rw [tail] at read
        cases read
      | ok statements =>
        rw [tail] at read
        cases read
        obtain ⟨later, readLater, equal⟩ := inductionHypothesis tail
        refine ⟨⟨other.position.line, operation⟩ :: later, ?_, by simp [equal]⟩
        simp only [List.mapM_cons, Phrase.statement, same, meaning, readLater]
        rfl

/-- A script can be read without the blanks around it, and its operations stay the same. -/
theorem parseChars_trimChars {text : List Char} {statements : List Statement}
    (read : parseChars text = .ok statements) :
    ∃ trimmed, parseChars (Text.trimChars text) = .ok trimmed ∧
      trimmed.map Statement.operation = statements.map Statement.operation := by
  cases shaped : phrases text with
  | error refusal =>
    rw [parseChars_of_refused shaped] at read
    cases read
  | ok found =>
    rw [parseChars_of_read shaped] at read
    obtain ⟨place, dropped⟩ := shape_dropWhile_blank shaped
    have trimmed : shape place none (Text.trimChars text) = .ok found :=
      shape_rdropWhile_blank dropped
    have moved : Moved (fun _ _ => True) (shape place none (Text.trimChars text))
        (phrases (Text.trimChars text)) := shape_moved (fun _ _ => trivial) trivial _
    rw [trimmed] at moved
    cases again : phrases (Text.trimChars text) with
    | error refusal =>
      rw [again] at moved
      cases moved
    | ok others =>
      rw [again] at moved
      cases moved with
      | read same =>
        rw [parseChars_of_read again]
        exact mapM_statement_moved same read

/-! ### Lines -/

/-- Every line of a script that can be read is a script of its own, and together they have
its operations. -/
theorem parseChars_fields {text : List Char} {statements : List Statement}
    (read : parseChars text = .ok statements) :
    ∃ parts, List.Forall₂ (fun line part => parseChars line = .ok part)
        (Text.fields '\n' text) parts ∧
      parts.flatten.map Statement.operation = statements.map Statement.operation := by
  induction size : text.length using Nat.strongRecOn generalizing text statements with
  | ind size inductionHypothesis =>
    subst size
    by_cases cut : '\n' ∈ text
    · obtain ⟨line, rest, rfl⟩ := List.append_of_mem cut
      obtain ⟨earlier, later, readLine, readRest, rfl⟩ :=
        parseChars_newline_append_eq_ok_iff.1 read
      obtain ⟨lineParts, lineRead, lineSame⟩ :=
        inductionHypothesis _ (by simp) readLine rfl
      obtain ⟨restParts, restRead, restSame⟩ :=
        inductionHypothesis _ (by simp; omega) readRest rfl
      refine ⟨lineParts ++ restParts, ?_, ?_⟩
      · rw [Text.fields_append]
        exact List.rel_append lineRead restRead
      · simp [lineSame, restSame, Statement.below]
    · refine ⟨[statements], ?_, by simp⟩
      rw [Text.fields_of_not_mem cut]
      exact .cons read .nil

end Stackline.Script
