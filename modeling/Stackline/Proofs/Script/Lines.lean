import Mathlib
import Stackline.Proofs.Grammar.Append
import Stackline.Proofs.Grammar.Munch

/-!
# Scripts are read line by line

A source that is cut at a line feed is read by its two parts: the statements are those of
both, and only the places of the second part depend on the first. That a line feed can
stand anywhere in a source, behind a comment, a carriage return, half a number or a quote
that is never closed, makes no difference, since it goes on none of them.
-/

namespace Stackline.Script

open Stackline.Grammar (shape shape_append shape_newline shape_skip breaks_ending Open
  skipLayout_append_ending advance_start)

/-! ### Places -/

/-- The place in the same column, some lines further down. -/
def Position.below (count : Nat) (position : Position) : Position :=
  ⟨position.line + count, position.column⟩

/-- The same phrase, some lines further down. -/
def Phrase.below (count : Nat) (phrase : Phrase) : Phrase :=
  { phrase with position := phrase.position.below count }

/-- The same statement, some lines further down. -/
def Statement.below (count : Nat) (statement : Statement) : Statement :=
  { statement with line := statement.line + count }

/-- The same problem, some lines further down. -/
def ParseError.below (count : Nat) (error : ParseError) : ParseError :=
  { error with position := error.position.below count }

theorem Position.next_below (count : Nat) (position : Position) (c : Char) :
    (position.below count).next c = (position.next c).below count := by
  unfold Position.next Position.below
  split
  · simp only [Nat.add_right_comm]
  · rfl

/-- Phrases with the same tokens, at places that are related. -/
structure Phrase.Moved (Related : Position → Position → Prop) (phrase other : Phrase) : Prop where
  position : Related phrase.position other.position
  keyword : other.keyword = phrase.keyword
  arguments : other.arguments = phrase.arguments

/-- What is read of one text from two places that are related. -/
inductive Moved (Related : Position → Position → Prop) :
    Except Refusal (List Phrase) → Except Refusal (List Phrase) → Prop where
  | read {found others : List Phrase}
      (phrases : List.Forall₂ (Phrase.Moved Related) found others) :
      Moved Related (.ok found) (.ok others)
  | refused {refusal other : Refusal} (position : Related refusal.position other.position) :
      Moved Related (.error refusal) (.error other)

section Moving

variable {Related : Position → Position → Prop}

theorem Moved.map {result other : Except Refusal (List Phrase)} (moved : Moved Related result other)
    {earlier before : List Phrase} (first : List.Forall₂ (Phrase.Moved Related) earlier before) :
    Moved Related (result.map (earlier ++ ·)) (other.map (before ++ ·)) := by
  cases moved with
  | read phrases => exact .read (List.rel_append first phrases)
  | refused position => exact .refused position

theorem advance_related (stable : ∀ {p q : Position} (c : Char), Related p q →
      Related (p.next c) (q.next c)) {p q : Position} (related : Related p q)
    (passed : List Char) : Related (p.advance passed) (q.advance passed) := by
  induction passed generalizing p q with
  | nil => exact related
  | cons c rest inductionHypothesis => exact inductionHypothesis (stable c related)

/-- The phrases of a line, which has one or none, moved. -/
theorem forall₂_toList {current other : Option Phrase}
    (opened : Option.Rel (Phrase.Moved Related) current other) :
    List.Forall₂ (Phrase.Moved Related) current.toList other.toList := by
  cases opened with
  | some moved => exact .cons moved .nil
  | none => exact .nil

/-- The tokens of a text do not depend on the place where it begins. -/
theorem group_moved (stable : ∀ {p q : Position} (c : Char), Related p q →
      Related (p.next c) (q.next c)) {p q : Position} (related : Related p q)
    {current other : Option Phrase} (opened : Option.Rel (Phrase.Moved Related) current other)
    (unread : List Char) (read : List Lexeme) :
    Moved Related (group p current unread read) (group q other unread read) := by
  induction read generalizing p q current other with
  | nil =>
    unfold group
    split
    · exact .read (forall₂_toList opened)
    · exact .refused related
  | cons lexeme rest inductionHypothesis =>
    cases lexeme with
    | blank spaces => exact inductionHypothesis (advance_related stable related spaces) opened
    | comment remark =>
      exact inductionHypothesis (advance_related stable related ('#' :: remark)) opened
    | newline ending =>
      exact (inductionHypothesis (advance_related stable related ending) .none).map
        (forall₂_toList opened)
    | token token =>
      cases opened with
      | some moved =>
        refine inductionHypothesis (advance_related stable related token.chars) (.some ?_)
        exact ⟨moved.position, moved.keyword, by simp only [moved.arguments]⟩
      | none =>
        cases token with
        | word letters =>
          exact inductionHypothesis (advance_related stable related letters)
            (.some ⟨related, rfl, rfl⟩)
        | number numeral => exact .refused related
        | quoted body => exact .refused related

theorem shape_moved (stable : ∀ {p q : Position} (c : Char), Related p q →
      Related (p.next c) (q.next c)) {p q : Position} (related : Related p q)
    (text : List Char) : Moved Related (shape p none text) (shape q none text) :=
  group_moved stable related .none _ _

end Moving

/-! ### Phrases -/

/-- Behind what stands open at the end of a text, a line feed ends the line. -/
theorem shape_open_newline {last : List Char} (opened : Open last) (rest : List Char)
    (position : Position) (current : Option Phrase) :
    shape position current (last ++ '\n' :: rest) =
      (shape (position.advance (last ++ ['\n'])) none rest).map (current.toList ++ ·) := by
  rcases opened with layout | rfl
  · obtain ⟨skipped, split, skips⟩ := shape_skip (last ++ '\n' :: rest)
    rw [skipLayout_append_ending layout rfl] at split skips
    obtain rfl := List.append_cancel_right split
    rw [skips, shape_newline rfl, Position.advance_append]
  · rw [shape_newline rfl]
    rfl

/-- A text is read up to a line feed, and then from behind it. -/
theorem shape_newline_append (position : Position) (current : Option Phrase)
    (text rest : List Char) :
    shape position current (text ++ '\n' :: rest) =
      (shape position current text).bind fun found =>
        (shape (position.advance (text ++ ['\n'])) none rest).map (found ++ ·) := by
  have reads := shape_append (breaks_ending (c := '\n') rfl rest) position current text
  cases result : shape position current text with
  | error refusal =>
    rw [result] at reads
    exact reads
  | ok found =>
    rw [result] at reads
    obtain ⟨earlier, behind, next, last, rfl, opened, place, equal⟩ := reads
    rw [equal, shape_open_newline opened, Position.advance_append, place,
      ← Position.advance_append]
    cases shape (position.advance (text ++ ['\n'])) none rest <;> simp [Except.map, Except.bind]

/-- The phrases of a text that is cut at a line feed are those of its two parts. -/
theorem phrases_newline_append (text rest : List Char) :
    ∃ later, phrases (text ++ '\n' :: rest) =
        ((phrases text).bind fun found => later.map (found ++ ·)) ∧
      Moved (fun p q => q = p.below (text.count '\n' + 1)) (phrases rest) later := by
  refine ⟨shape (Position.start.advance (text ++ ['\n'])) none rest,
    shape_newline_append .start none text rest, shape_moved ?_ ?_ rest⟩
  · rintro p _ c rfl
    exact (p.next_below _ c)
  · rw [advance_start]
    simp [Position.below, Position.start, Nat.add_comm]

/-! ### Statements -/

theorem eq_map_below {count : Nat} {found others : List Phrase}
    (moved : List.Forall₂ (Phrase.Moved fun p q => q = p.below count) found others) :
    others = found.map (Phrase.below count) := by
  induction moved with
  | nil => rfl
  | @cons phrase other _ _ head _ inductionHypothesis =>
    obtain ⟨position, keyword, arguments⟩ := head
    obtain ⟨place, word, tokens⟩ := other
    cases position
    cases keyword
    cases arguments
    rw [inductionHypothesis]
    rfl

/-- What a phrase stands for does not depend on its place. -/
theorem Phrase.statement_below (count : Nat) (phrase : Phrase) :
    (phrase.below count).statement =
      (phrase.statement.map (Statement.below count)).mapError (ParseError.below count) := by
  have same : (phrase.below count).operation = phrase.operation := rfl
  unfold Phrase.statement
  rw [same]
  cases phrase.operation <;> rfl

/-- What is read of a source, some lines further down. -/
def readBelow (count : Nat) (result : Except ParseError (List Statement)) :
    Except ParseError (List Statement) :=
  (result.map (List.map (Statement.below count))).mapError (ParseError.below count)

theorem mapM_statement_below (count : Nat) (found : List Phrase) :
    (found.map (Phrase.below count)).mapM Phrase.statement =
      readBelow count (found.mapM Phrase.statement) := by
  induction found with
  | nil => rfl
  | cons phrase rest inductionHypothesis =>
    simp only [List.map_cons, List.mapM_cons, phrase.statement_below, inductionHypothesis]
    cases phrase.statement with
    | error problem => rfl
    | ok statement => cases rest.mapM Phrase.statement <;> rfl

/-- The refusal of a source is its error. -/
theorem parseChars_of_refused {source : List Char} {refusal : Refusal}
    (refused : phrases source = .error refusal) :
    parseChars source = .error ⟨refusal.position, .expected refusal.expectation⟩ := by
  rw [parseChars, refused]

/-- A text whose phrases cannot be read is no script. -/
theorem parse_ne_ok_of_refused {source : String} {refusal : Refusal}
    (refused : phrases source.toList = .error refusal) (statements : List Statement) :
    parse source ≠ .ok statements := by
  rw [parse, parseChars_of_refused refused]
  simp

theorem parseChars_of_read {source : List Char} {found : List Phrase}
    (read : phrases source = .ok found) : parseChars source = found.mapM Phrase.statement := by
  rw [parseChars, read]

/-- Both stages of reading a source that is cut at a line feed. A refusal of the first part
comes before one of the second, and only then are statements examined. -/
inductive Cut (text rest : List Char) : Except ParseError (List Statement) → Prop where
  | first {refusal : Refusal} (refused : phrases text = .error refusal) :
      Cut text rest (parseChars text)
  | second {found : List Phrase} {refusal : Refusal} (read : phrases text = .ok found)
      (refused : phrases rest = .error refusal) (expectation : Expectation) :
      Cut text rest
        (.error ⟨refusal.position.below (text.count '\n' + 1), .expected expectation⟩)
  | both {found others : List Phrase} (read : phrases text = .ok found)
      (readToo : phrases rest = .ok others) :
      Cut text rest (do
        let statements ← parseChars text
        let later ← readBelow (text.count '\n' + 1) (parseChars rest)
        return statements ++ later)

theorem parseChars_newline_append (text rest : List Char) :
    Cut text rest (parseChars (text ++ '\n' :: rest)) := by
  obtain ⟨later, joined, moved⟩ := phrases_newline_append text rest
  cases read : phrases text with
  | error refusal =>
    rw [read] at joined
    rw [parseChars_of_refused joined, ← parseChars_of_refused read]
    exact .first read
  | ok found =>
    rw [read] at joined
    cases readToo : phrases rest with
    | error refusal =>
      rw [readToo] at moved
      cases moved with
      | refused position =>
        rw [parseChars_of_refused joined, position]
        exact .second read readToo _
    | ok others =>
      rw [readToo] at moved
      cases moved with
      | read phrases =>
        have statements := Cut.both read readToo
        rw [parseChars_of_read read, parseChars_of_read readToo, ← mapM_statement_below,
          ← eq_map_below phrases] at statements
        rw [parseChars_of_read joined, List.mapM_append]
        exact statements

/-- A source that is cut at a line feed can be read iff both parts can. -/
theorem parseChars_newline_append_eq_ok_iff {text rest : List Char}
    {statements : List Statement} :
    parseChars (text ++ '\n' :: rest) = .ok statements ↔
      ∃ earlier later, parseChars text = .ok earlier ∧ parseChars rest = .ok later ∧
        statements = earlier ++ later.map (Statement.below (text.count '\n' + 1)) := by
  have cut := parseChars_newline_append text rest
  generalize parseChars (text ++ '\n' :: rest) = result at cut
  cases cut with
  | first refused => simp [parseChars_of_refused refused]
  | second read refused expectation => simp [parseChars_of_refused refused]
  | both read readToo =>
    cases parseChars text with
    | error problem => simp [bind, Except.bind]
    | ok earlier =>
      cases parseChars rest with
      | error problem => simp [readBelow, bind, Except.bind, Except.map, Except.mapError]
      | ok later =>
        simp [readBelow, bind, Except.bind, Except.map, Except.mapError, pure, Except.pure, eq_comm]

theorem toList_newline_append (first second : String) :
    (first ++ "\n" ++ second).toList = first.toList ++ '\n' :: second.toList := by
  simp

/-- Reading is compositional over lines. Two sources with a line feed between them can be
read iff both can, and then the statements are those of both, where the lines of the second
are counted on from the first. A source that leaves the shape of a script does so at the same
place with another behind it; if the second does, then at its own place counted on from the
first, whatever the statements of the first come to. -/
theorem parse_newline_append (first second : String) :
    (∀ statements, parse (first ++ "\n" ++ second) = .ok statements ↔
      ∃ earlier later, parse first = .ok earlier ∧ parse second = .ok later ∧
        statements = earlier ++ later.map (Statement.below (first.toList.count '\n' + 1))) ∧
    (∀ refusal, phrases first.toList = .error refusal →
      parse first = .error ⟨refusal.position, .expected refusal.expectation⟩ ∧
      parse (first ++ "\n" ++ second) = parse first) ∧
    ∀ found refusal, phrases first.toList = .ok found → phrases second.toList = .error refusal →
      parse second = .error ⟨refusal.position, .expected refusal.expectation⟩ ∧
      ∃ expectation, parse (first ++ "\n" ++ second) =
        .error ⟨refusal.position.below (first.toList.count '\n' + 1), .expected expectation⟩ := by
  unfold parse
  rw [toList_newline_append]
  have cut := parseChars_newline_append first.toList second.toList
  refine ⟨fun statements => parseChars_newline_append_eq_ok_iff, ?_, ?_⟩
  · intro refusal refused
    refine ⟨parseChars_of_refused refused, ?_⟩
    generalize parseChars (first.toList ++ '\n' :: second.toList) = result at cut
    cases cut with
    | first _ => rfl
    | second read _ _ => cases refused.symm.trans read
    | both read _ => cases refused.symm.trans read
  · intro found refusal read refused
    refine ⟨parseChars_of_refused refused, ?_⟩
    generalize parseChars (first.toList ++ '\n' :: second.toList) = result at cut
    cases cut with
    | first refusedFirst => cases read.symm.trans refusedFirst
    | second _ refusedToo expectation =>
      cases refused.symm.trans refusedToo
      exact ⟨expectation, rfl⟩
    | both _ readToo => cases refused.symm.trans readToo

/-- A quote in a comment before a carriage return, half a number, and a quote that is never
closed. -/
theorem parse_newline_append_unfinished :
    parse ("print # \"\r" ++ "\n" ++ "push 2") =
        .ok [⟨1, .print⟩, ⟨2, .pushInteger "2"⟩] ∧
      phrases "push 1.".toList = .error ⟨⟨1, 7⟩, .argument⟩ ∧
      parse ("push 1." ++ "\n" ++ "5") = .error ⟨⟨1, 7⟩, .expected .argument⟩ ∧
      phrases "write \"a".toList = .error ⟨⟨1, 7⟩, .argument⟩ ∧
      ∃ expectation, parse ("\n\nadd 1" ++ "\n" ++ "write \"a") =
        .error ⟨⟨4, 7⟩, .expected expectation⟩ := by
  have half : phrases "push 1.".toList = .error ⟨⟨1, 7⟩, .argument⟩ := by cbv
  have unclosed : phrases "write \"a".toList = .error ⟨⟨1, 7⟩, .argument⟩ := by cbv
  have wrongUse : phrases "\n\nadd 1".toList =
      .ok [⟨⟨3, 1⟩, "add".toList, [.number ⟨false, ['1'], none, none⟩]⟩] := by cbv
  refine ⟨?_, half, ?_, unclosed, ?_⟩
  · exact ((parse_newline_append "print # \"\r" "push 2").1 _).2
      ⟨[⟨1, .print⟩], [⟨1, .pushInteger "2"⟩], by cbv, by cbv, by decide⟩
  · obtain ⟨refused, same⟩ := (parse_newline_append "push 1." "5").2.1 _ half
    rw [same, refused]
  · exact ((parse_newline_append "\n\nadd 1" "write \"a").2.2 _ _ wrongUse unclosed).2

end Stackline.Script
