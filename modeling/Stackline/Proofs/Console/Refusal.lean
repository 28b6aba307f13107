import Mathlib
import Stackline.Console.Session
import Stackline.Proofs.Compile.Replay
import Stackline.Proofs.Text.Bytes
import Stackline.Proofs.Text.Lines

/-!
# Lines that are refused

A line of a session that leads to a diagnostic changes nothing but the error stream. The line
is one line for the reader of scripts too, unless a carriage return stands in its middle, so
it holds one statement at most, and a statement that fails leaves the builder as it was.
-/

namespace Stackline

open Stackline.Compile
open Stackline.Script
open Stackline.Terminal

/-! ### Scripts of one line -/

namespace Script

open Lexeme

/-- A line ending is made of characters that end lines. -/
theorem isEnding_of_scan?_newline {input ending rest : List Char}
    (scanned : scan? input = some (.newline ending, rest)) : ∃ c ∈ input, isEnding c := by
  unfold scan? at scanned
  split at scanned
  · cases scanned
  · rename_i c tail
    split at scanned
    · cases scanned
    split at scanned
    · cases scanned
    split at scanned
    · rename_i ends
      exact ⟨c, .head _, ends⟩
    · obtain ⟨_, _, equal⟩ := Option.map_eq_some_iff.1 scanned
      cases equal

/-- A text without line endings has no lexeme for one. -/
theorem newline_not_mem_lexemes {input : List Char} (oneLine : ∀ c ∈ input, isEnding c = false)
    (ending : List Char) : .newline ending ∉ (lexemes input).1 := by
  fun_induction lexemes input with
  | case1 => exact List.not_mem_nil
  | case2 input lexeme rest scanned others unread equal inductionHypothesis =>
    have parts := chars_scan? scanned
    rw [equal] at inductionHypothesis
    intro member
    rcases List.mem_cons.1 member with rfl | later
    · obtain ⟨c, inside, ends⟩ := isEnding_of_scan?_newline scanned
      cases (oneLine c inside).symm.trans ends
    · refine inductionHypothesis (fun c inside => oneLine c ?_) later
      rw [parts.1]
      exact List.mem_append_right _ inside

/-- Lexemes without a line ending make one phrase at most. -/
theorem length_group_le_one {position : Position} {current : Option Phrase} {unread : List Char}
    {read : List Lexeme} {found : List Phrase} (oneLine : ∀ ending, .newline ending ∉ read)
    (grouped : group position current unread read = .ok found) : found.length ≤ 1 := by
  fun_induction group position current unread read generalizing found with
  | case1 position current =>
    cases grouped
    cases current <;> simp
  | case2 => cases grouped
  | case3 position current spaces rest inductionHypothesis =>
    exact inductionHypothesis (fun ending member => oneLine ending (.tail _ member)) grouped
  | case4 position current remark rest inductionHypothesis =>
    exact inductionHypothesis (fun ending member => oneLine ending (.tail _ member)) grouped
  | case5 position current ending rest => exact absurd (.head _) (oneLine ending)
  | case6 position rest phrase token inductionHypothesis =>
    exact inductionHypothesis (fun ending member => oneLine ending (.tail _ member)) grouped
  | case7 position rest letters inductionHypothesis =>
    exact inductionHypothesis (fun ending member => oneLine ending (.tail _ member)) grouped
  | case8 => cases grouped

/-- A script of one line has one statement at most. -/
theorem length_le_one_of_parse {source : String} {statements : List Statement}
    (oneLine : ∀ c ∈ source.toList, isEnding c = false) (parsed : parse source = .ok statements) :
    statements.length ≤ 1 := by
  unfold parse parseChars at parsed
  cases read : phrases source.toList with
  | error refusal => simp [read] at parsed
  | ok found =>
    simp only [read] at parsed
    have short := length_group_le_one (newline_not_mem_lexemes oneLine) read
    cases found with
    | nil =>
      cases parsed
      exact Nat.zero_le 1
    | cons phrase others =>
      obtain rfl : others = [] := List.eq_nil_of_length_eq_zero (by simpa using short)
      cases meaning : phrase.statement with
      | error problem => simp [meaning, bind, Except.bind] at parsed
      | ok statement =>
        simp [meaning, bind, Except.bind, pure, Except.pure] at parsed
        simp [← parsed]

end Script

/-- What a diagnostic of a script is about: the script cannot be read, or a name stands for
nothing. -/
def Diagnostic.OfScript (diagnostic : Diagnostic) : Prop :=
  (∃ error, diagnostic = .ofParseError error) ∨
    (∃ name, diagnostic.cause = .unknownType name) ∨
    ∃ name, diagnostic.cause = .unknownVariable name

namespace Compile

/-- A script fails with a diagnostic. -/
theorem diagnosed_of_replay {tracing : Tracing} {statements : List Statement} {before : Builder}
    {failure : Failure} (failed : (replay tracing statements before).failure = some failure) :
    ∃ diagnostic : Diagnostic, failure = .diagnosed diagnostic ∧ diagnostic.OfScript := by
  have replayed := replay_replayed tracing statements before
  rw [failed] at replayed
  cases replayed with
  | done accepted _ => cases accepted
  | stopped noted _ _ _ refusal =>
    cases noted
    cases refusal with
    | unknownType _ => exact ⟨_, rfl, .inr (.inl ⟨_, rfl⟩)⟩
    | unknownVariable _ _ => exact ⟨_, rfl, .inr (.inr ⟨_, rfl⟩)⟩

/-- A script of one line that fails leaves the builder as it was. -/
theorem replaySource_refused {tracing : Tracing} {source : String} {before : Builder}
    {failure : Failure} (oneLine : ∀ c ∈ source.toList, Lexeme.isEnding c = false)
    (failed : (replaySource tracing source before).failure = some failure) :
    (replaySource tracing source before).builder = before ∧
      ∃ diagnostic : Diagnostic, failure = .diagnosed diagnostic ∧ diagnostic.OfScript := by
  unfold replaySource at failed ⊢
  cases parsed : parse source with
  | error error =>
    simp only [parsed] at failed ⊢
    cases failed
    exact ⟨trivial, _, rfl, .inl ⟨error, rfl⟩⟩
  | ok statements =>
    simp only [parsed] at failed ⊢
    refine ⟨?_, diagnosed_of_replay failed⟩
    obtain ⟨earlier, statement, later, rfl, _, _, same⟩ := replay_failed failed
    -- No statement stands before the only one.
    have short := length_le_one_of_parse oneLine parsed
    obtain rfl : earlier = [] := by
      apply List.eq_nil_of_length_eq_zero
      simp only [List.length_append, List.length_cons] at short
      omega
    exact same

end Compile

namespace Console

/-! ### What a line holds -/

/-- Typing adds what is typed or takes something back. -/
theorem Draft.sublist_type {draft after : Draft} {cluster : List Char}
    (typed : draft.type cluster = some after) : after.text.Sublist (draft.text ++ cluster) := by
  unfold Draft.type at typed
  split at typed
  · refine List.Sublist.trans ?_ (List.sublist_append_left _ _)
    unfold Draft.takeBack at typed
    split at typed
    · cases typed
      exact .refl _
    · obtain ⟨⟨taken, rest⟩, cut, equal⟩ := Option.map_eq_some_iff.1 typed
      cases equal
      simp only [Draft.text, (Text.takeBytes?_eq_some_iff.1 cut).1, List.reverse_append]
      exact List.sublist_append_left _ _
  · cases typed
    simp [Draft.text, Draft.add]

/-- A line holds nothing but what was typed, in the order in which it was typed. -/
theorem corrected_sublist {line text : List Char} (made : corrected line = some text) :
    text.Sublist line := by
  -- The draft stands for what was typed before, so that the induction can go on from it.
  have typed {clusters : List (List Char)} {draft after : Draft}
      (made : clusters.foldlM Draft.type draft = some after) :
      after.text.Sublist (draft.text ++ clusters.flatten) := by
    induction clusters generalizing draft with
    | nil =>
      cases made
      simp
    | cons cluster others inductionHypothesis =>
      rw [List.foldlM_cons] at made
      obtain ⟨middle, first, rest⟩ := Option.bind_eq_some_iff.1 made
      have later := inductionHypothesis rest
      have here := (Draft.sublist_type first).append_right others.flatten
      rw [List.flatten_cons, ← List.append_assoc]
      exact later.trans here
  obtain ⟨after, found, rfl⟩ := Option.map_eq_some_iff.1 made
  simpa [Draft.empty, Draft.text] using typed found

/-- A line with no carriage return but at its end. -/
def Unbroken (line : List Char) : Prop :=
  ∃ body count, line = body ++ List.replicate count '\r' ∧ '\r' ∉ body

theorem Unbroken.sublist {line part : List Char} (unbroken : Unbroken line)
    (sublist : part.Sublist line) : Unbroken part := by
  obtain ⟨body, count, rfl, plain⟩ := unbroken
  obtain ⟨first, last, rfl, inBody, inReturns⟩ := List.sublist_append_iff.1 sublist
  obtain ⟨fewer, _, rfl⟩ := List.sublist_replicate_iff.1 inReturns
  exact ⟨first, fewer, rfl, fun member => plain (inBody.subset member)⟩

/-- Trimming takes the carriage returns at the end off. -/
theorem Unbroken.not_mem_trimChars {line : List Char} (unbroken : Unbroken line) :
    '\r' ∉ Text.trimChars line := by
  obtain ⟨body, count, equal, plain⟩ := unbroken.sublist (List.dropWhile_sublist Text.isBlank)
  have blank : ∀ c ∈ List.replicate count '\r', Text.isBlank c := by
    intro c member
    rw [(List.mem_replicate.1 member).2]
    decide
  intro member
  rw [Text.trimChars, equal, List.reverse_append, List.reverse_replicate,
    List.dropWhile_append_of_pos blank, List.mem_reverse] at member
  exact plain (List.mem_reverse.1 ((List.dropWhile_sublist _).subset member))

theorem trimChars_subset (line : List Char) : Text.trimChars line ⊆ line := by
  intro c member
  have trimmed := (List.dropWhile_sublist _).subset (List.mem_reverse.1 member)
  exact (List.dropWhile_sublist _).subset (List.mem_reverse.1 trimmed)

/-! ### Replies -/

/-- A script is what the line holds, without the blanks at its ends. -/
theorem toList_of_ofLine {line : List Char} {source : String}
    (asked : Inquiry.ofLine line = .script source) : source.toList = Text.trimChars line := by
  unfold Inquiry.ofLine at asked
  generalize trimmed : Text.trim (String.ofList line) = whole at asked
  split at asked <;> cases asked
  rw [← trimmed]
  simp [Text.trim]

/-- A line that is answered with a message and does not end the session brings about a
diagnostic and nothing else. -/
theorem respond_refused {ink : Ink} {builder : Builder} {line : List Char}
    (unbroken : Unbroken line) (oneLine : '\n' ∉ line)
    (told : (respond ink builder line).stderr ≠ "")
    (goesOn : (respond ink builder line).exit = none) :
    ∃ diagnostic : Diagnostic, diagnostic.OfScript ∧
      respond ink builder line = { stderr := diagnostic.render ink, builder := builder } := by
  unfold respond at told goesOn ⊢
  cases made : corrected line with
  | none => simp [made] at goesOn
  | some text =>
    simp only [made] at told goesOn ⊢
    have sublist := corrected_sublist made
    cases asked : Inquiry.ofLine text with
    | script source =>
      have plain : ∀ c ∈ source.toList, Lexeme.isEnding c = false := by
        rw [toList_of_ofLine asked]
        intro c member
        rw [Lexeme.isEnding, Bool.or_eq_false_iff, decide_eq_false_iff_not,
          decide_eq_false_iff_not]
        constructor
        · rintro rfl
          exact oneLine (sublist.subset (trimChars_subset text member))
        · rintro rfl
          exact (unbroken.sublist sublist).not_mem_trimChars member
      simp only [asked, Inquiry.reply] at told goesOn ⊢
      cases failed : (replaySource (sessionTracing ink) source builder).failure with
      | none => simp [failed] at told
      | some failure =>
        obtain ⟨unchanged, diagnostic, rfl, ofScript⟩ := replaySource_refused plain failed
        exact ⟨diagnostic, ofScript, by rw [unchanged]⟩
    | _ => simp [asked, Inquiry.reply] at told

/-! ### Sessions -/

/-- What lines bring about that do not end the session. -/
structure Progress where
  stdout : String
  stderr : String
  builder : Builder
  deriving DecidableEq, Repr

/-- Answer lines in order, unless one of them ends the session. -/
def proceed? (ink : Ink) : List (List Char) → Builder → Option Progress
  | [], builder => some ⟨"", "", builder⟩
  | line :: rest, builder =>
    let reply := respond ink builder line
    match reply.exit with
    | some _ => none
    | none =>
      (proceed? ink rest reply.builder).map fun others =>
        ⟨reply.stdout ++ others.stdout, reply.stderr ++ others.stderr, others.builder⟩

/-- A session goes on where its first lines have brought it. -/
theorem converse_append {ink : Ink} {before : List (List Char)} {builder : Builder}
    {progress : Progress} (proceeded : proceed? ink before builder = some progress)
    (rest : List (List Char)) :
    converse ink (before ++ rest) builder =
      ⟨progress.stdout ++ (converse ink rest progress.builder).stdout,
        progress.stderr ++ (converse ink rest progress.builder).stderr,
        (converse ink rest progress.builder).exit⟩ := by
  induction before generalizing builder progress with
  | nil =>
    cases proceeded
    simp
  | cons line others inductionHypothesis =>
    simp only [proceed?] at proceeded
    simp only [List.cons_append, converse]
    cases exit : (respond ink builder line).exit with
    | some status => simp [exit] at proceeded
    | none =>
      simp only [exit] at proceeded ⊢
      obtain ⟨later, laterProceeded, rfl⟩ := Option.map_eq_some_iff.1 proceeded
      simp [inductionHypothesis laterProceeded, String.append_assoc]

/-- A line that leads to a diagnostic can be left out of a session. The output stays the same,
and so does the error stream but for the diagnostic. -/
theorem refused_line_is_no_op (ink : Ink) {input other : String} {before after : List (List Char)}
    {line : List Char} {progress : Progress}
    (typed : Text.lines input.toList = before ++ line :: after)
    (omitted : Text.lines other.toList = before ++ after) (unbroken : Unbroken line)
    (proceeded : proceed? ink before .empty = some progress)
    (told : (respond ink progress.builder line).stderr ≠ "")
    (goesOn : (respond ink progress.builder line).exit = none) :
    ∃ diagnostic : Diagnostic, ∃ stdout later status,
      diagnostic.OfScript ∧
      (respond ink progress.builder line).stderr = diagnostic.render ink ∧
      session ink input =
        ⟨stdout, progress.stderr ++ diagnostic.render ink ++ later, status⟩ ∧
      session ink other = ⟨stdout, progress.stderr ++ later, status⟩ := by
  have member : line ∈ Text.lines input.toList := by
    rw [typed]
    exact List.mem_append_right _ (.head _)
  have oneLine : '\n' ∉ line := Text.not_mem_of_mem_lines member
  obtain ⟨diagnostic, ofScript, reply⟩ := respond_refused unbroken oneLine told goesOn
  refine ⟨diagnostic, banner ++ (progress.stdout ++ (converse ink after progress.builder).stdout),
    (converse ink after progress.builder).stderr, (converse ink after progress.builder).exit,
    ofScript, by rw [reply], ?_, ?_⟩
  · rw [session, typed, converse_append proceeded]
    simp [converse, reply, String.append_assoc]
  · rw [session, omitted, converse_append proceeded]

/-- A line with a correction, a blank before its carriage returns, and a name that is declared
behind it. -/
theorem refused_line_is_no_op_corrected :
    ∃ stdout later status,
      session .plain "push 1\nstore ax\x08 \r\r\ndeclare int a\nstore a\n:ir\n" =
        ⟨stdout, "error: cannot find variable `a`\n   = note: at script line 1\n" ++
          "   = help: make sure the variable is declared before use\n" ++ later, status⟩ ∧
      session .plain "push 1\ndeclare int a\nstore a\n:ir\n" = ⟨stdout, later, status⟩ := by
  have message : (respond .plain
      (replay ⟨{}, .typed, .plain⟩ [⟨1, .pushInteger "1"⟩] .empty).builder
      "store ax\x08 \r\r".toList).stderr =
        "error: cannot find variable `a`\n   = note: at script line 1\n" ++
          "   = help: make sure the variable is declared before use\n" := by decide +kernel
  have proceeded : proceed? .plain ["push 1".toList] .empty =
      some ⟨"", "", (replay ⟨{}, .typed, .plain⟩ [⟨1, .pushInteger "1"⟩] .empty).builder⟩ := by
    decide +kernel
  obtain ⟨diagnostic, stdout, later, status, _, told, shown, shownWithout⟩ :=
    @refused_line_is_no_op .plain "push 1\nstore ax\x08 \r\r\ndeclare int a\nstore a\n:ir\n"
      "push 1\ndeclare int a\nstore a\n:ir\n" ["push 1".toList]
      ["declare int a".toList, "store a".toList, ":ir".toList] "store ax\x08 \r\r".toList _
      (by decide +kernel) (by decide +kernel) ⟨"store ax\x08 ".toList, 2, by decide, by decide⟩
      proceeded (by rw [message]; decide) (by decide +kernel)
  refine ⟨stdout, later, status, ?_, ?_⟩
  · rw [shown, ← told, message]
    simp
  · rw [shownWithout]
    simp

end Console

end Stackline
