import Mathlib
import Stackline.Proofs.Assembly.Characters
import Stackline.Proofs.Compile.Spelling

/-!
# What a trace tells

The lines of a trace that are marked as code are the lines that were built, in their order.
Statements and stacks are traced too, and hold texts of the script, but no text can break out
of its line: it is quoted, or it is a literal. So each part of a trace lays out lines of which
it is known what they tell, for one command, for several, and for a whole script.
-/

namespace Stackline

open Stackline.Assembly
open Stackline.Code
open Stackline.Script
open Stackline.Terminal
open Stackline.Text (Lacks lacks_append lacks_intercalate lacks_spaces LaysOut laysOut_nothing
  laysOut_line)

/-! ### Lines of code in a text -/

/-- The code that a line of a trace shows. -/
def shownCode? (line : List Char) : Option String :=
  ("[ir] ".toList.isPrefixOf? line).map String.ofList

/-- The code that the lines of a text show. -/
def shownCode (text : String) : List String :=
  (Text.lines text.toList).filterMap shownCode?

/-- A text shows this code whatever follows it. -/
def Shows (text : String) (code : List String) : Prop :=
  ∃ found, LaysOut text found ∧ found.filterMap shownCode? = code

theorem Shows.shownCode_eq {text : String} {code : List String} (shows : Shows text code) :
    shownCode text = code := by
  obtain ⟨found, laysOut, rfl⟩ := shows
  rw [shownCode, laysOut.lines_eq]

theorem shows_nothing : Shows "" [] :=
  ⟨[], laysOut_nothing, rfl⟩

theorem Shows.append {text next : String} {code more : List String} (shows : Shows text code)
    (follows : Shows next more) : Shows (text ++ next) (code ++ more) := by
  obtain ⟨found, laysOut, rfl⟩ := shows
  obtain ⟨others, laysOutToo, rfl⟩ := follows
  exact ⟨found ++ others, laysOut.append laysOutToo, List.filterMap_append⟩

/-- Texts that show one thing each show all of them. -/
theorem shows_join {α : Type} {trace : α → String} {code : α → List String} {items : List α}
    (shows : ∀ item ∈ items, Shows (trace item) (code item)) :
    Shows (String.join (items.map trace)) (items.flatMap code) := by
  induction items with
  | nil => exact shows_nothing
  | cons item others inductionHypothesis =>
    obtain ⟨head, tail⟩ := List.forall_mem_cons.1 shows
    rw [List.map_cons, String.join_cons, List.flatMap_cons]
    exact head.append (inductionHypothesis tail)

/-- A line shows what it is marked for. -/
theorem shows_line {line : String} (oneLine : Lacks '\n' line) :
    Shows (line ++ "\n") (shownCode? line.toList).toList := by
  refine ⟨_, laysOut_line oneLine, ?_⟩
  cases shown : shownCode? line.toList <;> simp [shown]

theorem shows_codeTrace {text : String} (oneLine : Lacks '\n' text) :
    Shows (codeTrace .plain text) [text] := by
  have marked : Lacks '\n' ("[ir]" ++ " " ++ text) := lacks_append.2 ⟨by decide, oneLine⟩
  have shown : shownCode? ("[ir]" ++ " " ++ text).toList = some text := by
    rw [shownCode?, String.toList_append]
    simp
  have shows := shows_line marked
  rwa [shown] at shows

/-- A line under another mark shows no code. -/
theorem shows_traceLine {mark text : String} (oneLine : Lacks '\n' text)
    (other : mark = "[stack]" ∨ mark = "[script]") : Shows (traceLine .plain mark text) [] := by
  have marked : Lacks '\n' (mark ++ " " ++ text) := by
    rcases other with rfl | rfl <;> exact lacks_append.2 ⟨by decide, oneLine⟩
  have unshown : shownCode? (mark ++ " " ++ text).toList = none := by
    rw [String.toList_append, shownCode?]
    rcases other with rfl | rfl <;> rfl
  have shows := shows_line marked
  rwa [unshown] at shows

theorem shows_uncheckedWarning : Shows (Compile.uncheckedWarning .plain) [] := by
  have line : Compile.uncheckedWarning .plain =
      "warning: built without the `verify` feature, skipping verification" ++ "\n" := by
    decide +kernel
  rw [line]
  exact shows_line (by decide)

/-! ### Texts that stay on one line -/

theorem oneLine_hexadecimal (number : Nat) : '\n' ∉ Nat.toDigits 16 number := by
  have digit : ∀ value < 16, '\n' ≠ Nat.digitChar value := by decide
  induction number using Nat.strongRecOn with
  | ind number inductionHypothesis =>
    rcases Nat.lt_or_ge number 16 with small | large
    · rw [Nat.toDigits_of_lt_base small, List.mem_singleton]
      exact digit number small
    · rw [Nat.toDigits_of_base_le (by decide) large, List.mem_append, List.mem_singleton, not_or]
      exact ⟨inductionHypothesis (number / 16) (by omega),
        digit (number % 16) (Nat.mod_lt _ (by decide))⟩

theorem oneLine_codePoint (c : Char) : '\n' ∉ Text.codePoint c := by
  simp [Text.codePoint, oneLine_hexadecimal]

theorem oneLine_quoted (text : String) : Lacks '\n' (Text.quoted text) := by
  have inside : Lacks '\n' (String.ofList (text.toList.flatMap Text.quotedChar)) := by
    rw [Lacks, String.toList_ofList]
    intro member
    obtain ⟨c, _, spelled⟩ := List.mem_flatMap.1 member
    unfold Text.quotedChar at spelled
    split at spelled
    case h_7 printable =>
      split at spelled
      · exact oneLine_codePoint c spelled
      · cases List.mem_singleton.1 spelled
        contradiction
    all_goals simp at spelled
  exact lacks_append.2 ⟨lacks_append.2 ⟨by decide, inside⟩, by decide⟩

theorem oneLine_description (operation : Operation) : Lacks '\n' operation.description := by
  have around (opening closing text : String) (first : Lacks '\n' opening)
      (last : Lacks '\n' closing) : Lacks '\n' (opening ++ Text.quoted text ++ closing) :=
    lacks_append.2 ⟨lacks_append.2 ⟨first, oneLine_quoted text⟩, last⟩
  cases operation with
  | declare type name =>
    have head := around "Declare \x7b ty: " ", name: " type (by decide) (by decide)
    exact lacks_append.2 ⟨lacks_append.2 ⟨head, oneLine_quoted name⟩, by decide⟩
  | print => decide
  | arithmetic operator => cases operator <;> decide
  | _ => exact around _ _ _ (by decide) (by decide)

theorem shows_scriptTrace (statement : Statement) :
    Shows (Compile.scriptTrace .plain statement) [] := by
  have number : Lacks '\n' (Text.padLeft 4 (toString statement.line)) :=
    lacks_append.2 ⟨lacks_spaces (by decide) _, lacks_number (by decide) statement.line⟩
  refine shows_traceLine ?_ (.inr rfl)
  exact lacks_append.2 ⟨lacks_append.2 ⟨number, by decide⟩,
    oneLine_description statement.operation⟩

theorem oneLine_label (command : Command) : Lacks '\n' command.label := by
  unfold Command.label
  split
  case h_10 operator => cases operator <;> decide
  all_goals decide

/-! ### Commands -/

/-- A trace shows the lines that lead from one state to another. -/
def Told (pointers : Pointers) (trace : String) (before after : Builder) : Prop :=
  ∃ added, after.listing.lines = before.listing.lines ++ added ∧
    Shows trace (added.map (Line.spell pointers))

theorem told_nothing (pointers : Pointers) (builder : Builder) : Told pointers "" builder builder :=
  ⟨[], (List.append_nil _).symm, shows_nothing⟩

theorem Told.trans {pointers : Pointers} {trace next : String} {before middle after : Builder}
    (told : Told pointers trace before middle) (follows : Told pointers next middle after) :
    Told pointers (trace ++ next) before after := by
  obtain ⟨added, grown, shows⟩ := told
  obtain ⟨more, grownToo, showsToo⟩ := follows
  refine ⟨added ++ more, ?_, ?_⟩
  · rw [grownToo, grown, List.append_assoc]
  · rw [List.map_append]
    exact shows.append showsToo

/-- How traces are written here: the lines of code are traced, without colours. -/
structure Tracing.Plain (tracing : Tracing) : Prop where
  ink : tracing.ink = .plain
  lines : tracing.flags.lines = true

namespace Tracing

variable {tracing : Tracing} {before after : Builder}

/-- The trace of the lines that were added shows them. -/
theorem Plain.told_appended (plain : tracing.Plain) (grown : before.Extends after)
    (wellTyped : after.WellTyped tracing.pointers) :
    Told tracing.pointers (tracing.appended before after) before after := by
  obtain ⟨added, equal⟩ := grown.lines
  refine ⟨added, equal.symm, ?_⟩
  have since : after.listing.since before.listing = added := by
    rw [Listing.since, ← equal, List.drop_left]
  have legible : ∀ line ∈ added, line.content.Legible := fun line member =>
    wellTyped.legible line (equal ▸ List.mem_append_right _ member)
  have code : added.map (Line.spell tracing.pointers) =
      added.flatMap fun line => [line.spell tracing.pointers] := List.map_eq_flatMap
  rw [appended, if_pos plain.lines, since, plain.ink, code]
  exact shows_join fun line member => shows_codeTrace (oneLine_spell (legible line member))

/-- The trace of a stack shows no code. -/
theorem Plain.shows_stack (plain : tracing.Plain) (command : Command)
    (wellTyped : after.WellTyped tracing.pointers) :
    Shows (tracing.stack command.label after) [] := by
  unfold stack
  split
  · have label : Lacks '\n' (Text.padRight 12 command.label) :=
      lacks_append.2 ⟨oneLine_label command, lacks_spaces (by decide) _⟩
    have operands : Lacks '\n' (", ".intercalate (after.stack.reverse.map operandText)) := by
      apply lacks_intercalate (by decide)
      intro text member
      obtain ⟨operand, inside, rfl⟩ := List.mem_map.1 member
      have hasKind := wellTyped.stack operand (List.mem_reverse.1 inside)
      refine lacks_append.2 ⟨lacks_append.2 ⟨?_, by decide⟩, oneLine_kind operand.kind⟩
      exact lacks_operand (by decide) hasKind.legible
    rw [plain.ink]
    refine shows_traceLine ?_ (.inl rfl)
    exact lacks_append.2 ⟨lacks_append.2 ⟨lacks_append.2 ⟨label, by decide⟩, operands⟩, by decide⟩
  · exact shows_nothing

end Tracing

namespace Command

variable {tracing : Tracing} {before : Builder}

/-- The trace of a command is that of the lines it added, perhaps with that of a stack. -/
theorem trace_perform (tracing : Tracing) (command : Command) (before : Builder) :
    ∃ shown,
      (shown = "" ∨
        shown = tracing.stack command.label (perform tracing command before).builder) ∧
      (perform tracing command before).trace =
        tracing.appended before (perform tracing command before).builder ++ shown := by
  unfold perform
  cases command.run before with
  | ok _ after =>
    refine ⟨_, ?_, rfl⟩
    split
    · exact .inr rfl
    · exact .inl rfl
  | error failure after => exact ⟨"", .inl rfl, String.append_empty.symm⟩

/-- A command shows the lines it adds. -/
theorem told_perform (plain : tracing.Plain) {command : Command} (legible : command.Legible)
    (wellTyped : before.WellTyped tracing.pointers) :
    (perform tracing command before).builder.WellTyped tracing.pointers ∧
      Told tracing.pointers (perform tracing command before).trace before
        (perform tracing command before).builder := by
  have outcome : (perform tracing command before).builder.WellTyped tracing.pointers ∧
      before.Extends (perform tracing command before).builder := by
    rcases perform_cases tracing command before with ⟨_, step⟩ | ⟨_, _, _, unchanged⟩
    · exact ⟨step.wellTyped legible wellTyped, step.grows⟩
    · rw [unchanged]
      exact ⟨wellTyped, .of_eq rfl rfl⟩
  refine ⟨outcome.1, ?_⟩
  obtain ⟨shown, stack, traced⟩ := trace_perform tracing command before
  have nothing : Shows shown [] := by
    rcases stack with rfl | rfl
    · exact shows_nothing
    · exact plain.shows_stack command outcome.1
  rw [traced]
  exact (plain.told_appended outcome.2 outcome.1).trans ⟨[], (List.append_nil _).symm, nothing⟩

/-- Commands show the lines they add. -/
theorem told_performAll (plain : tracing.Plain) {commands : List Command}
    (legible : ∀ command ∈ commands, command.Legible)
    (wellTyped : before.WellTyped tracing.pointers) :
    (performAll tracing commands before).builder.WellTyped tracing.pointers ∧
      Told tracing.pointers (performAll tracing commands before).trace before
        (performAll tracing commands before).builder := by
  induction commands generalizing before with
  | nil => exact ⟨wellTyped, told_nothing _ _⟩
  | cons command rest inductionHypothesis =>
    obtain ⟨head, tail⟩ := List.forall_mem_cons.1 legible
    -- Being well-typed goes along, as it keeps the operands of later stacks on one line.
    obtain ⟨middleTyped, told⟩ := told_perform plain head wellTyped
    unfold performAll
    cases failed : (perform tracing command before).failure with
    | some _ =>
      simp only [failed]
      exact ⟨middleTyped, told⟩
    | none =>
      simp only [failed]
      obtain ⟨afterTyped, follows⟩ := inductionHypothesis tail middleTyped
      exact ⟨afterTyped, told.trans follows⟩

end Command

namespace Compile

open Stackline.Command

/-- A script shows the lines it adds. -/
theorem told_replay {tracing : Tracing} (plain : tracing.Plain) {statements : List Statement}
    (permitted : ∀ statement ∈ statements, statement.operation.Permitted) {before : Builder}
    (wellTyped : before.WellTyped tracing.pointers) :
    Told tracing.pointers (replay tracing statements before).trace before
      (replay tracing statements before).builder := by
  induction statements generalizing before with
  | nil => exact told_nothing _ _
  | cons statement rest inductionHypothesis =>
    obtain ⟨head, tail⟩ := List.forall_mem_cons.1 permitted
    have legible : ∀ command ∈ commands statement.operation, command.Legible := by
      have single := @legible_scriptCommands [statement] (by simpa using head)
      simpa [scriptCommands] using single
    obtain ⟨middleTyped, told⟩ := told_performAll plain legible wellTyped
    unfold replay
    cases failed : (performAll tracing (commands statement.operation) before).failure with
    | some error =>
      simp only [failed]
      exact told
    | none =>
      simp only [failed]
      exact told.trans (inductionHypothesis tail middleTyped)

/-- The error stream of a compilation shows the lines that were built. -/
theorem shows_emitStatements {options : Options} (traced : options.debug.lines = true)
    {statements : List Statement}
    (permitted : ∀ statement ∈ statements, statement.operation.Permitted) :
    Shows (emitStatements .plain options statements).stderr
      ((replay (options.tracing .plain) statements .empty).builder.listing.lines.map
        (Line.spell options.spelling.pointers)) := by
  have listed : Shows (if options.debug.script then
      String.join (statements.map (scriptTrace .plain)) else "") [] := by
    split
    · have shows := shows_join fun statement (_ : statement ∈ statements) =>
        shows_scriptTrace statement
      rwa [List.flatMap_eq_nil_iff.2 fun _ _ => rfl] at shows
    · exact shows_nothing
  have plain : (options.tracing .plain).Plain := ⟨rfl, traced⟩
  obtain ⟨added, lines, shows⟩ := told_replay plain permitted Builder.wellTyped_empty
  have empty : Builder.empty.listing.lines = [] := rfl
  rw [empty, List.nil_append] at lines
  rw [lines]
  have warning : Shows (if options.verify then uncheckedWarning .plain else "") [] := by
    split
    · exact shows_uncheckedWarning
    · exact shows_nothing
  have code := listed.append shows
  unfold emitStatements
  dsimp only
  split
  · exact code
  · split
    · exact code
    · have warned := code.append warning
      rwa [List.append_nil] at warned

/-- A script that can be read and is not compiled fails on the way. -/
theorem failure_of_emit {ink : Ink} {options : Options} {source : String}
    {statements : List Statement} {failure : Failure}
    (margin : options.spelling.indent < Program.lengthLimit)
    (parsed : parse source = .ok statements)
    (failed : (emit ink options source).result = .error failure) :
    (replay (options.tracing ink) statements .empty).failure = some failure := by
  rw [emit, parsed] at failed
  dsimp only [emitStatements] at failed
  cases outcome : (replay (options.tracing ink) statements .empty).failure with
  | some error =>
    rw [outcome] at failed
    cases failed
    rfl
  | none => simp [outcome, Program.text?, margin] at failed

/-- What is traced, whether the module is to be checked and how the trace is coloured make no
difference to what a script is compiled to. A trace of code without colours shows exactly the
lines that were built, whatever else is traced: those of the body of the module, or those of
the statements before the one that fails. -/
theorem trace_faithful_and_harmless (options : Options) (source : String)
    (margin : options.spelling.indent < 2 ^ 63) :
    (∀ ink otherInk others, others.spelling = options.spelling →
      (emit otherInk others source).result = (emit ink options source).result) ∧
    (options.debug.lines = true →
      (∀ error, parse source = .error error →
        shownCode (emit .plain options source).stderr = []) ∧
      (∀ text, (emit .plain options source).result = .ok text →
        ∃ layout, Layout.read? options.spelling text = some layout ∧
          text = layout.text options.spelling ∧
          shownCode (emit .plain options source).stderr = layout.body) ∧
      ∀ statements failure, parse source = .ok statements →
        (emit .plain options source).result = .error failure →
        ∃ earlier statement later, statements = earlier ++ statement :: later ∧
          (replay (options.tracing .plain) earlier .empty).failure = none ∧
          (replay (options.tracing .plain) [statement]
            (replay (options.tracing .plain) earlier .empty).builder).failure = some failure ∧
          shownCode (emit .plain options source).stderr =
            (replay (options.tracing .plain) earlier .empty).builder.listing.lines.map
              (Line.spell options.spelling.pointers)) := by
  constructor
  · intro ink otherInk others same
    rw [emit_result ink options source margin,
      emit_result otherInk others source (same ▸ margin), same]
  intro traced
  refine ⟨?_, ?_, ?_⟩
  · intro error refused
    rw [emit, refused]
    rfl
  · intro text compiled
    obtain ⟨statements, after, parsed, accepted, spelled⟩ := (emit_eq_ok_iff _ _).1 compiled
    obtain ⟨_, rfl⟩ := (replay_accepted_iff (options.tracing .plain)).2 accepted
    have shown := (shows_emitStatements traced (permitted_of_parse parsed)).shownCode_eq
    obtain rfl : Program.text options.spelling _ = text :=
      Option.some.inj ((if_pos margin).symm.trans spelled)
    refine ⟨_, (Reached.replayed parsed _).read?_text options.spelling,
      Program.text_eq_layout _ _, ?_⟩
    rw [emit, parsed]
    exact shown
  · intro statements failure parsed failed
    have shown := (shows_emitStatements traced (permitted_of_parse parsed)).shownCode_eq
    obtain ⟨earlier, statement, later, split, accepted, refused, same⟩ :=
      replay_failed (failure_of_emit margin parsed failed)
    refine ⟨earlier, statement, later, split, accepted, refused, ?_⟩
    rw [emit, parsed, ← same]
    exact shown

/-- A text that imitates a line of code, among traces of statements and stacks. -/
theorem trace_faithful_and_harmless_imitation :
    ∃ text layout,
      (emit .plain ⟨[], none, ⟨true, true, true⟩, {}, true⟩
        "push -1\nwrite \"\\n[ir] store\"\nprint").result = .ok text ∧
      Layout.read? {} text = some layout ∧
      shownCode (emit .plain ⟨[], none, ⟨true, true, true⟩, {}, true⟩
        "push -1\nwrite \"\\n[ir] store\"\nprint").stderr = layout.body ∧
      layout.body.map Assembly.untype =
        ["%1 = call i32 (ptr, ...) @printf(ptr @str1)",
          "%2 = call i32 (ptr, ...) @printf(ptr @str2, i32 -1)"] := by
  have parsed : parse "push -1\nwrite \"\\n[ir] store\"\nprint" =
      .ok [⟨1, .pushInteger "-1"⟩, ⟨2, .writeText "\n[ir] store"⟩, ⟨3, .print⟩] := by
    decide +kernel
  have ready : built "push -1\nwrite \"\\n[ir] store\"\nprint" =
      .ok (replay ⟨{}, .typed, .plain⟩ [⟨1, .pushInteger "-1"⟩, ⟨2, .writeText "\n[ir] store"⟩,
        ⟨3, .print⟩] .empty).builder := by
    simp only [built, parsed]
    rfl
  obtain ⟨text, compiled, _, read⟩ := emit_layout .plain
    ⟨[], none, ⟨true, true, true⟩, {}, true⟩ (by decide) ready
  obtain ⟨layout, readAgain, _, shown⟩ := ((trace_faithful_and_harmless
    ⟨[], none, ⟨true, true, true⟩, {}, true⟩ _ (by decide)).2 rfl).2.1 text compiled
  refine ⟨text, layout, compiled, readAgain, shown, ?_⟩
  cases readAgain.symm.trans read
  decide +kernel

end Compile

end Stackline
