import Mathlib
import Stackline.Proofs.Builder.Typing
import Stackline.Proofs.Compile.Acceptance

/-!
# What a replay comes to

A script is built before it is spelled. `built` says what it comes to until then, and by
`emit_result` an emission adds nothing to that but the spelling of the module. Tracing is no
part of it. A script that fails ends at a statement that leaves the builder as it was, so
that the builder is the one that the statements before it lead to.
-/

namespace Stackline

open Stackline.Code
open Stackline.Script
open Stackline.Terminal

namespace Command

/-- How a command is traced changes neither its failure nor its state. -/
theorem perform_untraced (tracing other : Tracing) (command : Command) (before : Builder) :
    (command.perform tracing before).failure = (command.perform other before).failure ∧
      (command.perform tracing before).builder = (command.perform other before).builder := by
  unfold perform
  cases command.run before <;> exact ⟨rfl, rfl⟩

theorem performAll_untraced (tracing other : Tracing) (commands : List Command)
    (before : Builder) :
    (performAll tracing commands before).failure = (performAll other commands before).failure ∧
      (performAll tracing commands before).builder =
        (performAll other commands before).builder := by
  induction commands generalizing before with
  | nil => exact ⟨rfl, rfl⟩
  | cons command rest inductionHypothesis =>
    obtain ⟨failure, builder⟩ := perform_untraced tracing other command before
    unfold performAll
    cases failed : (command.perform other before).failure with
    | some error =>
      simp only [failure.trans failed, failed]
      exact ⟨trivial, builder⟩
    | none =>
      simp only [failure.trans failed, failed, builder]
      exact inductionHypothesis _

end Command

namespace Compile

open Stackline.Command

/-- How a script is traced changes neither its failure nor its state. -/
theorem replay_untraced (tracing other : Tracing) (statements : List Statement)
    (before : Builder) :
    (replay tracing statements before).failure = (replay other statements before).failure ∧
      (replay tracing statements before).builder = (replay other statements before).builder := by
  induction statements generalizing before with
  | nil => exact ⟨rfl, rfl⟩
  | cons statement rest inductionHypothesis =>
    obtain ⟨failure, builder⟩ :=
      performAll_untraced tracing other (commands statement.operation) before
    unfold replay
    cases failed : (performAll other (commands statement.operation) before).failure with
    | some error =>
      simp only [failure.trans failed, failed]
      exact ⟨trivial, builder⟩
    | none =>
      simp only [failure.trans failed, failed, builder]
      exact inductionHypothesis _

/-- A statement that fails leaves the builder as it was. -/
theorem performAll_refused {tracing : Tracing} {operation : Operation} {before : Builder}
    {error : BuildError}
    (failed : (performAll tracing (commands operation) before).failure = some error) :
    (performAll tracing (commands operation) before).builder = before := by
  have performed := performAll_performed tracing (commands operation) before
  generalize (performAll tracing (commands operation) before).builder = after at performed ⊢
  cases performed with
  | done accepted _ => cases accepted.symm.trans failed
  | stopped _ inside run refusal =>
    obtain rfl := eq_nil_of_refused inside refusal
    cases run
    rfl

/-- A script fails at one of its statements, and leaves the builder to which the statements
before it lead. -/
theorem replay_failed {tracing : Tracing} {statements : List Statement} {before : Builder}
    {failure : Failure} (failed : (replay tracing statements before).failure = some failure) :
    ∃ earlier statement later, statements = earlier ++ statement :: later ∧
      (replay tracing earlier before).failure = none ∧
      (replay tracing [statement] (replay tracing earlier before).builder).failure =
        some failure ∧
      (replay tracing statements before).builder = (replay tracing earlier before).builder := by
  induction statements generalizing before with
  | nil => cases failed
  | cons statement rest inductionHypothesis =>
    cases first : (performAll tracing (commands statement.operation) before).failure with
    | some error =>
      refine ⟨[], statement, rest, rfl, rfl, ?_, ?_⟩
      · rw [← failed]
        simp only [replay, first]
      · simp only [replay, first]
        exact performAll_refused first
    | none =>
      simp only [replay, first] at failed
      obtain ⟨earlier, last, later, rfl, accepted, refused, same⟩ := inductionHypothesis failed
      refine ⟨statement :: earlier, last, later, rfl, ?_, ?_, ?_⟩
      all_goals simpa only [replay, first]

/-- What a script is built to, before it is spelled. -/
def built (source : String) : Except Failure Builder :=
  match parse source with
  | .error error => .error (.diagnosed (.ofParseError error))
  | .ok statements =>
    match (replay ⟨{}, .typed, .plain⟩ statements .empty).failure with
    | some failure => .error failure
    | none => .ok (replay ⟨{}, .typed, .plain⟩ statements .empty).builder

/-- A script is compiled to the spelling of what it is built to. -/
theorem emit_result (ink : Ink) (options : Options) (source : String)
    (margin : options.spelling.indent < Program.lengthLimit) :
    (emit ink options source).result =
      (built source).map fun builder => builder.program.text options.spelling := by
  unfold emit built
  cases parse source with
  | error error => rfl
  | ok statements =>
    obtain ⟨failure, builder⟩ :=
      replay_untraced (options.tracing ink) ⟨{}, .typed, .plain⟩ statements .empty
    cases failed : (replay ⟨{}, .typed, .plain⟩ statements .empty).failure with
    | some error => simp [emitStatements, failure, failed, Except.map]
    | none =>
      simp [emitStatements, failure, failed, builder, Program.text?, margin, Except.map]

/-- A builder to which a script that can be read was handed, up to its end or up to the first
statement that fails. -/
inductive Reached : Builder → Prop where
  | replayed {source : String} {statements : List Statement}
      (parsed : parse source = .ok statements) (tracing : Tracing) :
      Reached (replay tracing statements .empty).builder

theorem Reached.wellTyped {builder : Builder} (reached : Reached builder) (pointers : Pointers) :
    builder.WellTyped pointers := by
  obtain ⟨parsed, tracing⟩ := reached
  rename_i statements
  refine wellTyped_of_applied parsed tracing pointers statements.length (.inl ?_)
  rw [List.take_length]

theorem reached_of_built {source : String} {builder : Builder}
    (ready : built source = .ok builder) : Reached builder := by
  unfold built at ready
  cases parsed : parse source with
  | error error => simp [parsed] at ready
  | ok statements =>
    simp only [parsed] at ready
    split at ready
    · cases ready
    · cases ready
      exact .replayed parsed _

/-- A module that a script is compiled to is the spelling of the builder to which a run over all
commands of the script leads. -/
theorem exists_run_of_emit {ink : Ink} {options : Options} {source text : String}
    (compiled : (emit ink options source).result = .ok text) :
    ∃ statements builder, parse source = .ok statements ∧ Reached builder ∧
      Steps (scriptCommands statements) .empty builder ∧
      text = builder.program.text options.spelling := by
  obtain ⟨statements, builder, parsed, accepted, spelled⟩ :=
    (emit_eq_ok_iff ink options).1 compiled
  obtain ⟨succeeded, rfl⟩ := (replay_accepted_iff (options.tracing ink)).2 accepted
  refine ⟨statements, _, parsed, .replayed parsed (options.tracing ink), ?_, ?_⟩
  · cases replay_replayed (options.tracing ink) statements .empty with
    | done _ run => exact run
    | stopped failed _ _ _ _ => cases failed.symm.trans succeeded
  · unfold Program.text? at spelled
    split at spelled
    · exact (Option.some.inj spelled).symm
    · cases spelled

end Compile

end Stackline
