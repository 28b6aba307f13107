import Stackline.Compile.Emission
import Stackline.Proofs.Builder.Step

/-!
# Runs of a builder

A run is a sequence of steps. Whatever a script or a sequence of commands comes
to, the state it ends in was reached by a run over some of its commands: those
before the first refusal when the work ends there (`replay_steps`), and all that
were not refused when the work goes on (`attempt_steps`). `Steps.preserves` turns
what one step keeps into what every run keeps. A script without refusals comes to what
its commands come to, however it is traced (`replay_accepted_iff`).
-/

namespace Stackline

open Stackline.Code
open Stackline.Script
open Stackline.Terminal

namespace Command

/-- Zero or more steps, with the commands that took them. -/
inductive Steps : List Command → Builder → Builder → Prop where
  | refl {builder} : Steps [] builder builder
  | step {command rest before middle after} (first : Step command before middle)
      (others : Steps rest middle after) : Steps (command :: rest) before after

/-- Runs that meet at one state make one run. -/
theorem Steps.trans {first second : List Command} {before middle after : Builder}
    (left : Steps first before middle) (right : Steps second middle after) :
    Steps (first ++ second) before after := by
  induction left with
  | refl => exact right
  | step taken _ inductionHypothesis => exact .step taken (inductionHypothesis right)

/-- A run can be cut where its commands are. -/
theorem Steps.cut {first second : List Command} {before after : Builder}
    (run : Steps (first ++ second) before after) :
    ∃ middle, Steps first before middle ∧ Steps second middle after := by
  induction first generalizing before with
  | nil => exact ⟨before, .refl, run⟩
  | cons command rest inductionHypothesis =>
    cases run with
    | step taken others =>
      obtain ⟨middle, left, right⟩ := inductionHypothesis others
      exact ⟨middle, .step taken left, right⟩

/-- What every step over admitted commands keeps, a run over such commands keeps. -/
theorem Steps.preserves {Admitted : Command → Prop} {Holds : Builder → Prop}
    (preserved : ∀ {command before after}, Admitted command → Step command before after →
      Holds before → Holds after)
    {commands : List Command} {before after : Builder} (run : Steps commands before after)
    (admitted : ∀ command ∈ commands, Admitted command) (holds : Holds before) :
    Holds after := by
  induction run with
  | refl => exact holds
  | step first _ inductionHypothesis =>
    obtain ⟨head, tail⟩ := List.forall_mem_cons.1 admitted
    exact inductionHypothesis tail (preserved head first holds)

/-- A run only adds lines and texts. -/
theorem Steps.grows {commands : List Command} {before after : Builder}
    (run : Steps commands before after) : before.Extends after := by
  induction run with
  | refl => exact .of_eq rfl rfl
  | step first _ inductionHypothesis => exact first.grows.trans inductionHypothesis

/-- What came of a performed command: a step, or a refusal that changed nothing. -/
theorem perform_cases (tracing : Tracing) (command : Command) (before : Builder) :
    (perform tracing command before).failure = none ∧
        Step command before (perform tracing command before).builder ∨
      ∃ failure, (perform tracing command before).failure = some failure ∧
        Refused command before failure ∧
        (perform tracing command before).builder = before := by
  have outcome := run_outcome command before
  unfold perform
  generalize command.run before = result at outcome ⊢
  cases outcome with
  | done step => exact .inl ⟨rfl, step⟩
  | refused refusal => exact .inr ⟨_, rfl, refusal, rfl⟩

/-- What came of commands, by the state and the failure they ended with: a run over all
of them, or one up to the first that is refused. -/
inductive Performed (commands : List Command) (before after : Builder)
    (failure : Option BuildError) : Prop where
  | done (accepted : failure = none) (run : Steps commands before after)
  | stopped {done command rest error} (failed : failure = some error)
      (split : commands = done ++ command :: rest) (run : Steps done before after)
      (refusal : Refused command after error)

theorem performAll_performed (tracing : Tracing) (commands : List Command) (before : Builder) :
    Performed commands before (performAll tracing commands before).builder
      (performAll tracing commands before).failure := by
  induction commands generalizing before with
  | nil => exact .done rfl .refl
  | cons command rest inductionHypothesis =>
    unfold performAll
    rcases perform_cases tracing command before with ⟨accepted, step⟩ |
      ⟨error, failed, refusal, unchanged⟩
    · simp only [accepted]
      cases inductionHypothesis (perform tracing command before).builder with
      | done accepted run => exact .done accepted (.step step run)
      | stopped failed split run refusal =>
        exact .stopped failed (by rw [split, List.cons_append]) (.step step run) refusal
    · simp only [failed, unchanged]
      exact .stopped rfl (List.nil_append _).symm .refl refusal

/-- Commands are carried out up to the first that is refused. -/
theorem performAll_steps (tracing : Tracing) (commands : List Command) (before : Builder) :
    ∃ done, done <+: commands ∧ Steps done before (performAll tracing commands before).builder ∧
      ((performAll tracing commands before).failure = none → done = commands) := by
  cases performAll_performed tracing commands before with
  | done _ run => exact ⟨commands, List.prefix_rfl, run, fun _ => rfl⟩
  | stopped failed split run _ =>
    refine ⟨_, split ▸ List.prefix_append _ _, run, fun accepted => ?_⟩
    cases failed.symm.trans accepted

/-- The state that commands lead to, if none of them is refused. -/
def carryOut? (commands : List Command) (builder : Builder) : Option Builder :=
  commands.foldlM (fun builder command =>
    match command.run builder with
    | .ok _ after => some after
    | .error _ _ => none) builder

theorem carryOut?_append (first second : List Command) (builder : Builder) :
    carryOut? (first ++ second) builder = (carryOut? first builder).bind (carryOut? second) :=
  List.foldlM_append

/-- How commands are traced makes no difference to what they do. -/
theorem performAll_accepted_iff (tracing : Tracing) {commands : List Command}
    {before after : Builder} :
    (performAll tracing commands before).failure = none ∧
        (performAll tracing commands before).builder = after ↔
      carryOut? commands before = some after := by
  induction commands generalizing before with
  | nil => simp [performAll, carryOut?]
  | cons command rest inductionHypothesis =>
    unfold performAll perform
    cases result : command.run before with
    | ok _ middle => simpa [carryOut?, result] using inductionHypothesis
    | error failure middle => simp [carryOut?, result]

end Command

namespace Compile

open Stackline.Command

/-- The commands of a script. -/
def scriptCommands (statements : List Statement) : List Command :=
  statements.flatMap fun statement => commands statement.operation

/-- The commands of a script depend on its operations only. -/
theorem scriptCommands_congr {statements others : List Statement}
    (same : statements.map Statement.operation = others.map Statement.operation) :
    scriptCommands statements = scriptCommands others := by
  have mapped (list : List Statement) :
      scriptCommands list = (list.map Statement.operation).flatMap commands := by
    rw [scriptCommands, List.flatMap_map]
  rw [mapped, mapped, same]

/-- What came of a script, by the state and the failure it ended with: a run over all of
its commands, or one up to the first that is refused, whose line is noted. -/
inductive Replayed (statements : List Statement) (before after : Builder)
    (failure : Option Failure) : Prop where
  | done (accepted : failure = none) (run : Steps (scriptCommands statements) before after)
  | stopped {earlier statement later done command rest error}
      (failed : failure = some ((Failure.ofBuildError error).withNote
        ("at script line " ++ toString statement.line)))
      (split : statements = earlier ++ statement :: later)
      (inside : commands statement.operation = done ++ command :: rest)
      (run : Steps (scriptCommands earlier ++ done) before after)
      (refusal : Refused command after error)

theorem replay_replayed (tracing : Tracing) (statements : List Statement) (before : Builder) :
    Replayed statements before (replay tracing statements before).builder
      (replay tracing statements before).failure := by
  induction statements generalizing before with
  | nil => exact .done rfl .refl
  | cons statement rest inductionHypothesis =>
    unfold replay
    cases performAll_performed tracing (commands statement.operation) before with
    | stopped failed split run refusal =>
      simp only [failed]
      exact .stopped rfl (List.nil_append _).symm split run refusal
    | done accepted firstRun =>
      simp only [accepted]
      cases inductionHypothesis
        (performAll tracing (commands statement.operation) before).builder with
      | done accepted run => exact .done accepted (firstRun.trans run)
      | stopped failed split inside run refusal =>
        refine .stopped failed (by rw [split, List.cons_append]) inside ?_ refusal
        simpa [scriptCommands] using firstRun.trans run

/-- A script is carried out up to the first command that is refused. -/
theorem replay_steps (tracing : Tracing) (statements : List Statement) (before : Builder) :
    ∃ done, done <+: scriptCommands statements ∧
      Steps done before (replay tracing statements before).builder ∧
      ((replay tracing statements before).failure = none → done = scriptCommands statements) := by
  cases replay_replayed tracing statements before with
  | done _ run => exact ⟨_, List.prefix_rfl, run, fun _ => rfl⟩
  | stopped failed split inside run _ =>
    refine ⟨_, ?_, run, fun accepted => by cases failed.symm.trans accepted⟩
    simp [split, scriptCommands, inside]

/-- A script is accepted with its commands, whatever its lines and its trace are. -/
theorem replay_accepted_iff (tracing : Tracing) {statements : List Statement}
    {before after : Builder} :
    (replay tracing statements before).failure = none ∧
        (replay tracing statements before).builder = after ↔
      carryOut? (scriptCommands statements) before = some after := by
  induction statements generalizing before with
  | nil => simp [replay, scriptCommands, carryOut?]
  | cons statement rest inductionHypothesis =>
    have split : scriptCommands (statement :: rest) =
        commands statement.operation ++ scriptCommands rest := rfl
    rw [split, carryOut?_append]
    unfold replay
    cases failed : (performAll tracing (commands statement.operation) before).failure with
    | some error =>
      have refused : carryOut? (commands statement.operation) before = none := by
        rw [Option.eq_none_iff_forall_ne_some]
        intro middle accepted
        cases failed.symm.trans ((performAll_accepted_iff tracing).2 accepted).1
      simp [failed, refused]
    | none =>
      have first := (performAll_accepted_iff tracing).1 ⟨failed, rfl⟩
      simp only [failed, first, Option.bind_some]
      exact inductionHypothesis

/-- A script is compiled to the text of the program that its commands lead to. -/
theorem emit_eq_ok_iff (ink : Ink) (options : Options) {source text : String} :
    (emit ink options source).result = .ok text ↔
      ∃ statements after, parse source = .ok statements ∧
        carryOut? (scriptCommands statements) .empty = some after ∧
        after.program.text? options.spelling = some text := by
  unfold emit
  cases parse source with
  | error error => simp
  | ok statements =>
    constructor
    · intro compiled
      unfold emitStatements at compiled
      cases failed : (replay (options.tracing ink) statements .empty).failure with
      | some failure => simp [failed] at compiled
      | none =>
        refine ⟨statements, _, rfl, (replay_accepted_iff _).1 ⟨failed, rfl⟩, ?_⟩
        cases spelled : Program.text? options.spelling
            (replay (options.tracing ink) statements .empty).builder.program with
        | none => simp [failed, spelled] at compiled
        | some found => simpa [failed, spelled] using compiled
    · rintro ⟨_, _, ⟨⟩, accepted, spelled⟩
      obtain ⟨succeeded, rfl⟩ := (replay_accepted_iff (options.tracing ink)).2 accepted
      simp [emitStatements, succeeded, spelled]

/-- Hand statements to a builder one after the other, and go on behind those that
fail. -/
def attempt (tracing : Tracing) : List Statement → Builder → Builder
  | [], builder => builder
  | statement :: rest, builder =>
    attempt tracing rest (performAll tracing (commands statement.operation) builder).builder

/-- A script that is not stopped by failures is carried out but for some of its
commands. -/
theorem attempt_steps (tracing : Tracing) (statements : List Statement) (before : Builder) :
    ∃ done, done.Sublist (scriptCommands statements) ∧
      Steps done before (attempt tracing statements before) := by
  induction statements generalizing before with
  | nil => exact ⟨[], .slnil, .refl⟩
  | cons statement rest inductionHypothesis =>
    obtain ⟨done, isPrefix, steps, _⟩ :=
      performAll_steps tracing (commands statement.operation) before
    obtain ⟨others, sublist, othersSteps⟩ :=
      inductionHypothesis (performAll tracing (commands statement.operation) before).builder
    exact ⟨done ++ others, isPrefix.sublist.append sublist, steps.trans othersSteps⟩

end Compile

end Stackline
