import Mathlib
import Stackline.Compile.Emission
import Stackline.Proofs.Builder.Run

/-!
# Accepted scripts

Whether a script that can be read is compiled depends on its declarations only: types
must have a name that is known, and variables must be declared before they are used.
What is on the stack, and of which kind, does not matter. `Declared` says this of a list
of statements, and `Offends` which statement breaks it and how.
-/

namespace Stackline.Script

/-- The names that a type can have in a declaration. -/
def typeNames : List String :=
  ["int", "i32", "long", "i64", "float", "f32", "double", "f64"]

/-- The variable that an operation works with. -/
def Operation.used? : Operation → Option String
  | .read name => some name
  | .writeVariable name => some name
  | .load name => some name
  | .store name => some name
  | _ => none

/-- One of the statements declares the name. -/
def Declares (statements : List Statement) (name : String) : Prop :=
  ∃ statement ∈ statements, ∃ type, statement.operation = .declare type name

/-- Every type is known, and every variable is declared by an earlier statement than the
one that works with it. -/
structure Declared (statements : List Statement) : Prop where
  types : ∀ statement ∈ statements, ∀ type name,
    statement.operation = .declare type name → type ∈ typeNames
  uses : ∀ earlier statement later name, statements = earlier ++ statement :: later →
    statement.operation.used? = some name → Declares earlier name

/-- What is wrong with an operation behind the statements before it. -/
inductive Offends (earlier : List Statement) : Operation → Cause → Prop where
  | unknownType {type name} (unknown : type ∉ typeNames) :
      Offends earlier (.declare type name) (.unknownType type)
  | unknownVariable {operation name} (used : operation.used? = some name)
      (undeclared : ¬Declares earlier name) :
      Offends earlier operation (.unknownVariable name)

/-- A statement is the first of a script that offends. -/
def FirstOffence (statements : List Statement) (statement : Statement) (cause : Cause) : Prop :=
  ∃ earlier later, statements = earlier ++ statement :: later ∧ Declared earlier ∧
    Offends earlier statement.operation cause

/-- A script with an offence in it lacks a declaration. -/
theorem FirstOffence.not_declared {statements : List Statement} {statement : Statement}
    {cause : Cause} (first : FirstOffence statements statement cause) : ¬Declared statements := by
  intro declared
  obtain ⟨earlier, later, rfl, -, offence⟩ := first
  generalize equal : statement.operation = operation at offence
  cases offence with
  | unknownType unknown => exact unknown (declared.types statement (by simp) _ _ equal)
  | unknownVariable used undeclared =>
    exact undeclared (declared.uses earlier statement later _ rfl (equal ▸ used))

theorem FirstOffence.ne_noMatchingOperator {statements : List Statement} {statement : Statement}
    {cause : Cause} (first : FirstOffence statements statement cause)
    (operator left right : String) : cause ≠ .noMatchingOperator operator left right := by
  obtain ⟨earlier, later, -, -, offence⟩ := first
  generalize statement.operation = operation at offence
  cases offence <;> simp

end Stackline.Script

namespace Stackline.Command

open Stackline.Code

/-- The variable that a command sets storage aside for. -/
def declared? : Command → Option String
  | .declare _ name => some name
  | .declareNamed _ name => some name
  | _ => none

/-- A command that declares nothing leaves the variables alone. -/
theorem Step.slot?_eq {command : Command} {before after : Builder}
    (step : Step command before after) (undeclaring : command.declared? = none) (name : String) :
    after.slot? name = before.slot? name := by
  cases step with
  | declare => cases undeclaring
  | declareNamed _ => cases undeclaring
  | store _ _ carried => exact carried.slot?_eq name
  | print _ carried => exact carried.slot?_eq name
  | arithmetic _ leftCarried rightCarried =>
    exact (rightCarried.slot?_eq name).trans (leftCarried.slot?_eq name)
  | _ => rfl

/-- A variable is known behind a step if it was before, or the command declares it. -/
theorem Step.slot?_isSome {command : Command} {before after : Builder}
    (step : Step command before after) (name : String) :
    (after.slot? name).isSome ↔ (before.slot? name).isSome ∨ command.declared? = some name := by
  have bound (builder : Builder) (kind : Kind) (declaring : String) :
      (((builder.withValue (.allocate kind)).withSlot declaring
          ⟨builder.listing.next, kind⟩).slot? name).isSome ↔
        (builder.slot? name).isSome ∨ some declaring = some name := by
    by_cases same : name = declaring
    · simp [same, Builder.withSlot, Builder.slot?]
    · simp [Builder.withSlot, Builder.slot?, Builder.withValue, List.lookup_cons,
        beq_false_of_ne same, Ne.symm same]
  cases declaring : command.declared? with
  | none => simp [step.slot?_eq declaring]
  | some declaredName =>
    cases step with
    | declare => cases declaring; exact bound _ _ _
    | declareNamed _ => cases declaring; exact bound _ _ _
    | _ => cases declaring

/-- The variables behind a run are those before it and those that it declares. -/
theorem Steps.slot?_isSome {commands : List Command} {before after : Builder}
    (run : Steps commands before after) (name : String) :
    (after.slot? name).isSome ↔
      (before.slot? name).isSome ∨ ∃ command ∈ commands, command.declared? = some name := by
  induction run with
  | refl => simp
  | step first _ inductionHypothesis =>
    simp [inductionHypothesis, first.slot?_isSome name, or_assoc]

/-- A command that needs a variable only takes a step if the variable is known. -/
theorem Step.needed {command : Command} {before after : Builder} {name : String}
    (step : Step command before after) (needs : command.needed? = some name) :
    (before.slot? name).isSome := by
  cases step with
  | load found => cases needs; simp [found]
  | storeNothing found _ => cases needs; simp [found]
  | store found _ _ => cases needs; simp [found]
  | read found => cases needs; simp [found]
  | _ => cases needs

end Stackline.Command

namespace Stackline.Compile

open Stackline.Code
open Stackline.Command
open Stackline.Script
open Stackline.Terminal

/-- A type is known by one of the names for types, and by no other. -/
theorem named?_isSome {type : String} : (Kind.named? type).isSome ↔ type ∈ typeNames := by
  have joined : typeNames = Kind.all.flatMap Kind.names := rfl
  simp [Kind.named?, joined]

/-- The first command of an operation needs the variable that the operation works with. -/
theorem used?_iff {operation : Operation} {name : String} :
    operation.used? = some name ↔
      ∃ command rest, commands operation = command :: rest ∧ command.needed? = some name := by
  cases operation <;> simp [Operation.used?, commands, needed?]

/-- Behind the first command of an operation there is at most a command that prints. -/
theorem eq_print_of_mem_tail {operation : Operation} {command : Command}
    (member : command ∈ (commands operation).tail) : command = .print := by
  cases operation <;> simp_all [commands]

theorem eq_declare_of_commands {operation : Operation} {type name : String}
    {rest : List Command} (first : commands operation = .declareNamed type name :: rest) :
    operation = .declare type name := by
  cases operation <;> simp_all [commands]

theorem declared?_iff {operation : Operation} {name : String} :
    (∃ command ∈ commands operation, command.declared? = some name) ↔
      ∃ type, operation = .declare type name := by
  cases operation <;> simp [commands, declared?]

/-- Behind a whole script exactly the variables are known that it declares. -/
theorem known_iff_declares {statements : List Statement} {builder : Builder}
    (run : Steps (scriptCommands statements) .empty builder) (name : String) :
    (builder.slot? name).isSome ↔ Declares statements name := by
  rw [run.slot?_isSome name]
  constructor
  · rintro (known | ⟨command, member, declaring⟩)
    · cases known
    · obtain ⟨statement, member, inside⟩ := List.mem_flatMap.1 member
      exact ⟨statement, member, declared?_iff.1 ⟨command, inside, declaring⟩⟩
  · rintro ⟨statement, member, declaring⟩
    obtain ⟨command, inside, declaring⟩ := declared?_iff.2 declaring
    exact .inr ⟨command, List.mem_flatMap.2 ⟨statement, member, inside⟩, declaring⟩

/-- Each statement of a script that was carried out took a step behind those before it. -/
theorem exists_first_step {earlier later : List Statement} {statement : Statement}
    {command : Command} {rest : List Command} {builder : Builder}
    (run : Steps (scriptCommands (earlier ++ statement :: later)) .empty builder)
    (first : commands statement.operation = command :: rest) :
    ∃ before after, Steps (scriptCommands earlier) .empty before ∧ Step command before after := by
  simp only [scriptCommands, List.flatMap_append, List.flatMap_cons, first,
    List.cons_append] at run
  obtain ⟨before, earlierRun, laterRun⟩ := run.cut
  cases laterRun with
  | step taken _ => exact ⟨before, _, earlierRun, taken⟩

/-- A script that was carried out to its end has all its declarations. -/
theorem declared_of_steps {statements : List Statement} {builder : Builder}
    (run : Steps (scriptCommands statements) .empty builder) : Declared statements where
  types statement member type name declaring := by
    obtain ⟨earlier, later, rfl⟩ := List.append_of_mem member
    have first : commands statement.operation = [.declareNamed type name] := by
      rw [declaring]
      rfl
    obtain ⟨before, after, -, step⟩ := exists_first_step run first
    cases step with
    | declareNamed named => exact named?_isSome.1 (by simp [named])
  uses earlier statement later name split used := by
    subst split
    obtain ⟨command, rest, first, needs⟩ := used?_iff.1 used
    obtain ⟨before, after, earlierRun, step⟩ := exists_first_step run first
    exact (known_iff_declares earlierRun name).1 (step.needed needs)

/-- A refused command is the first of its statement. -/
theorem eq_nil_of_refused {operation : Operation} {done rest : List Command} {command : Command}
    {error : BuildError} {builder : Builder}
    (inside : commands operation = done ++ command :: rest)
    (refusal : Refused command builder error) : done = [] := by
  cases done with
  | nil => rfl
  | cons head others =>
    have behind : command ∈ (commands operation).tail := by simp [inside]
    cases eq_print_of_mem_tail behind
    cases refusal with
    | unknownVariable needs _ => cases needs

/-- A statement with a refused command offends. -/
theorem offends_of_refused {earlier : List Statement} {operation : Operation}
    {done rest : List Command} {command : Command} {error : BuildError} {builder : Builder}
    (inside : commands operation = done ++ command :: rest)
    (run : Steps (scriptCommands earlier ++ done) .empty builder)
    (refusal : Refused command builder error) :
    Declared earlier ∧ ∃ cause, Offends earlier operation cause ∧
      Failure.ofBuildError error = .diagnosed (.of cause) := by
  obtain rfl := eq_nil_of_refused inside refusal
  rw [List.append_nil] at run
  refine ⟨declared_of_steps run, ?_⟩
  cases refusal with
  | unknownType unnamed =>
    cases eq_declare_of_commands inside
    refine ⟨_, .unknownType (mt named?_isSome.2 ?_), rfl⟩
    simp [unnamed]
  | unknownVariable needs unbound =>
    refine ⟨_, .unknownVariable (used?_iff.2 ⟨_, _, inside, needs⟩) ?_, rfl⟩
    rw [← known_iff_declares run, unbound]
    simp

/-- What is told about an offence: its cause, and the line of its statement. -/
def offenceDiagnostic (statement : Statement) (cause : Cause) : Diagnostic :=
  (Diagnostic.of cause).withNote ("at script line " ++ toString statement.line)

/-- Replaying a script fails only with the first offence in it. -/
theorem replay_failure_cases (tracing : Tracing) (statements : List Statement) :
    (replay tracing statements .empty).failure = none ∧ Declared statements ∨
      ∃ statement cause, FirstOffence statements statement cause ∧
        (replay tracing statements .empty).failure =
          some (.diagnosed (offenceDiagnostic statement cause)) := by
  cases replay_replayed tracing statements .empty with
  | done accepted run => exact .inl ⟨accepted, declared_of_steps run⟩
  | stopped failed split inside run refusal =>
    obtain ⟨declared, cause, offence, told⟩ := offends_of_refused inside run refusal
    refine .inr ⟨_, cause, ⟨_, _, split, declared, offence⟩, ?_⟩
    rw [failed, told]
    rfl

/-- What comes of an emission whose margin is no problem: a script that cannot be read is
refused as such, one with all its declarations is compiled, and in any other the first
offence is told. -/
theorem emit_cases (ink : Ink) (options : Options) (source : String)
    (margin : options.spelling.indent < Program.lengthLimit) :
    (∃ error, parse source = .error error ∧
        (emit ink options source).result = .error (.diagnosed (.ofParseError error))) ∨
      ∃ statements, parse source = .ok statements ∧
        (Declared statements ∧ (∃ text, (emit ink options source).result = .ok text) ∨
          ∃ statement cause, FirstOffence statements statement cause ∧
            (emit ink options source).result =
              .error (.diagnosed (offenceDiagnostic statement cause))) := by
  unfold emit
  cases read : parse source with
  | error error => exact .inl ⟨error, rfl, rfl⟩
  | ok statements =>
    refine .inr ⟨statements, rfl, ?_⟩
    unfold emitStatements
    rcases replay_failure_cases (options.tracing ink) statements with
      ⟨accepted, declared⟩ | ⟨statement, cause, first, failed⟩
    · simp only [accepted, Program.text?, margin, if_true]
      exact .inl ⟨declared, _, rfl⟩
    · simp only [failed]
      exact .inr ⟨statement, cause, first, rfl⟩

end Stackline.Compile
