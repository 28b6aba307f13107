import Mathlib
import Stackline.Compile.Build
import Stackline.Proofs.Code.Definition
import Stackline.Proofs.Compile.Replay
import Stackline.Proofs.Files.FileSystem
import Stackline.Proofs.Grammar.Append
import Stackline.Proofs.Script.Lines

/-!
# Builds

What a build does to the files, source by source. Outputs take the place of whatever file their
paths lead to, other outputs and sources included. No module can be read as a script, though,
so that a build that comes to its end has compiled every source as it was at the start. A build
that fails leaves the outputs of the sources before the one that breaks it off.
-/

namespace Stackline

open Stackline.Code
open Stackline.Files
open Stackline.Grammar
open Stackline.Script
open Stackline.Script.Lexeme (isEnding scanToken?)
open Stackline.Terminal

namespace Compile

open Stackline.Files.FileSystem

/-! ### Modules are no scripts -/

/-- Two words and a character that belongs to no token are refused. -/
theorem exists_refusal_of_words {first second rest : List Char} {c : Char}
    (opens : scanToken? (first ++ ' ' :: (second ++ ' ' :: c :: rest)) =
      some (.word first, ' ' :: (second ++ ' ' :: c :: rest)))
    (goesOn : scanToken? (second ++ ' ' :: c :: rest) = some (.word second, ' ' :: c :: rest))
    (foreign : continuesToken c = false) (bare : opensLayout c = false)
    (unending : isEnding c = false) :
    ∃ refusal, phrases (first ++ ' ' :: (second ++ ' ' :: c :: rest)) = .error refusal := by
  have space {current : Option Phrase} {position : Position} {rest : List Char} :
      shape position current (' ' :: rest) = shape (position.advance [' ']) current rest :=
    @shape_spaces [' '] (List.forall_mem_singleton.2 rfl) position current rest
  rw [phrases_eq_shape, shape_keyword opens, space, shape_argument goesOn, space,
    shape_foreign foreign bare unending]
  exact ⟨_, rfl⟩

/-- No module can be read as a script: there is an equals sign or an at sign too early. -/
theorem parse_text_ne_ok (program : Program) (spelling : Spelling) (statements : List Statement) :
    parse (program.text spelling) ≠ .ok statements := by
  suffices claim : ∃ refusal, phrases (program.text spelling).toList = .error refusal by
    obtain ⟨refusal, refused⟩ := claim
    exact parse_ne_ok_of_refused refused statements
  unfold Program.text Program.targetSection
  cases spelling.triple with
  | some triple =>
    simp only [Option.elim_some, String.toList_append, List.append_assoc]
    exact @exists_refusal_of_words "target".toList "triple".toList _ '=' rfl rfl rfl rfl rfl
  | none =>
    rw [Option.elim_none, String.empty_append]
    unfold Program.poolSection
    split
    · unfold Program.functionSection
      simp only [String.empty_append, String.toList_append, List.append_assoc]
      exact @exists_refusal_of_words "define".toList "i32".toList _ '@' rfl rfl rfl rfl rfl
    · rename_i given
      obtain ⟨text, others, texts⟩ := List.exists_cons_of_ne_nil
        (mt List.isEmpty_iff.2 given)
      obtain ⟨rest, opens⟩ :=
        List.head?_eq_some_iff.1 (definition_line ⟨1, Pool.storedSize text⟩ text).1
      simp only [Pool.definitions, texts, List.mapIdx_cons, endLines, List.map_cons,
        String.join_cons, String.toList_append, opens, List.cons_append]
      exact ⟨_, shape_foreign (by decide) (by decide) (by decide) .start none _⟩

/-! ### Steps and runs -/

/-- A source is compiled: it is read, and its module is written. -/
structure Compiles (ink : Ink) (options : Options) (source script text : String)
    (before after : FileSystem) : Prop where
  read : before.read source = .ok script.toUTF8
  emitted : (emit ink options script).result = .ok text
  written : before.write (options.outputFor source) text.toUTF8 = .ok after

/-- Sources are compiled one after the other. -/
inductive Builds (ink : Ink) (options : Options) :
    List String → FileSystem → FileSystem → Prop where
  | refl {system} : Builds ink options [] system system
  | step {source script text rest before middle after}
      (first : Compiles ink options source script text before middle)
      (others : Builds ink options rest middle after) :
      Builds ink options (source :: rest) before after

/-- A failure to compile a source that was read. -/
def Trouble.emitting (source : String) (failure : Failure) : Trouble :=
  (Trouble.of failure).within ("while emitting `" ++ source ++ "`")

/-- What a source breaks a build off with: the file cannot be read or holds no text, the script
cannot be read or replayed, or the module cannot be written. The program stops if the module
cannot be spelled. -/
inductive Breaks (ink : Ink) (options : Options) (source : String) (system : FileSystem) :
    Trouble → Prop where
  | reading {error : FileError} (unread : system.read source = .error error) :
      Breaks ink options source system
        (.of (.diagnosed (.of (.unreadableFile source error.message))))
  | decoding {content : ByteArray} (read : system.read source = .ok content)
      (foreign : ∀ script : String, content ≠ script.toUTF8) :
      Breaks ink options source system
        (.of (.diagnosed (.of (.unreadableFile source FileError.notText.message))))
  | parsing {script : String} {error : ParseError} (read : system.read source = .ok script.toUTF8)
      (refused : parse script = .error error) :
      Breaks ink options source system (.emitting source (.diagnosed (.ofParseError error)))
  | replaying {script : String} {statements : List Statement} {failure : Failure}
      (read : system.read source = .ok script.toUTF8) (parsed : parse script = .ok statements)
      (refused : (replay (options.tracing ink) statements .empty).failure = some failure) :
      Breaks ink options source system (.emitting source failure)
  | spelling {script : String} {statements : List Statement}
      (read : system.read source = .ok script.toUTF8) (parsed : parse script = .ok statements)
      (replayed : (replay (options.tracing ink) statements .empty).failure = none)
      (stopped : (replay (options.tracing ink) statements .empty).builder.program.text?
        options.spelling = none) :
      Breaks ink options source system (.emitting source (.stopped .oversizedMargin))
  | writing {script text : String} {error : FileError}
      (read : system.read source = .ok script.toUTF8)
      (emitted : (emit ink options script).result = .ok text)
      (refused : system.write (options.outputFor source) text.toUTF8 = .error error) :
      Breaks ink options source system
        (.of (.diagnosed (.of (.unwritableFile (options.outputFor source) error.message))))

/-- What was read as a text are the bytes of the text. -/
theorem fromUTF8?_eq_some_iff {content : ByteArray} {text : String} :
    String.fromUTF8? content = some text ↔ content = text.toUTF8 := by
  constructor
  · intro decoded
    unfold String.fromUTF8? at decoded
    split_ifs at decoded
    cases decoded
    rfl
  · rintro rfl
    exact dif_pos text.isValidUTF8

/-- A script that fails to be compiled breaks the build off. -/
theorem breaks_of_emit {ink : Ink} {options : Options} {source script : String}
    {system : FileSystem} {failure : Failure} (read : system.read source = .ok script.toUTF8)
    (failed : (emit ink options script).result = .error failure) :
    Breaks ink options source system (.emitting source failure) := by
  unfold emit at failed
  cases parsed : parse script with
  | error error =>
    simp only [parsed] at failed
    cases failed
    exact .parsing read parsed
  | ok statements =>
    simp only [parsed, emitStatements] at failed
    cases replayed : (replay (options.tracing ink) statements .empty).failure with
    | some reason =>
      simp only [replayed] at failed
      cases failed
      exact .replaying read parsed replayed
    | none =>
      simp only [replayed] at failed
      split at failed
      · rename_i stopped
        cases failed
        exact .spelling read parsed replayed stopped
      · cases failed

/-- Compiling a file changes no files. The file breaks the build off, or it holds a script that
is compiled. -/
theorem run_emitFile (ink : Ink) (options : Options) (source : String) (system : FileSystem) :
    ∃ emission, (emitFile ink options source).run system = (emission, system) ∧
      ((∃ trouble, emission.result = .error trouble ∧ Breaks ink options source system trouble) ∨
        ∃ script text, emission.result = .ok text ∧ system.read source = .ok script.toUTF8 ∧
          (emit ink options script).result = .ok text) := by
  unfold emitFile
  rw [Dialogue.run_bind]
  simp only [Dialogue.readText, Dialogue.run]
  cases read : system.read source with
  | error error => exact ⟨_, rfl, .inl ⟨_, rfl, .reading read⟩⟩
  | ok content =>
    dsimp only
    cases decoded : String.fromUTF8? content with
    | none =>
      refine ⟨_, rfl, .inl ⟨_, rfl, .decoding read ?_⟩⟩
      intro script same
      cases decoded.symm.trans (fromUTF8?_eq_some_iff.2 same)
    | some script =>
      obtain rfl := fromUTF8?_eq_some_iff.1 decoded
      refine ⟨_, rfl, ?_⟩
      simp only [FileEmission.ofEmission]
      cases result : (emit ink options script).result with
      | error failure => exact .inl ⟨_, rfl, breaks_of_emit read result⟩
      | ok text => exact .inr ⟨script, text, rfl, rfl, result⟩

/-- The first source breaks the build off and leaves the files as they are, or it is compiled and
the build goes on with the others. -/
theorem run_buildEach_cons (ink : Ink) (options : Options) (source : String) (rest : List String)
    (system : FileSystem) :
    (∃ stderr trouble, Breaks ink options source system trouble ∧
      (buildEach ink options (source :: rest)).run system = (⟨[], stderr, some trouble⟩, system)) ∨
    ∃ stderr script text middle, Compiles ink options source script text system middle ∧
      (buildEach ink options (source :: rest)).run system =
        (⟨options.outputFor source :: ((buildEach ink options rest).run middle).1.written,
          stderr ++ ((buildEach ink options rest).run middle).1.stderr,
          ((buildEach ink options rest).run middle).1.trouble⟩,
          ((buildEach ink options rest).run middle).2) := by
  obtain ⟨emission, run, outcome⟩ := run_emitFile ink options source system
  rw [buildEach, Dialogue.run_bind, run]
  rcases outcome with ⟨trouble, failed, breaks⟩ | ⟨script, text, succeeded, read, emitted⟩
  · refine .inl ⟨emission.stderr, trouble, breaks, ?_⟩
    simp only [failed]
    rfl
  · simp only [succeeded, Dialogue.run_bind, Dialogue.writeText, Dialogue.run]
    cases written : system.write (options.outputFor source) text.toUTF8 with
    | error error =>
      exact .inl ⟨emission.stderr, _, .writing read emitted written, rfl⟩
    | ok middle =>
      refine .inr ⟨emission.stderr, script, text, middle, ⟨read, emitted, written⟩, ?_⟩
      simp only [Dialogue.run_bind]
      rfl

/-- A build compiles its sources up to the first that breaks it off. -/
theorem run_buildEach (ink : Ink) (options : Options) (sources : List String)
    (system : FileSystem) :
    ∃ done, done <+: sources ∧
      Builds ink options done system ((buildEach ink options sources).run system).2 ∧
      ((buildEach ink options sources).run system).1.written = done.map options.outputFor ∧
      (((buildEach ink options sources).run system).1.trouble = none → done = sources) ∧
      ∀ trouble, ((buildEach ink options sources).run system).1.trouble = some trouble →
        ∃ source, sources[done.length]? = some source ∧
          Breaks ink options source ((buildEach ink options sources).run system).2 trouble := by
  induction sources generalizing system with
  | nil => exact ⟨[], List.prefix_rfl, .refl, rfl, fun _ => rfl, nofun⟩
  | cons source rest inductionHypothesis =>
    rcases run_buildEach_cons ink options source rest system with
      ⟨stderr, trouble, breaks, broken⟩ | ⟨stderr, script, text, middle, compiles, continued⟩
    · rw [broken]
      refine ⟨[], List.nil_prefix, .refl, rfl, nofun, ?_⟩
      rintro _ ⟨⟩
      exact ⟨source, rfl, breaks⟩
    · obtain ⟨done, isPrefix, builds, paths, complete, breaks⟩ := inductionHypothesis middle
      rw [continued]
      refine ⟨source :: done, List.cons_prefix_cons.2 ⟨rfl, isPrefix⟩, .step compiles builds,
        ?_, ?_, breaks⟩
      · rw [paths, List.map_cons]
      · intro succeeded
        rw [complete succeeded]

/-! ### What becomes of the files -/

section Files

variable {ink : Ink} {options : Options} {sources : List String} {before after : FileSystem}

/-- A script that compiles is no module. -/
theorem ne_of_emitted {script text other otherText : String}
    (emitted : (emit ink options script).result = .ok text)
    (emittedToo : (emit ink options other).result = .ok otherText) : other ≠ text := by
  rintro rfl
  obtain ⟨_, builder, _, _, _, spelled⟩ := exists_run_of_emit emitted
  obtain ⟨statements, _, parsed, _⟩ := exists_run_of_emit emittedToo
  rw [spelled] at parsed
  exact parse_text_ne_ok _ _ _ parsed

theorem Compiles.sets {source script text : String}
    (compiles : Compiles ink options source script text before after) :
    Sets (options.outputFor source) text.toUTF8 before after :=
  sets_of_write compiles.written

theorem Builds.cut {first second : List String}
    (run : Builds ink options (first ++ second) before after) :
    ∃ middle, Builds ink options first before middle ∧ Builds ink options second middle after := by
  induction first generalizing before with
  | nil => exact ⟨before, .refl, run⟩
  | cons source rest inductionHypothesis =>
    cases run with
    | step compiles others =>
      obtain ⟨middle, left, right⟩ := inductionHypothesis others
      exact ⟨middle, .step compiles left, right⟩

theorem Builds.sameDirectories (run : Builds ink options sources before after) :
    before.SameDirectories after := by
  induction run with
  | refl => exact .refl _
  | step first _ inductionHypothesis => exact first.sets.directories.trans inductionHypothesis

/-- A place to which no output leads is left alone. -/
theorem Builds.entry?_eq (run : Builds ink options sources before after) {location : Location}
    (missed : ∀ source ∈ sources, before.target (options.outputFor source) ≠ .ok location) :
    after.entry? location = before.entry? location := by
  induction run with
  | refl => rfl
  | step first _ inductionHypothesis =>
    obtain ⟨missedFirst, missedOthers⟩ := List.forall_mem_cons.1 missed
    obtain ⟨⟨place, leads, _, others⟩, directories⟩ := first.sets
    have elsewhere : location ≠ place := fun here => missedFirst (here ▸ leads)
    rw [inductionHypothesis ?_, others location elsewhere]
    intro source member
    rw [ne_eq, directories.target_eq_ok_iff]
    exact missedOthers source member

/-- A place to which an output leads holds a module. -/
theorem Builds.exists_module (run : Builds ink options sources before after) {source : String}
    (member : source ∈ sources) {location : Location}
    (leads : before.target (options.outputFor source) = .ok location) :
    ∃ script text, (emit ink options script).result = .ok text ∧
      after.entry? location = some (.file text.toUTF8) := by
  induction run generalizing source with
  | refl => cases member
  | @step _ script text rest before middle _ first others inductionHypothesis =>
    obtain ⟨⟨place, leadsFirst, held, _⟩, directories⟩ := first.sets
    by_cases again : ∃ other ∈ rest, middle.target (options.outputFor other) = .ok location
    · obtain ⟨other, memberToo, leadsToo⟩ := again
      exact inductionHypothesis memberToo leadsToo
    · -- The source is the first one, and the place is left alone behind it.
      have missed : ∀ other ∈ rest, middle.target (options.outputFor other) ≠ .ok location :=
        fun other memberToo leadsToo => again ⟨other, memberToo, leadsToo⟩
      rcases List.mem_cons.1 member with rfl | inRest
      · cases leadsFirst.symm.trans leads
        exact ⟨script, text, first.emitted, (others.entry?_eq missed).trans held⟩
      · exact absurd (directories.target_eq_ok_iff.2 leads) (missed source inRest)

/-- A file to which an output leads does not hold a script that compiles. -/
theorem Builds.read_ne (run : Builds ink options sources before after) {output : String}
    (member : output ∈ sources) {location : Location}
    (leadsOutput : before.target (options.outputFor output) = .ok location)
    {source script text : String} (leads : before.source source = .ok location)
    (emitted : (emit ink options script).result = .ok text) :
    after.read source ≠ .ok script.toUTF8 := by
  intro read
  obtain ⟨place, leadsToo, held⟩ := read_eq_ok_iff.1 read
  rw [run.sameDirectories.source_eq_ok_iff] at leadsToo
  cases leads.symm.trans leadsToo
  obtain ⟨_, module, emittedToo, heldToo⟩ := run.exists_module member leadsOutput
  have same : script.toUTF8 = module.toUTF8 :=
    Entry.file.inj (Option.some.inj (held.symm.trans heldToo))
  exact ne_of_emitted emittedToo emitted (String.toByteArray_inj.1 same)

/-- What is compiled behind other sources was there before them. -/
theorem Builds.read_before (run : Builds ink options sources before after)
    {source script text : String} (read : after.read source = .ok script.toUTF8)
    (emitted : (emit ink options script).result = .ok text) :
    before.read source = .ok script.toUTF8 := by
  obtain ⟨location, leads, held⟩ := read_eq_ok_iff.1 read
  rw [run.sameDirectories.source_eq_ok_iff] at leads
  have missed : ∀ other ∈ sources, before.target (options.outputFor other) ≠ .ok location :=
    fun other member leadsOutput => run.read_ne member leadsOutput leads emitted read
  rw [run.entry?_eq missed] at held
  exact read_eq_ok_iff.2 ⟨location, leads, held⟩

/-- A script that compiles is kept exactly if no output leads to it. -/
theorem Builds.read_eq_iff (run : Builds ink options sources before after)
    {source script text : String} (read : before.read source = .ok script.toUTF8)
    (emitted : (emit ink options script).result = .ok text) :
    after.read source = before.read source ↔
      ∀ other ∈ sources, before.target (options.outputFor other) ≠ before.source source := by
  obtain ⟨location, leads, held⟩ := read_eq_ok_iff.1 read
  rw [leads, read]
  constructor
  · intro kept other member leadsOutput
    exact run.read_ne member leadsOutput leads emitted kept
  · intro missed
    rw [← run.entry?_eq missed] at held
    exact read_eq_ok_iff.2 ⟨location, run.sameDirectories.source_eq_ok_iff.2 leads, held⟩

/-- A module stays unless a later output leads to the same file. -/
theorem Builds.read_output {middle : FileSystem} {source script text : String}
    (compiles : Compiles ink options source script text before middle)
    (run : Builds ink options sources middle after)
    (missed : ∀ other ∈ sources, ∀ location,
      before.target (options.outputFor source) = .ok location →
        before.target (options.outputFor other) ≠ .ok location) :
    after.read (options.outputFor source) = .ok text.toUTF8 := by
  obtain ⟨⟨location, leads, held, _⟩, directories⟩ := compiles.sets
  have untouched : ∀ other ∈ sources, middle.target (options.outputFor other) ≠ .ok location := by
    intro other member
    rw [ne_eq, directories.target_eq_ok_iff]
    exact missed other member location leads
  rw [← run.entry?_eq untouched] at held
  have same := directories.trans run.sameDirectories
  exact read_eq_ok_iff.2 ⟨location, same.source_eq_ok_iff.2 (target_eq_ok_iff.1 leads).1, held⟩

end Files

/-- A build that succeeds has one output for each source, and has compiled each source as it was
at the start. The output holds the module at the end, unless the output of a later source leads
to the same file. The source is as it was exactly if no output leads to it. -/
theorem build_compiles_initial_sources (ink : Ink) (options : Options) (system : FileSystem)
    (succeeded : ((build ink options).run system).1.trouble = none) :
    ((build ink options).run system).1.written = options.sources.map options.outputFor ∧
      ∀ earlier source later, options.sources = earlier ++ source :: later →
        ∃ script text, system.read source = .ok script.toUTF8 ∧
          (emit ink options script).result = .ok text ∧
          ((∀ other ∈ later, system.target (options.outputFor other) ≠
              system.target (options.outputFor source)) →
            ((build ink options).run system).2.read (options.outputFor source) =
              .ok text.toUTF8) ∧
          (((build ink options).run system).2.read source = system.read source ↔
            ∀ other ∈ options.sources,
              system.target (options.outputFor other) ≠ system.source source) := by
  unfold build at succeeded ⊢
  cases problem : options.problem? with
  | some _ => simp [problem, Dialogue.run] at succeeded
  | none =>
    simp only [problem] at succeeded ⊢
    obtain ⟨done, _, run, written, complete, _⟩ :=
      run_buildEach ink options options.sources system
    obtain rfl := complete succeeded
    generalize ((buildEach ink options options.sources).run system).2 = after at run ⊢
    refine ⟨written, fun earlier source later split => ?_⟩
    rw [split] at run
    obtain ⟨middle, first, others⟩ := run.cut
    cases others with
    | @step _ script text _ _ _ _ compiles others =>
      have read := first.read_before compiles.read compiles.emitted
      refine ⟨script, text, read, compiles.emitted, fun missed => ?_, ?_⟩
      · refine others.read_output compiles fun other member location leads leadsToo => ?_
        rw [first.sameDirectories.target_eq_ok_iff] at leads leadsToo
        exact missed other member (leadsToo.trans leads.symm)
      · rw [split]
        exact run.read_eq_iff read compiles.emitted

/-- Two scripts whose outputs have one name. -/
def twins : FileSystem :=
  (fresh.setEntry (workplace ++ ["a.x"]) (.file "".toUTF8)).setEntry (workplace ++ ["a.y"])
    (.file "print".toUTF8)

/-- A script that is named like its output. -/
def disguised : FileSystem :=
  fresh.setEntry (workplace ++ ["a.ll"]) (.file "".toUTF8)

theorem build_compiles_initial_sources_twins :
    ∃ text, (emit .plain { sources := ["a.x", "a.y"] } "print").result = .ok text ∧
      ((build .plain { sources := ["a.x", "a.y"] }).run twins).2.read "a.ll" = .ok text.toUTF8 ∧
      ((build .plain { sources := ["a.x", "a.y"] }).run twins).2.read "a.x" = .ok "".toUTF8 := by
  obtain ⟨_, each⟩ :=
    build_compiles_initial_sources .plain { sources := ["a.x", "a.y"] } twins (by decide +kernel)
  obtain ⟨script, text, read, emitted, output, _⟩ := each ["a.x"] "a.y" [] rfl
  obtain ⟨_, _, _, _, _, kept⟩ := each [] "a.x" ["a.y"] rfl
  have found : twins.read "a.y" = .ok "print".toUTF8 := by decide +kernel
  have foundToo : twins.read "a.x" = .ok "".toUTF8 := by decide +kernel
  obtain rfl : script = "print" :=
    String.toByteArray_inj.1 (Except.ok.inj (read.symm.trans found))
  exact ⟨text, emitted, output (by simp), (kept.2 (by decide +kernel)).trans foundToo⟩

/-- The module of a source is lost to the next one, and a source to its own module. -/
theorem build_can_lose_files :
    (∃ text, ((build .plain { sources := ["a.x", "a.y"] }).run twins).1.trouble = none ∧
      ((build .plain { sources := ["a.x", "a.y"] }).run twins).1.written = ["a.ll", "a.ll"] ∧
      twins.read "a.x" = .ok "".toUTF8 ∧
      (emit .plain { sources := ["a.x", "a.y"] } "").result = .ok text ∧
      ((build .plain { sources := ["a.x", "a.y"] }).run twins).2.read "a.ll" ≠
        .ok text.toUTF8) ∧
    ((build .plain { sources := ["a.ll"] }).run disguised).1.trouble = none ∧
      ((build .plain { sources := ["a.ll"] }).run disguised).1.written = ["a.ll"] ∧
      disguised.read "a.ll" = .ok "".toUTF8 ∧
      ((build .plain { sources := ["a.ll"] }).run disguised).2.read "a.ll" ≠ .ok "".toUTF8 := by
  refine ⟨⟨"define i32 @main() \x7b\n  ret i32 0\n\x7d\n", ?_⟩, ?_⟩
  · decide +kernel
  · decide +kernel

/-- A build that fails leaves the outputs of the sources before the one that breaks it off, each as
it was compiled in its turn, and no other change. Options that cannot be used break a build off
before its first source. -/
theorem failed_build_keeps_earlier_outputs (ink : Ink) (options : Options) (system : FileSystem)
    (trouble : Trouble) (failed : ((build ink options).run system).1.trouble = some trouble) :
    ∃ k, Builds ink options (options.sources.take k) system ((build ink options).run system).2 ∧
      (∀ location, (∀ source ∈ options.sources.take k,
          system.target (options.outputFor source) ≠ .ok location) →
        entry? ((build ink options).run system).2 location = system.entry? location) ∧
      (∀ problem, options.problem? = some problem →
        k = 0 ∧ trouble = .of (.other problem.message)) ∧
      (options.problem? = none → ∃ source, options.sources[k]? = some source ∧
        Breaks ink options source ((build ink options).run system).2 trouble) := by
  unfold build at failed ⊢
  cases problem : options.problem? with
  | some found =>
    simp only [problem, Dialogue.run, Option.some.injEq] at failed ⊢
    refine ⟨0, .refl, fun _ _ => trivial, ?_, ?_⟩
    · rintro _ rfl
      exact ⟨rfl, failed.symm⟩
    · rintro ⟨⟩
  | none =>
    simp only [problem] at failed ⊢
    obtain ⟨done, isPrefix, run, _, _, breaks⟩ :=
      run_buildEach ink options options.sources system
    have taken := List.prefix_iff_eq_take.1 isPrefix
    refine ⟨done.length, taken ▸ run, ?_, ?_, fun _ => breaks trouble failed⟩
    · rw [← taken]
      exact fun _ missed => run.entry?_eq missed
    · rintro _ ⟨⟩

/-- The second source is missing, and the module of the first one is there. -/
theorem failed_build_keeps_earlier_outputs_missing :
    ((build .plain { sources := ["a.x", "b.x"] }).run twins).2.read "a.ll" =
        .ok "define i32 @main() \x7b\n  ret i32 0\n\x7d\n".toUTF8 ∧
      ∃ k, Builds .plain { sources := ["a.x", "b.x"] } (["a.x", "b.x"].take k) twins
          ((build .plain { sources := ["a.x", "b.x"] }).run twins).2 ∧
        ∃ source, ["a.x", "b.x"][k]? = some source ∧
          Breaks .plain { sources := ["a.x", "b.x"] } source
            ((build .plain { sources := ["a.x", "b.x"] }).run twins).2
            (.of (.diagnosed (.of (.unreadableFile "b.x" FileError.notFound.message)))) := by
  have failed : ((build .plain { sources := ["a.x", "b.x"] }).run twins).1.trouble =
      some (.of (.diagnosed (.of (.unreadableFile "b.x" FileError.notFound.message)))) := by
    decide +kernel
  obtain ⟨k, run, _, _, breaks⟩ := failed_build_keeps_earlier_outputs _ _ _ _ failed
  exact ⟨by decide +kernel, k, run, breaks rfl⟩

/-- An output that stands already, and is read only, keeps its content. -/
example :
    let system := { twins.setEntry (workplace ++ ["a.ll"]) (.file "old".toUTF8) with
      readOnly := [workplace ++ ["a.ll"]] }
    let (report, after) := (build .plain { sources := ["a.x", "a.y"] }).run system
    report.trouble = some (.of (.diagnosed
        (.of (.unwritableFile "a.ll" FileError.permissionDenied.message)))) ∧
      report.written = [] ∧ after.read "a.ll" = .ok "old".toUTF8 := by
  decide +kernel

end Compile

end Stackline
