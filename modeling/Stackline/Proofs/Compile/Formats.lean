import Mathlib
import Stackline.Proofs.Code.Directive
import Stackline.Proofs.Compile.Spelling

/-!
# Calls and their formats

Every call that passes something agrees with its format, which is the pattern of a kind. A call
that passes nothing has a text of the user for its format. Such calls are those of the `write`
statements, one for each and in their order (`Steps.writes`), and nothing stands between the
text of a statement and its reading as a format.
-/

namespace Stackline

open Stackline.Code
open Stackline.Script
open Stackline.Terminal
open Stackline.Assembly (Format)

/-! ### What calls refer to -/

/-- The stored bytes that a module defines under a number. -/
def Code.Layout.stored? (layout : Layout) (number : Nat) : Option (List UInt8) :=
  layout.definitions.findSome? fun definition =>
    (readDefinition? definition.toList).bind fun stored =>
      if stored.number = number then some stored.bytes else none

/-- A format that stands for a text refers to its bytes. -/
theorem Assembly.Format.Names.stored?_eq {program : Program} {format : Format} {text : String}
    (names : format.Names program.pool.texts text) (pointers : Pointers) :
    (program.layout pointers).stored? format.text = some (utf8 text ++ [0]) := by
  have defined : (program.layout pointers).definitions[format.text - 1]? =
      some (Pool.definition ⟨format.text, Pool.storedSize text⟩ text) :=
    @Pool.definitions_getElem? program.pool text ⟨format.text, Pool.storedSize text⟩
      ⟨names.positive, names.found, rfl⟩
  obtain ⟨inside, defined⟩ := List.getElem?_eq_some_iff.1 defined
  rw [Layout.stored?, List.findSome?_eq_some_iff]
  refine ⟨_, _, _, (List.take_append_drop (format.text - 1) _).symm.trans
    (congrArg _ (List.drop_eq_getElem_cons inside)), ?_, ?_⟩
  · simp [defined, readDefinition?_definition]
  · -- The definitions before have smaller numbers.
    intro definition member
    obtain ⟨index, small, rfl⟩ := List.mem_take_iff_getElem.1 member
    have other : index + 1 ≠ format.text := by omega
    simp [Program.layout, Pool.definitions, readDefinition?_definition, other]

/-- An argument of a kind, passed as the function wants it: the address of storage to be read
into, or a value. -/
def Assembly.Argument.Passes (pointers : Pointers) (earlier : List Assembly.Line)
    (external : External) (kind : Kind) : Assembly.Argument → Prop
  | .storage pointer => external = .scanf ∧ pointer.PointsTo pointers earlier kind
  | .value shown operand => external = .printf ∧ shown = kind ∧ operand.HasKind earlier kind

/-- The function and the format of a call that passes nothing. -/
def Assembly.Instruction.bareCall? : Assembly.Instruction → Option (External × Format)
  | .call external format none => some (external, format)
  | _ => none

/-! ### Calls that pass nothing -/

namespace Builder

variable {pointers : Pointers} {written : List String} {builder : Builder}

/-- The functions and the formats of the calls that pass nothing. -/
def bareCalls (pointers : Pointers) (builder : Builder) : List (External × Format) :=
  (builder.body pointers).filterMap (·.instruction.bareCall?)

/-- The calls that pass nothing write these texts, in this order. -/
def Writes (pointers : Pointers) (written : List String) (builder : Builder) : Prop :=
  List.Forall₂ (fun call text => call.1 = External.printf ∧ call.2.Names builder.pool.texts text)
    (builder.bareCalls pointers) written

theorem writes_empty : empty.Writes pointers [] :=
  .nil

theorem Writes.withValue {instruction : Instruction} (writes : builder.Writes pointers written)
    (other : (Assembly.Instruction.of pointers instruction).bareCall? = none) :
    (builder.withValue instruction).Writes pointers written := by
  have same : (builder.withValue instruction).bareCalls pointers = builder.bareCalls pointers := by
    simp [bareCalls, body_withValue, Assembly.Line.of, other]
  rw [Writes, same]
  exact writes

theorem Writes.withEffect {instruction : Instruction} (writes : builder.Writes pointers written)
    (other : (Assembly.Instruction.of pointers instruction).bareCall? = none) :
    (builder.withEffect instruction).Writes pointers written := by
  have same : (builder.withEffect instruction).bareCalls pointers =
      builder.bareCalls pointers := by
    simp [bareCalls, body_withEffect, Assembly.Line.of, other]
  rw [Writes, same]
  exact writes

theorem Writes.withText (writes : builder.Writes pointers written) (text : String) :
    (builder.withText text).Writes pointers written :=
  writes.imp fun _ _ ⟨output, names⟩ => ⟨output, names.mono (builder.pool.intern_grows text)⟩

/-- A call that passes nothing writes its format. -/
theorem Writes.withBareCall (writes : builder.Writes pointers written)
    (indexed : builder.pool.Indexed) (text : String) :
    (builder.withCall .printf text none).Writes pointers (written ++ [text]) := by
  have names := @Assembly.Format.names_of pointers _ _ _ (Pool.names_intern indexed text)
  have more : (builder.withCall .printf text none).bareCalls pointers =
      builder.bareCalls pointers ++ [(.printf, .of pointers (builder.pool.intern text).1)] := by
    rw [bareCalls, withCall, body_withValue, List.filterMap_append]
    rfl
  rw [Writes, more]
  exact List.rel_append (writes.withText text) (.cons ⟨rfl, names⟩ .nil)

theorem Carries.writes {before after : Builder} {operand value : Operand} {target : Kind}
    (carried : Carries before operand target value after)
    (writes : before.Writes pointers written) : after.Writes pointers written := by
  cases carried with
  | kept => exact writes
  | converted _ => exact writes.withValue rfl

end Builder

namespace Command

open Builder

variable {pointers : Pointers} {written : List String}

/-- The text that a command writes. -/
def written? : Command → Option String
  | .write text => some text
  | _ => none

/-- Each step adds what its command writes. -/
theorem Step.writes {command : Command} {before after : Builder}
    (step : Step command before after) (indexed : before.pool.Indexed)
    (writes : before.Writes pointers written) :
    after.Writes pointers (written ++ command.written?.toList) := by
  have silent {state : Builder} (writes : state.Writes pointers written) :
      state.Writes pointers (written ++ []) := by
    rwa [List.append_nil]
  cases step with
  | declare => exact silent (writes.withValue rfl)
  | declareNamed _ => exact silent (writes.withValue rfl)
  | load _ => exact silent (writes.withValue rfl)
  | storeNothing _ _ => exact silent writes
  | store _ _ carried => exact silent ((carried.writes writes).withEffect rfl)
  | read _ => exact silent ((writes.withText _).withValue rfl)
  | write => exact writes.withBareCall indexed _
  | printNothing _ => exact silent writes
  | print _ carried => exact silent (((carried.writes writes).withText _).withValue rfl)
  | pushInteger => exact silent writes
  | pushReal => exact silent writes
  | arithmeticNothing _ => exact silent writes
  | arithmetic _ leftCarried rightCarried =>
    exact silent ((rightCarried.writes (leftCarried.writes writes)).withValue rfl)

/-- A run adds what its commands write. -/
theorem Steps.writes {commands : List Command} {before after : Builder}
    (run : Steps commands before after) (indexed : before.pool.Indexed)
    (writes : before.Writes pointers written) :
    after.Writes pointers (written ++ commands.filterMap written?) := by
  induction run generalizing written with
  | refl => simpa using writes
  | @step command rest _ _ _ first _ inductionHypothesis =>
    have split : (command :: rest).filterMap written? =
        command.written?.toList ++ rest.filterMap written? := by
      cases shown : command.written? <;> simp [shown]
    rw [split, ← List.append_assoc]
    exact inductionHypothesis (first.indexed indexed) (first.writes indexed writes)

end Command

/-- The text that an operation writes. -/
def Script.Operation.written? : Operation → Option String
  | .writeText text => some text
  | _ => none

namespace Compile

open Stackline.Command

/-- The commands of a script write what its statements do. -/
theorem written_scriptCommands (statements : List Statement) :
    (scriptCommands statements).filterMap Command.written? =
      statements.filterMap (·.operation.written?) := by
  rw [scriptCommands, List.filterMap_flatMap]
  induction statements with
  | nil => rfl
  | cons statement rest inductionHypothesis =>
    rw [List.flatMap_cons, inductionHypothesis]
    cases shown : statement.operation <;>
      simp [shown, commands, Command.written?, Operation.written?]

/-- A well-typed call that passes something agrees with its format. -/
theorem agrees_of_wellTyped {program : Program} {pointers : Pointers}
    {earlier : List Assembly.Line} {external : External} {format : Format}
    {argument : Assembly.Argument}
    (wellTyped : Assembly.Instruction.WellTyped pointers program.pool.texts earlier
      (.call external format (some argument))) :
    ∃ stored kind, (program.layout pointers).stored? format.text = some stored ∧
      argument.Passes pointers earlier external kind ∧ Agrees external stored (some kind) := by
  cases wellTyped with
  | @read kind _ _ address names =>
    exact ⟨_, kind, names.stored?_eq pointers, ⟨rfl, address⟩, agrees_scanf kind⟩
  | @print kind _ _ operand promoted names =>
    exact ⟨_, kind, names.stored?_eq pointers, ⟨rfl, rfl, operand⟩, agrees_printf promoted⟩

/-- Every call that passes something agrees with its format. The calls that pass nothing are
those of the statements that write a text, with the text as it is for their format. Such a call
agrees with its format exactly if the text has no zero and no percent signs but doubled ones.
It then writes one of each pair, so that it writes the text exactly if there are none. -/
theorem calls_agree_with_formats (ink : Ink) (options : Options) {source text : String}
    (compiled : (emit ink options source).result = .ok text) :
    ∃ statements layout body, parse source = .ok statements ∧
      Layout.read? options.spelling text = some layout ∧
      Assembly.readBody? layout.body = some body ∧
      (∀ earlier line later external format argument, body = earlier ++ line :: later →
        line.instruction = .call external format (some argument) →
        ∃ stored kind, layout.stored? format.text = some stored ∧
          argument.Passes options.spelling.pointers earlier external kind ∧
          Agrees external stored (some kind)) ∧
      List.Forall₂
        (fun call written => call.1 = External.printf ∧
          layout.stored? call.2.text = some (utf8 written ++ [0]))
        (body.filterMap (·.instruction.bareCall?)) (statements.filterMap (·.operation.written?)) ∧
      ∀ written ∈ statements.filterMap (·.operation.written?),
        (Agrees .printf (utf8 written ++ [0]) none ↔
          '\x00' ∉ written.toList ∧ ∃ shown, written = doubled shown) ∧
        (∀ shown, '\x00' ∉ written.toList → written = doubled shown →
          printed? (visible (utf8 written ++ [0])) = some (utf8 shown)) ∧
        (printed? (visible (utf8 written ++ [0])) = some (utf8 written) ↔
          '\x00' ∉ written.toList ∧ '%' ∉ written.toList) := by
  obtain ⟨statements, builder, parsed, reached, run, rfl⟩ := exists_run_of_emit compiled
  have wellTyped := reached.wellTyped options.spelling.pointers
  refine ⟨statements, builder.program.layout options.spelling.pointers,
    builder.body options.spelling.pointers, parsed, reached.read?_text options.spelling,
    wellTyped.readBody?_eq, ?_, ?_, ?_⟩
  · intro earlier line later external format argument split call
    have fits := (wellTyped.body earlier line later split).instruction
    rw [call] at fits
    exact agrees_of_wellTyped fits
  · have writes := run.writes Pool.indexed_empty (@Builder.writes_empty options.spelling.pointers)
    rw [List.nil_append, written_scriptCommands] at writes
    exact writes.imp fun _ _ ⟨output, names⟩ => ⟨output, names.stored?_eq _⟩
  · intro written _
    refine ⟨agrees_utf8_iff, ?_, printed?_visible_eq_iff⟩
    rintro shown nonzero rfl
    rw [visible_utf8, beforeZero_eq_iff.2 nonzero]
    exact printed?_doubled shown

/-- Values of the narrow floating kind, which are printed at the wide one, and a text with two
percent signs side by side. -/
theorem calls_agree_with_formats_doubled :
    ∃ text layout body,
      (emit .plain {} "declare float x\nread x\nwrite x\nwrite \"100%%\"").result = .ok text ∧
      Layout.read? {} text = some layout ∧ Assembly.readBody? layout.body = some body ∧
      body.filterMap (·.instruction.bareCall?) = [(.printf, ⟨some 6, 3⟩)] ∧
      layout.stored? 3 = some (utf8 "100%%" ++ [0]) ∧
      Agrees .printf (utf8 "100%%" ++ [0]) none ∧
      printed? (visible (utf8 "100%%" ++ [0])) = some (utf8 "100%") := by
  have parsed : parse "declare float x\nread x\nwrite x\nwrite \"100%%\"" =
      .ok [⟨1, .declare "float" "x"⟩, ⟨2, .read "x"⟩, ⟨3, .writeVariable "x"⟩,
        ⟨4, .writeText "100%%"⟩] := by decide +kernel
  have ready : built "declare float x\nread x\nwrite x\nwrite \"100%%\"" =
      .ok (replay ⟨{}, .typed, .plain⟩ [⟨1, .declare "float" "x"⟩, ⟨2, .read "x"⟩,
        ⟨3, .writeVariable "x"⟩, ⟨4, .writeText "100%%"⟩] .empty).builder := by
    simp only [built, parsed]
    rfl
  obtain ⟨text, emitted, _, spelled⟩ := emit_layout .plain {} (by decide) ready
  obtain ⟨statements, layout, body, same, read, lines, _, _, texts⟩ :=
    calls_agree_with_formats .plain {} emitted
  cases parsed.symm.trans same
  cases read.symm.trans spelled
  obtain ⟨agrees, shown, _⟩ := texts "100%%" (by decide)
  have nonzero : '\x00' ∉ "100%%".toList := by decide
  cases lines.symm.trans ((reached_of_built ready).wellTyped .typed).readBody?_eq
  exact ⟨text, _, _, emitted, spelled, lines, by decide +kernel, by decide +kernel,
    agrees.2 ⟨nonzero, "100%", by decide +kernel⟩, shown "100%" nonzero (by decide +kernel)⟩

/-- A text with a percent sign is taken for one that wants an argument, and a text with a zero is
cut. -/
theorem written_text_can_clash :
    ∃ text layout body,
      (emit .plain {} "write \"100%\"\nwrite \"a\x00b\"").result = .ok text ∧
      Layout.read? {} text = some layout ∧ Assembly.readBody? layout.body = some body ∧
      body.map (·.instruction) =
        [.call .printf ⟨some 5, 1⟩ none, .call .printf ⟨some 4, 2⟩ none] ∧
      layout.stored? 1 = some (utf8 "100%" ++ [0]) ∧
      layout.stored? 2 = some (utf8 "a\x00b" ++ [0]) ∧
      conversions .printf (visible (utf8 "100%" ++ [0])) = [none] ∧
      printed? (visible (utf8 "a\x00b" ++ [0])) = some (utf8 "a") ∧
      ¬Agrees .printf (utf8 "100%" ++ [0]) none ∧
      ¬Agrees .printf (utf8 "a\x00b" ++ [0]) none := by
  have parsed : parse "write \"100%\"\nwrite \"a\x00b\"" =
      .ok [⟨1, .writeText "100%"⟩, ⟨2, .writeText "a\x00b"⟩] := by decide +kernel
  have ready : built "write \"100%\"\nwrite \"a\x00b\"" =
      .ok (replay ⟨{}, .typed, .plain⟩ [⟨1, .writeText "100%"⟩, ⟨2, .writeText "a\x00b"⟩]
        .empty).builder := by
    simp only [built, parsed]
    rfl
  obtain ⟨text, emitted, _, spelled⟩ := emit_layout .plain {} (by decide) ready
  refine ⟨text, _, _, emitted, spelled,
    ((reached_of_built ready).wellTyped .typed).readBody?_eq, ?_⟩
  decide +kernel

end Compile

end Stackline
