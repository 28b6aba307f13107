import Mathlib
import Stackline.Proofs.Assembly.Characters
import Stackline.Proofs.Code.Definition
import Stackline.Proofs.Compile.Replay
import Stackline.Proofs.Program.Layout

/-!
# Modules read back

What was built, read from the text of a module: the bytes of its texts, the lines of its body
with the registers they fill, and the external functions it declares. Every module that a
script leads to reads back as what was built (`module_reads_back`), so that its text tells it
from all others of the same spelling.
-/

namespace Stackline.Code

open Stackline.Assembly
open Stackline.Text (Lacks isPrefixOf?_append mapM_map_eq_some)

/-- What the text of a module tells of what was built. -/
structure Reading where
  texts : List (List UInt8)
  log : List (Line String)
  externals : List External
  deriving DecidableEq, Repr

/-- Read the bytes of a text, without the zero byte that closes them, from its definition. -/
def readText? (definition : String) : Option (List UInt8) := do
  let stored ← readDefinition? definition.toList
  if stored.bytes.getLast? = some 0 then some stored.bytes.dropLast else none

/-- Read a line of the body: the register it fills, if it fills one, and the rest. -/
def readBodyLine? (line : String) : Option (Line String) :=
  match line.toList with
  | '%' :: rest => do
    let id ← readNumber? (rest.takeWhile Char.isDigit)
    let content ← " = ".toList.isPrefixOf? (rest.dropWhile Char.isDigit)
    if id < UInt32.size then some (.value (UInt32.ofNat id) (String.ofList content)) else none
  | _ => some (.effect line)

/-- Read the function that a line declares. -/
def readDeclaration? (line : String) : Option External :=
  match words line with
  | "declare" :: result :: name :: signature =>
    if readVariadic? (result :: signature) = some [] then readExternal? name else none
  | _ => none

/-- Read a module that is spelled in a known way. -/
def readModule? (spelling : Spelling) (text : String) : Option Reading := do
  let layout ← Layout.read? spelling text
  let texts ← layout.definitions.mapM readText?
  let log ← layout.body.mapM readBodyLine?
  let externals ← layout.declarations.mapM readDeclaration?
  return ⟨texts, log, externals⟩

/-- A line with another content. -/
def Line.map {α β : Type} (f : α → β) : Line α → Line β
  | .value id content => .value id (f content)
  | .effect content => .effect (f content)

/-- The lines of a program with the texts of their contents. -/
def Program.log (pointers : Pointers) (program : Program) : List (Line String) :=
  program.body.map (Line.map (Instruction.text pointers))

/-- What the text of a program tells. -/
def Program.reading (pointers : Pointers) (program : Program) : Reading :=
  ⟨program.pool.texts.map utf8, program.log pointers, program.externals.required⟩

/-! ### The sections -/

theorem readText?_definition (pooled : Pooled) (text : String) :
    readText? (Pool.definition pooled text) = some (utf8 text) := by
  simp [readText?, readDefinition?_definition]

/-- No instruction looks as if it filled a register. -/
theorem head_instruction (pointers : Pointers) (instruction : Code.Instruction) :
    (instruction.text pointers).toList.head? ≠ some '%' := by
  unfold Instruction.text
  cases instruction with
  | convert conversion operand target => cases conversion <;> simp [Conversion.mnemonic]
  | arithmetic operator kind first second =>
    cases operator <;> cases kind <;> simp [Arithmetic.mnemonic, Kind.family]
  | _ => simp

theorem readBodyLine?_spell (pointers : Pointers) (line : Line Code.Instruction) :
    readBodyLine? (line.spell pointers) = some (line.map (Instruction.text pointers)) := by
  cases line with
  | value id instruction =>
    have number := @takeWhile_dropWhile_number id.toNat
      (" = ".toList ++ (instruction.text pointers).toList) (by simp)
    have spelled : (Line.spell pointers (.value id instruction)).toList =
        '%' :: (Nat.toDigits 10 id.toNat ++
          (" = ".toList ++ (instruction.text pointers).toList)) := by
      simp [Line.spell, Line.text, registerText]
    simp only [readBodyLine?, spelled, number, readNumber?_toDigits, isPrefixOf?_append,
      Option.bind_eq_bind, Option.bind_some, id.toNat_lt_size, if_true, UInt32.ofNat_toNat,
      String.ofList_toList, Line.map]
  | effect instruction =>
    have noRegister := head_instruction pointers instruction
    simp only [readBodyLine?, Line.spell, Line.text, Line.map]
    split
    · rename_i opens
      simp [opens] at noRegister
    · rfl

theorem readDeclaration?_declaration (pointers : Pointers) (external : External) :
    readDeclaration? (external.declaration pointers) = some external := by
  cases pointers <;> cases external <;> decide

/-! ### The module -/

/-- The lines of a legible program look like lines of their sections. -/
theorem tidy_layout {program : Program} (legible : ∀ line ∈ program.body, line.content.Legible)
    (pointers : Pointers) : (program.layout pointers).Tidy := by
  constructor
  · intro line member
    obtain ⟨index, bound, rfl⟩ := List.mem_mapIdx.1 member
    exact definition_line _ _
  · intro text member
    obtain ⟨line, inside, rfl⟩ := List.mem_map.1 member
    refine ⟨?_, oneLine_spell (legible line inside)⟩
    -- Every line can be read as an instruction, and the one that returns cannot.
    intro returns
    have read := @readLine?_spell pointers line (legible line inside)
    rw [returns] at read
    cases read
  · intro text member
    obtain ⟨external, _, rfl⟩ := List.mem_map.1 member
    cases pointers <;> cases external <;> decide

/-- The text of a legible program reads back as what was built. -/
theorem readModule?_text {program : Program}
    (legible : ∀ line ∈ program.body, line.content.Legible) (spelling : Spelling) :
    readModule? spelling (program.text spelling) = some (program.reading spelling.pointers) := by
  have layout := Layout.read?_text (tidy_layout legible spelling.pointers) spelling
  have texts : program.pool.definitions.mapM readText? = some (program.pool.texts.map utf8) := by
    have read : ∀ entry ∈ program.pool.texts.zipIdx,
        readText? (Pool.definition ⟨entry.2 + 1, Pool.storedSize entry.1⟩ entry.1) =
          some (utf8 entry.1) :=
      fun entry _ => readText?_definition _ entry.1
    rw [Pool.definitions, List.mapIdx_eq_zipIdx_map, mapM_map_eq_some read,
      ← Function.comp_def utf8 Prod.fst, ← List.map_map, List.zipIdx_map_fst]
  have log : (program.body.map (Line.spell spelling.pointers)).mapM readBodyLine? =
      some (program.log spelling.pointers) :=
    mapM_map_eq_some fun line _ => readBodyLine?_spell spelling.pointers line
  have externals : (program.externals.required.map (·.declaration spelling.pointers)).mapM
      readDeclaration? = some program.externals.required := by
    rw [mapM_map_eq_some fun external _ => readDeclaration?_declaration spelling.pointers external,
      List.map_id']
  rw [Program.text_eq_layout, readModule?, layout]
  simp only [Option.bind_eq_bind, Option.bind_some, Program.layout, texts, log, externals]
  rfl

/-- What the text of a program tells is all there is to it, but for how its lines came to be. -/
theorem eq_of_reading_eq {pointers : Pointers} {program other : Program}
    (indexed : program.pool.Indexed) (indexedToo : other.pool.Indexed)
    (same : other.reading pointers = program.reading pointers) :
    other.pool = program.pool ∧ other.log pointers = program.log pointers ∧
      other.externals = program.externals := by
  obtain ⟨texts, log, externals⟩ := Reading.mk.inj same
  refine ⟨?_, log, ?_⟩
  · exact indexed.eq_of_texts_eq indexedToo (utf8_injective.list_map texts)
  · exact congrArg Externals.mk externals

/-! ### The end of the text -/

/-- A text ends with exactly one line feed. -/
def EndsOnce (text : String) : Prop :=
  ∃ rest c, text.toList = rest ++ [c, '\n'] ∧ c ≠ '\n'

theorem EndsOnce.append {text : String} (ends : EndsOnce text) (opening : String) :
    EndsOnce (opening ++ text) := by
  obtain ⟨rest, c, shape, lineFeed⟩ := ends
  exact ⟨opening.toList ++ rest, c, by simp [shape], lineFeed⟩

theorem endsOnce_declaration (pointers : Pointers) (external : External) :
    EndsOnce (external.declaration pointers ++ "\n") := by
  have closing : EndsOnce (", ...)" ++ "\n") := ⟨", ...".toList, ')', rfl, by decide⟩
  unfold External.declaration
  rw [String.append_assoc]
  exact closing.append _

theorem endLines_concat (texts : List String) (text : String) :
    endLines (texts ++ [text]) = endLines texts ++ (text ++ "\n") := by
  simp [endLines]

/-- The text of a program ends with exactly one line feed. -/
theorem endsOnce_text (program : Program) (spelling : Spelling) :
    EndsOnce (program.text spelling) := by
  unfold Program.text
  rcases List.eq_nil_or_concat program.externals.required with none | ⟨others, last, given⟩
  · have brace : EndsOnce "\x7d\n" := ⟨[], '\x7d', rfl, by decide⟩
    have closing : EndsOnce (program.functionSection spelling) := brace.append _
    have nothing : program.externalSection spelling = "" := by
      unfold Program.externalSection
      rw [none]
      rfl
    rw [nothing, String.append_empty]
    exact closing.append _
  · have split : program.externalSection spelling =
        "\n" ++ endLines (others.map (·.declaration spelling.pointers)) ++
          (last.declaration spelling.pointers ++ "\n") := by
      unfold Program.externalSection
      rw [given, if_neg (by simp), List.concat_eq_append, List.map_append, List.map_singleton,
        endLines_concat, String.append_assoc]
    rw [split]
    exact ((endsOnce_declaration spelling.pointers last).append _).append _

end Stackline.Code

namespace Stackline.Compile

open Stackline.Code
open Stackline.Script

/-- Every module that a script leads to can be spelled, and its text reads back as the bytes of
its texts, its lines with the registers they fill, and the functions it declares, whatever the
spelling is. No other module of that spelling has the text, which ends with one line feed. -/
theorem module_reads_back (spelling : Spelling) (margin : spelling.indent < 2 ^ 63)
    {builder : Builder} (reached : Reached builder) :
    ∃ text, builder.program.text? spelling = some text ∧
      readModule? spelling text =
        some ⟨builder.pool.texts.map utf8, builder.program.log spelling.pointers,
          builder.externals.required⟩ ∧
      (∀ other, Reached other → other.program.text? spelling = some text →
        other.pool = builder.pool ∧
          other.program.log spelling.pointers = builder.program.log spelling.pointers ∧
          other.externals = builder.externals) ∧
      ∃ rest c, text.toList = rest ++ [c, '\n'] ∧ c ≠ '\n' := by
  have reads {state : Builder} (reached : Reached state) :
      readModule? spelling (state.program.text spelling) =
        some (state.program.reading spelling.pointers) :=
    readModule?_text (reached.wellTyped spelling.pointers).legible spelling
  have spelled (program : Program) : program.text? spelling = some (program.text spelling) :=
    if_pos margin
  refine ⟨_, spelled _, reads reached, ?_, endsOnce_text builder.program spelling⟩
  intro other reachedToo sameText
  rw [spelled, Option.some.injEq] at sameText
  have same := (reads reachedToo).symm.trans (sameText ▸ reads reached)
  exact eq_of_reading_eq (reached.wellTyped spelling.pointers).pool
    (reachedToo.wellTyped spelling.pointers).pool (Option.some.inj same)

/-- A text and a spelling that imitate the frame of a module, and a script that fails behind
them. -/
theorem module_reads_back_imitation :
    ∃ statements,
      parse "declare double x\nread x\nwrite \"\\n\x7d\\n\\n@str1\"\nload x\nload y" =
        .ok statements ∧
      (replay ⟨{}, .typed, .plain⟩ statements .empty).failure.isSome ∧
      ∃ text,
        (replay ⟨{}, .typed, .plain⟩ statements .empty).builder.program.text?
          ⟨"f() \x7b\nret i32 0\n\x7d\n", .untyped, some "\"\n\n@str1 = \"", 0⟩ = some text ∧
        readModule? ⟨"f() \x7b\nret i32 0\n\x7d\n", .untyped, some "\"\n\n@str1 = \"", 0⟩ text =
          some ⟨[[37, 108, 102], [10, 125, 10, 10, 64, 115, 116, 114, 49]],
            [.value 1 "alloca double, align 8",
              .value 2 "call i32 (ptr, ...) @scanf(ptr @str1, ptr %1)",
              .value 3 "call i32 (ptr, ...) @printf(ptr @str2)",
              .value 4 "load double, ptr %1, align 8"],
            [.scanf, .printf]⟩ := by
  have parsed : parse "declare double x\nread x\nwrite \"\\n\x7d\\n\\n@str1\"\nload x\nload y" =
      .ok [⟨1, .declare "double" "x"⟩, ⟨2, .read "x"⟩, ⟨3, .writeText "\n\x7d\n\n@str1"⟩,
        ⟨4, .load "x"⟩, ⟨5, .load "y"⟩] := by decide +kernel
  refine ⟨_, parsed, by decide, ?_⟩
  obtain ⟨text, spelled, read, _⟩ := module_reads_back
    ⟨"f() \x7b\nret i32 0\n\x7d\n", .untyped, some "\"\n\n@str1 = \"", 0⟩ (by decide)
    (.replayed parsed ⟨{}, .typed, .plain⟩)
  refine ⟨text, spelled, read.trans ?_⟩
  decide +kernel

end Stackline.Compile
