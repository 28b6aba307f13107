import Mathlib
import Stackline.Proofs.Builder.Closure
import Stackline.Proofs.Compile.Spelling

/-!
# Global names

The names that a module introduces, read from its lines: one for each text, one for its function
and one for each function it declares (`Layout.names?`). Texts and declared functions never share
a name. The name of the function is a choice of the user that nothing else takes notice of, so
that it is the one name that can be there twice.
-/

namespace Stackline

open Stackline.Code
open Stackline.Assembly (lacks_symbol readSymbol? readSymbol?_symbol)
open Stackline.Text (isPrefixOf?_append takeWhile_dropWhile_append)

namespace Code

/-! ### Names in lines -/

/-- The name that a definition introduces: what stands before the first blank. -/
def definedName (line : String) : String :=
  String.ofList (line.toList.takeWhile (· ≠ ' '))

/-- The name that a declaration introduces: what stands from its sign to the parameters. -/
def declaredName (line : String) : String :=
  String.ofList ((line.toList.dropWhile (· ≠ '@')).takeWhile (· ≠ '('))

/-- The name that the opening of a function introduces: what stands from its sign to the
parameters at the end. -/
def openedName (opening : List (List Char)) : String :=
  String.ofList (((['\n'].intercalate opening).dropWhile (· ≠ '@')).rdrop "() \x7b".toList.length)

namespace Layout

/-- The lines between the definitions and the body of a module. A name can hold line feeds, so
the spelling has to tell how many lines there are. -/
def opening? (spelling : Spelling) (text : String) : Option (List (List Char)) := do
  let lines ← (targetLines spelling).isPrefixOf? (Text.lines text.toList)
  let definitions := lines.takeWhile isDefinition
  return (lines.dropWhile isDefinition).take (openingLines spelling definitions).length

/-- The names that a module introduces, in their order. -/
def names? (spelling : Spelling) (text : String) : Option (List String) := do
  let layout ← read? spelling text
  let opening ← opening? spelling text
  return layout.definitions.map definedName ++ openedName opening ::
    layout.declarations.map declaredName

/-- The opening lines introduce the name of the function. -/
theorem openedName_openingLines (spelling : Spelling) (definitions : List (List Char)) :
    openedName (openingLines spelling definitions) = "@" ++ spelling.entry := by
  obtain ⟨before, unsigned, opening⟩ : ∃ before : List Char,
      (∀ c ∈ before, decide (c ≠ '@')) ∧ openingLines spelling definitions =
        Text.fields '\n' (before ++ '@' :: (spelling.entry ++ "() \x7b").toList) := by
    cases definitions with
    | nil => exact ⟨"define i32 ".toList, by simp, by simp [openingLines]⟩
    | cons first others =>
      exact ⟨"\ndefine i32 ".toList, by simp, by simp [openingLines, Text.fields]⟩
  have parts : '@' :: (spelling.entry ++ "() \x7b").toList =
      ("@" ++ spelling.entry).toList ++ "() \x7b".toList := by simp
  rw [openedName, opening, Text.fields_eq_splitOn, List.intercalate_splitOn,
    (takeWhile_dropWhile_append unsigned (by simp)).2, parts, List.rdrop, List.length_append,
    Nat.add_sub_cancel, List.take_left, String.ofList_toList]

theorem opening?_text {layout : Layout} (tidy : layout.Tidy) (spelling : Spelling) :
    opening? spelling (layout.text spelling) =
      some (openingLines spelling (layout.definitions.map String.toList)) := by
  have lines := lines_text tidy spelling
  simp only [List.append_assoc] at lines
  have cut (rest : List (List Char)) := takeWhile_dropWhile_append tidy.isDefinition
    (head_openingLines spelling (layout.definitions.map String.toList) rest)
  simp only [opening?, lines, Option.bind_eq_bind, isPrefixOf?_append, Option.bind_some, cut,
    List.take_left]
  rfl

/-- The names of a module, told from its text. -/
theorem names?_text {layout : Layout} (tidy : layout.Tidy) (spelling : Spelling) :
    names? spelling (layout.text spelling) =
      some (layout.definitions.map definedName ++ ("@" ++ spelling.entry) ::
        layout.declarations.map declaredName) := by
  simp only [names?, read?_text tidy, opening?_text tidy, Option.bind_eq_bind, Option.bind_some,
    openedName_openingLines]
  rfl

end Layout

/-- A definition introduces the name of its text. -/
theorem definedName_definition (pooled : Pooled) (text : String) :
    definedName (Pool.definition pooled text) = pooled.symbol := by
  have visible : ∀ c ∈ pooled.symbol.toList, decide (c ≠ ' ') := by
    intro c member
    rw [decide_eq_true_eq]
    rintro rfl
    exact lacks_symbol (by decide) pooled member
  have spelled : (Pool.definition pooled text).toList = pooled.symbol.toList ++
      ' ' :: ("= private unnamed_addr constant [" ++ toString pooled.size ++ " x i8] c\"" ++
        escapeBytes text ++ "\\00\"").toList := by
    unfold Pool.definition
    simp
  rw [definedName, spelled, (takeWhile_dropWhile_append visible (by simp)).1, String.ofList_toList]

/-- A declaration introduces the name of its function. -/
theorem declaredName_declaration (pointers : Pointers) (external : External) :
    declaredName (external.declaration pointers) = "@" ++ external.symbol := by
  cases pointers <;> cases external <;> decide

/-- The texts of a pool are named by their numbers. -/
theorem definedNames_definitions (pool : Pool) :
    pool.definitions.map definedName =
      (List.range' 1 pool.texts.length).map fun number => "@str" ++ toString number := by
  refine List.ext_getElem (by simp [Pool.definitions]) fun index _ _ => ?_
  simp [Pool.definitions, definedName_definition, Pooled.symbol, Nat.add_comm]

/-- Different numbers make different names. -/
theorem numberedName_injective :
    Function.Injective fun number : Nat => "@str" ++ toString number := by
  intro number other same
  have read (number : Nat) : readSymbol? ("@str" ++ toString number) = some number :=
    readSymbol?_symbol ⟨number, 0⟩
  have found := congrArg readSymbol? same
  rw [read, read] at found
  exact Option.some.inj found

/-- No text is named like an external function. -/
theorem numberedName_ne_symbol (number : Nat) (external : External) :
    "@str" ++ toString number ≠ "@" ++ external.symbol := by
  intro same
  have read : readSymbol? ("@str" ++ toString number) = some number :=
    readSymbol?_symbol ⟨number, 0⟩
  rw [same] at read
  cases external <;> cases read

theorem externalName_injective :
    Function.Injective fun external : External => "@" ++ external.symbol := by
  intro external other same
  cases external <;> cases other <;> first | rfl | exact absurd same (by decide)

/-- Texts and external functions have different names. -/
theorem Program.names_nodup {program : Program} (once : program.externals.required.Nodup)
    (pointers : Pointers) :
    ((program.layout pointers).definitions.map definedName ++
      (program.layout pointers).declarations.map declaredName).Nodup := by
  have declared : (program.layout pointers).declarations.map declaredName =
      program.externals.required.map fun external => "@" ++ external.symbol := by
    rw [layout, List.map_map]
    exact List.map_congr_left fun external _ => declaredName_declaration pointers external
  rw [declared, layout, definedNames_definitions, List.nodup_append]
  refine ⟨.map numberedName_injective List.nodup_range', once.map externalName_injective, ?_⟩
  intro name defined other required same
  obtain ⟨number, _, rfl⟩ := List.mem_map.1 defined
  obtain ⟨external, _, rfl⟩ := List.mem_map.1 required
  exact numberedName_ne_symbol number external same

/-- Whether all names of a module are different is a matter of the name of its function. -/
theorem Program.names_nodup_iff {program : Program} (once : program.externals.required.Nodup)
    (spelling : Spelling) :
    ((program.layout spelling.pointers).definitions.map definedName ++ ("@" ++ spelling.entry) ::
        (program.layout spelling.pointers).declarations.map declaredName).Nodup ↔
      (∀ number, 1 ≤ number → number ≤ program.pool.texts.length →
        spelling.entry ≠ "str" ++ toString number) ∧
      ∀ external ∈ program.externals.required, spelling.entry ≠ external.symbol := by
  have signed (number : Nat) :
      "@str" ++ toString number = "@" ++ spelling.entry ↔
        spelling.entry = "str" ++ toString number := by
    simp only [← String.toList_inj]
    simp [eq_comm]
  have declared (external : External) :
      "@" ++ external.symbol = "@" ++ spelling.entry ↔ spelling.entry = external.symbol := by
    simp only [← String.toList_inj]
    simp [eq_comm]
  rw [List.nodup_middle, List.nodup_cons,
    and_iff_left (names_nodup once spelling.pointers), List.mem_append, not_or]
  refine and_congr ?_ ?_
  · rw [layout, definedNames_definitions]
    simp only [List.mem_map, List.mem_range'_1, signed, not_exists, not_and, and_imp]
    exact forall_congr' fun number => by grind
  · rw [layout, List.map_map]
    simp only [List.mem_map, Function.comp_apply, declaredName_declaration, declared, not_exists,
      not_and]

end Code

/-! ### Names in modules -/

namespace Compile

open Stackline.Command
open Stackline.Script
open Stackline.Terminal

/-- A script requires each external function once. -/
theorem nodup_required {commands : List Command} {builder : Builder}
    (run : Steps commands .empty builder) : builder.externals.required.Nodup := by
  have accounted : ∃ calls demands, builder.Accounts calls demands :=
    @Steps.preserves (fun _ => True)
      (fun builder => ∃ calls demands, builder.Accounts calls demands)
      (fun _ step ⟨_, _, accounts⟩ => ⟨_, _, step.accounts accounts⟩) commands .empty builder run
      (fun _ _ => trivial) ⟨[], [], Builder.accounts_empty⟩
  obtain ⟨calls, demands, accounts⟩ := accounted
  rw [accounts.required]
  exact nodup_eraseDups demands

/-- The names of what was built, told from the text of its module. -/
theorem Reached.names?_text {builder : Builder} (reached : Reached builder) (spelling : Spelling) :
    Layout.names? spelling (builder.program.text spelling) =
      some ((builder.program.layout spelling.pointers).definitions.map definedName ++
        ("@" ++ spelling.entry) ::
          (builder.program.layout spelling.pointers).declarations.map declaredName) := by
  rw [Program.text_eq_layout]
  exact Layout.names?_text (reached.tidy_layout spelling.pointers) spelling

/-- The texts and the declared functions of a module have different names. So has its function,
exactly if it is named neither like one of the texts nor like one of the declared functions. -/
theorem only_entry_can_clash (ink : Ink) (options : Options) {source text : String}
    (compiled : (emit ink options source).result = .ok text) :
    ∃ layout names, Layout.read? options.spelling text = some layout ∧
      Layout.names? options.spelling text = some names ∧
      text = layout.text options.spelling ∧
      (layout.definitions.map definedName ++ layout.declarations.map declaredName).Nodup ∧
      (names.Nodup ↔
        (∀ number, 1 ≤ number → number ≤ layout.definitions.length →
          options.spelling.entry ≠ "str" ++ toString number) ∧
        ∀ external : External,
          external.declaration options.spelling.pointers ∈ layout.declarations →
            options.spelling.entry ≠ external.symbol) := by
  obtain ⟨statements, builder, parsed, reached, run, rfl⟩ := exists_run_of_emit compiled
  have once := nodup_required run
  refine ⟨builder.program.layout options.spelling.pointers, _, reached.read?_text options.spelling,
    reached.names?_text options.spelling, Program.text_eq_layout _ _,
    Program.names_nodup once _, ?_⟩
  have declared (external : External) :
      external.declaration options.spelling.pointers ∈
          (builder.program.layout options.spelling.pointers).declarations ↔
        external ∈ builder.program.externals.required :=
    List.mem_map_of_injective (External.declaration_injective options.spelling.pointers)
  have count : (builder.program.layout options.spelling.pointers).definitions.length =
      builder.program.pool.texts.length := by
    simp [Program.layout, Pool.definitions]
  rw [Program.names_nodup_iff once]
  simp only [declared, count]

/-- A function that is named like a text which the module does not have. -/
theorem only_entry_can_clash_close :
    ∃ text, (emit .plain ⟨["a.mil"], none, {}, ⟨"str3", .typed, none, 2⟩, false⟩
        "declare int x\nread x\nwrite \"Printf\"").result = .ok text ∧
      Layout.names? ⟨"str3", .typed, none, 2⟩ text =
        some ["@str1", "@str2", "@str3", "@scanf", "@printf"] ∧
      ["@str1", "@str2", "@str3", "@scanf", "@printf"].Nodup := by
  have parsed : parse "declare int x\nread x\nwrite \"Printf\"" =
      .ok [⟨1, .declare "int" "x"⟩, ⟨2, .read "x"⟩, ⟨3, .writeText "Printf"⟩] := by decide +kernel
  have ready : built "declare int x\nread x\nwrite \"Printf\"" =
      .ok (replay ⟨{}, .typed, .plain⟩ [⟨1, .declare "int" "x"⟩, ⟨2, .read "x"⟩,
        ⟨3, .writeText "Printf"⟩] .empty).builder := by
    simp only [built, parsed]
    rfl
  obtain ⟨text, emitted, spelled, read⟩ := emit_layout .plain
    ⟨["a.mil"], none, {}, ⟨"str3", .typed, none, 2⟩, false⟩ (by decide) ready
  have told : Layout.names? ⟨"str3", .typed, none, 2⟩ text =
      some ["@str1", "@str2", "@str3", "@scanf", "@printf"] := by
    rw [spelled, ← Program.text_eq_layout, (reached_of_built ready).names?_text]
    decide +kernel
  obtain ⟨layout, names, found, named, _, _, distinct⟩ := only_entry_can_clash .plain
    ⟨["a.mil"], none, {}, ⟨"str3", .typed, none, 2⟩, false⟩ emitted
  cases found.symm.trans read
  cases named.symm.trans told
  refine ⟨text, emitted, told, distinct.2 ⟨?_, ?_⟩⟩
  · intro number low high
    have texts : number ≤ 2 := high
    have known : number = 1 ∨ number = 2 := by omega
    rcases known with rfl | rfl <;> decide
  · intro external _
    cases external <;> decide

/-- A function can be named like a text or like a declared function. -/
theorem entry_can_clash :
    (∃ text names,
      Options.problem? ⟨["a.mil"], none, {}, ⟨"str1", .typed, none, 2⟩, false⟩ = none ∧
      (emit .plain ⟨["a.mil"], none, {}, ⟨"str1", .typed, none, 2⟩, false⟩
        "write \"x\"").result = .ok text ∧
      Layout.names? ⟨"str1", .typed, none, 2⟩ text = some names ∧
      names = ["@str1", "@str1", "@printf"] ∧ ¬names.Nodup) ∧
    ∃ text names,
      Options.problem? ⟨["a.mil"], none, {}, ⟨"printf", .typed, none, 2⟩, false⟩ = none ∧
      (emit .plain ⟨["a.mil"], none, {}, ⟨"printf", .typed, none, 2⟩, false⟩
        "write \"x\"").result = .ok text ∧
      Layout.names? ⟨"printf", .typed, none, 2⟩ text = some names ∧
      names = ["@str1", "@printf", "@printf"] ∧ ¬names.Nodup := by
  have parsed : parse "write \"x\"" = .ok [⟨1, .writeText "x"⟩] := by decide +kernel
  have ready : built "write \"x\"" =
      .ok (replay ⟨{}, .typed, .plain⟩ [⟨1, .writeText "x"⟩] .empty).builder := by
    simp only [built, parsed]
    rfl
  have told := (reached_of_built ready).names?_text
  obtain ⟨_, asText, rfl, _⟩ := emit_layout .plain
    ⟨["a.mil"], none, {}, ⟨"str1", .typed, none, 2⟩, false⟩ (by decide) ready
  obtain ⟨_, asExternal, rfl, _⟩ := emit_layout .plain
    ⟨["a.mil"], none, {}, ⟨"printf", .typed, none, 2⟩, false⟩ (by decide) ready
  rw [← Program.text_eq_layout] at asText asExternal
  exact ⟨⟨_, _, by decide, asText, told _, by decide +kernel, by decide +kernel⟩,
    ⟨_, _, by decide, asExternal, told _, by decide +kernel, by decide +kernel⟩⟩

end Compile

end Stackline
