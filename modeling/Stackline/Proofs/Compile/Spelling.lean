import Mathlib
import Stackline.Proofs.Assembly.Pointers
import Stackline.Proofs.Program.Reading

/-!
# What options change

Options do not decide whether a script is compiled, and of its module they change the spelling
only: entry, target and margin the frame that `Layout.text` puts around the lines, and the
spelling of pointers nothing but pointers in the lines of the body and the declarations.
-/

namespace Stackline.Code

open Stackline.Assembly

/-- The register that a line fills, from its text. -/
def resultRegister? (line : String) : Option Register :=
  (readBodyLine? line).bind Line.register?

/-- The lines of a program fill its registers, however pointers are spelled. -/
theorem Program.results_layout (program : Program) (pointers : Pointers) :
    (program.layout pointers).body.map resultRegister? = program.body.map Line.register? := by
  rw [layout, List.map_map]
  apply List.map_congr_left
  intro line _
  rw [Function.comp_apply, resultRegister?, readBodyLine?_spell]
  cases line <;> rfl

/-- Rewriting the pointers of the lines makes them the lines with untyped pointers. -/
theorem Program.untype_layout {program : Program}
    (legible : ∀ line ∈ program.body, line.content.Legible) :
    (program.layout .untyped).body = (program.layout .typed).body.map untype ∧
      (program.layout .untyped).declarations =
        (program.layout .typed).declarations.map untype := by
  simp only [layout, List.map_map]
  constructor
  · apply List.map_congr_left
    intro line member
    exact (untype_spell (legible line member)).symm
  · apply List.map_congr_left
    intro external _
    exact (untype_declaration external).symm

end Stackline.Code

namespace Stackline.Compile

open Stackline.Assembly
open Stackline.Code
open Stackline.Script
open Stackline.Terminal

theorem Reached.tidy_layout {builder : Builder} (reached : Reached builder)
    (pointers : Pointers) : (builder.program.layout pointers).Tidy :=
  Code.tidy_layout (reached.wellTyped pointers).legible pointers

/-- The lines of what a script leads to can be told from the text of the module. -/
theorem Reached.read?_text {builder : Builder} (reached : Reached builder) (spelling : Spelling) :
    Layout.read? spelling (builder.program.text spelling) =
      some (builder.program.layout spelling.pointers) := by
  rw [Program.text_eq_layout]
  exact Layout.read?_text (reached.tidy_layout spelling.pointers) spelling

/-- What was built is laid out in the spelling that the options ask for. -/
theorem emit_layout (ink : Ink) (options : Options) {source : String} {builder : Builder}
    (margin : options.spelling.indent < Program.lengthLimit) (ready : built source = .ok builder) :
    ∃ text, (emit ink options source).result = .ok text ∧
      text = (builder.program.layout options.spelling.pointers).text options.spelling ∧
      Layout.read? options.spelling text =
        some (builder.program.layout options.spelling.pointers) := by
  refine ⟨builder.program.text options.spelling, ?_, Program.text_eq_layout _ _,
    (reached_of_built ready).read?_text options.spelling⟩
  rw [emit_result ink options source margin, ready]
  rfl

/-- Two compilations of a script fail alike, or they lead to the same definitions, to lines that
fill the same registers and to the same declarations, where only pointers may be spelled in
another way. Entry, target and margin are for nothing but the frame around the lines. -/
theorem options_change_spelling_only (ink otherInk : Ink) (options others : Options)
    (source : String) (margin : options.spelling.indent < 2 ^ 63)
    (otherMargin : others.spelling.indent < 2 ^ 63) :
    (∃ failure, (emit ink options source).result = .error failure ∧
      (emit otherInk others source).result = .error failure) ∨
    ∃ text other layout otherLayout,
      (emit ink options source).result = .ok text ∧
      (emit otherInk others source).result = .ok other ∧
      text = layout.text options.spelling ∧ other = otherLayout.text others.spelling ∧
      Layout.read? options.spelling text = some layout ∧
      Layout.read? others.spelling other = some otherLayout ∧
      otherLayout.definitions = layout.definitions ∧
      otherLayout.body.map resultRegister? = layout.body.map resultRegister? ∧
      (options.spelling.pointers = others.spelling.pointers →
        otherLayout.body = layout.body ∧ otherLayout.declarations = layout.declarations) ∧
      (options.spelling.pointers = .typed → others.spelling.pointers = .untyped →
        otherLayout.body = layout.body.map untype ∧
          otherLayout.declarations = layout.declarations.map untype) := by
  cases ready : built source with
  | error failure =>
    refine .inl ⟨failure, ?_, ?_⟩
    · rw [emit_result ink options source margin, ready]
      rfl
    · rw [emit_result otherInk others source otherMargin, ready]
      rfl
  | ok builder =>
    obtain ⟨text, emitted, spelled, read⟩ := emit_layout ink options margin ready
    obtain ⟨other, otherEmitted, otherSpelled, otherRead⟩ :=
      emit_layout otherInk others otherMargin ready
    refine .inr ⟨text, other, _, _, emitted, otherEmitted, spelled, otherSpelled, read, otherRead,
      rfl, ?_, ?_, ?_⟩
    · rw [Program.results_layout, Program.results_layout]
    · intro same
      rw [same]
      exact ⟨rfl, rfl⟩
    · intro typed untyped
      rw [typed, untyped]
      exact Program.untype_layout ((reached_of_built ready).wellTyped .typed).legible

/-- A number with an exponent, a text that looks like a pointer, and an entry and a target that
break lines. -/
theorem options_change_spelling_only_reading :
    ∃ text other, ∃ layout otherLayout : Layout,
      (emit .plain {} "declare float x\nread x\npush 2e3\nstore x\nwrite \"i8*\"").result =
        .ok text ∧
      (emit .ansi ⟨[], none, {}, ⟨"f\n", .untyped, some "\n", 0⟩, true⟩
        "declare float x\nread x\npush 2e3\nstore x\nwrite \"i8*\"").result = .ok other ∧
      text = layout.text {} ∧ other = otherLayout.text ⟨"f\n", .untyped, some "\n", 0⟩ ∧
      otherLayout.definitions = layout.definitions ∧
      otherLayout.body = layout.body.map untype ∧
      otherLayout.body =
        ["%1 = alloca float, align 4", "%2 = call i32 (ptr, ...) @scanf(ptr @str1, ptr %1)",
          "store float 2.0e3, ptr %1, align 4", "%3 = call i32 (ptr, ...) @printf(ptr @str2)"] := by
  have parsed : parse "declare float x\nread x\npush 2e3\nstore x\nwrite \"i8*\"" =
      .ok [⟨1, .declare "float" "x"⟩, ⟨2, .read "x"⟩, ⟨3, .pushReal "2.0e3"⟩, ⟨4, .store "x"⟩,
        ⟨5, .writeText "i8*"⟩] := by decide +kernel
  have ready : built "declare float x\nread x\npush 2e3\nstore x\nwrite \"i8*\"" =
      .ok (replay ⟨{}, .typed, .plain⟩ [⟨1, .declare "float" "x"⟩, ⟨2, .read "x"⟩,
        ⟨3, .pushReal "2.0e3"⟩, ⟨4, .store "x"⟩, ⟨5, .writeText "i8*"⟩] .empty).builder := by
    simp only [built, parsed]
    rfl
  obtain ⟨_, emittedOnce, _⟩ := emit_layout .plain {} (by decide) ready
  obtain ⟨_, emittedAgain, _, readAgain⟩ := emit_layout .ansi
    ⟨[], none, {}, ⟨"f\n", .untyped, some "\n", 0⟩, true⟩ (by decide) ready
  rcases options_change_spelling_only .plain .ansi {}
      ⟨[], none, {}, ⟨"f\n", .untyped, some "\n", 0⟩, true⟩
      "declare float x\nread x\npush 2e3\nstore x\nwrite \"i8*\"" (by decide) (by decide) with
    ⟨_, failed, _⟩ | ⟨text, other, layout, otherLayout, emitted, otherEmitted, spelled,
      otherSpelled, _, read, definitions, _, _, rewritten⟩
  · cases emittedOnce.symm.trans failed
  · refine ⟨text, other, layout, otherLayout, emitted, otherEmitted, spelled, otherSpelled,
      definitions, (rewritten rfl rfl).1, ?_⟩
    cases otherEmitted.symm.trans emittedAgain
    cases read.symm.trans readAgain
    decide +kernel

end Stackline.Compile
