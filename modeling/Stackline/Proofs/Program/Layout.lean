import Mathlib
import Stackline.Proofs.Text.Lines

/-!
# The layout of a module

The text of a module is made of lines that depend on what was built, and of a frame that
depends on the spelling alone: the target, the opening of the function, the margin, and the
empty lines between the sections. `Layout.read?` takes the frame off again. It knows the
spelling, so it is not misled by a target or a name that holds line feeds, and the lines need
no more than to stay on one line and to look like lines of their section (`Layout.Tidy`).
-/

namespace Stackline.Code

open Stackline.Text (Lacks LaysOut laysOut_nothing laysOut_fields laysOut_line laysOut_endLines
  takeWhile_dropWhile_append isPrefixOf?_append mapM_map_eq_some)

/-- The lines of a module that depend on what was built: the definitions of its texts, the
body of its function without the line that returns, and the declarations. -/
structure Layout where
  definitions : List String
  body : List String
  declarations : List String
  deriving DecidableEq, Repr

namespace Layout

/-- The line that returns. -/
def returning : String :=
  "ret i32 0"

/-- The text of a module with these lines. Target, name and margin are for nothing else. -/
def text (spelling : Spelling) (layout : Layout) : String :=
  (spelling.triple.elim "" fun triple => "target triple = \"" ++ triple ++ "\"\n\n") ++
    (if layout.definitions.isEmpty then "" else endLines layout.definitions ++ "\n") ++
    ("define i32 @" ++ spelling.entry ++ "() \x7b\n") ++
    endLines ((layout.body ++ [returning]).map (Text.spaces spelling.indent ++ ·)) ++ "\x7d\n" ++
    (if layout.declarations.isEmpty then "" else "\n" ++ endLines layout.declarations)

/-- Lines that stay on one line each and look like lines of their section. -/
structure Tidy (layout : Layout) : Prop where
  definitions : ∀ line ∈ layout.definitions, line.toList.head? = some '@' ∧ Lacks '\n' line
  body : ∀ line ∈ layout.body, line ≠ returning ∧ Lacks '\n' line
  declarations : ∀ line ∈ layout.declarations, Lacks '\n' line

/-! ### Reading -/

/-- The lines before the definitions. -/
def targetLines (spelling : Spelling) : List (List Char) :=
  spelling.triple.elim [] fun triple =>
    Text.fields '\n' ("target triple = \"" ++ triple ++ "\"").toList ++ [[]]

/-- The lines between the definitions and the body. -/
def openingLines (spelling : Spelling) (definitions : List (List Char)) : List (List Char) :=
  (if definitions.isEmpty then [] else [[]]) ++
    Text.fields '\n' ("define i32 @" ++ spelling.entry ++ "() \x7b").toList

/-- Whether a line is a definition. -/
def isDefinition (line : List Char) : Bool :=
  line.head? = some '@'

/-- A line of the body behind its margin. -/
def indented (spelling : Spelling) (line : String) : List Char :=
  List.replicate spelling.indent ' ' ++ line.toList

/-- Whether a line of the function comes before the one that returns. -/
def isInside (spelling : Spelling) (line : List Char) : Bool :=
  line ≠ indented spelling returning

/-- The declarations, from the lines that begin with the one that returns. -/
def readClosing? : List (List Char) → Option (List (List Char))
  | [_, ['\x7d']] => some []
  | _ :: ['\x7d'] :: [] :: declarations => some declarations
  | _ => none

/-- Read the lines of a module that is spelled in a known way. -/
def read? (spelling : Spelling) (text : String) : Option Layout := do
  let lines ← (targetLines spelling).isPrefixOf? (Text.lines text.toList)
  let definitions := lines.takeWhile isDefinition
  let lines ← (openingLines spelling definitions).isPrefixOf? (lines.dropWhile isDefinition)
  let body ← (lines.takeWhile (isInside spelling)).mapM
    (List.replicate spelling.indent ' ').isPrefixOf?
  let declarations ← readClosing? (lines.dropWhile (isInside spelling))
  return ⟨definitions.map String.ofList, body.map String.ofList, declarations.map String.ofList⟩

/-! ### The lines of a spelled layout -/

/-- The lines behind the one that returns. -/
def closingLines (declarations : List (List Char)) : List (List Char) :=
  ['\x7d'] :: if declarations.isEmpty then [] else [] :: declarations

theorem laysOut_target (spelling : Spelling) :
    LaysOut (spelling.triple.elim "" fun triple => "target triple = \"" ++ triple ++ "\"\n\n")
      (targetLines spelling) := by
  unfold targetLines
  cases spelling.triple with
  | none => exact laysOut_nothing
  | some triple =>
    have ended : "target triple = \"" ++ triple ++ "\"\n\n" =
        ("target triple = \"" ++ triple ++ "\"") ++ "\n" ++ ("" ++ "\n") := by
      rw [← String.toList_inj]
      simp
    simp only [Option.elim_some, ended]
    exact (laysOut_fields _).append (laysOut_line (by decide))

theorem laysOut_definitions {definitions : List String} (spelling : Spelling)
    (oneLine : ∀ line ∈ definitions, Lacks '\n' line) :
    LaysOut
      ((if definitions.isEmpty then "" else endLines definitions ++ "\n") ++
        ("define i32 @" ++ spelling.entry ++ "() \x7b\n"))
      (definitions.map String.toList ++
        openingLines spelling (definitions.map String.toList)) := by
  have opening : LaysOut ("define i32 @" ++ spelling.entry ++ "() \x7b\n")
      (Text.fields '\n' ("define i32 @" ++ spelling.entry ++ "() \x7b").toList) := by
    have ended : "define i32 @" ++ spelling.entry ++ "() \x7b\n" =
        "define i32 @" ++ spelling.entry ++ "() \x7b" ++ "\n" := by
      rw [← String.toList_inj]
      simp
    rw [ended]
    exact laysOut_fields _
  cases definitions with
  | nil => exact laysOut_nothing.append opening
  | cons first others =>
    have blank : LaysOut "\n" [[]] := @laysOut_line "" (by decide)
    have joined := ((laysOut_endLines oneLine).append blank).append opening
    rwa [List.append_assoc] at joined

theorem laysOut_body {body : List String} (spelling : Spelling)
    (oneLine : ∀ line ∈ body, Lacks '\n' line) :
    LaysOut (endLines ((body ++ [returning]).map (Text.spaces spelling.indent ++ ·)))
      ((body ++ [returning]).map (indented spelling)) := by
  have lines : ∀ line ∈ (body ++ [returning]).map (Text.spaces spelling.indent ++ ·),
      Lacks '\n' line := by
    intro line member
    obtain ⟨content, inside, rfl⟩ := List.mem_map.1 member
    refine Text.lacks_append.2 ⟨Text.lacks_spaces (by decide) spelling.indent, ?_⟩
    rcases List.mem_append.1 inside with early | last
    · exact oneLine content early
    · cases List.mem_singleton.1 last
      decide
  have laysOut := laysOut_endLines lines
  rw [List.map_map] at laysOut
  convert laysOut using 2
  funext line
  simp [indented, Text.spaces]

theorem laysOut_closing {declarations : List String}
    (oneLine : ∀ line ∈ declarations, Lacks '\n' line) :
    LaysOut ("\x7d\n" ++ (if declarations.isEmpty then "" else "\n" ++ endLines declarations))
      (closingLines (declarations.map String.toList)) := by
  have brace : LaysOut "\x7d\n" [['\x7d']] := @laysOut_line "\x7d" (by decide)
  cases declarations with
  | nil => exact brace.append laysOut_nothing
  | cons first others =>
    have blank : LaysOut "\n" [[]] := @laysOut_line "" (by decide)
    exact brace.append (blank.append (laysOut_endLines oneLine))

/-- The lines of a module, section by section. -/
theorem lines_text {layout : Layout} (tidy : layout.Tidy) (spelling : Spelling) :
    Text.lines (layout.text spelling).toList =
      targetLines spelling ++
        (layout.definitions.map String.toList ++
          openingLines spelling (layout.definitions.map String.toList)) ++
        (layout.body ++ [returning]).map (indented spelling) ++
        closingLines (layout.declarations.map String.toList) := by
  have definitions := laysOut_definitions spelling fun line member =>
    (tidy.definitions line member).2
  have body := laysOut_body spelling fun line member => (tidy.body line member).2
  have closing := laysOut_closing tidy.declarations
  have joined := (((laysOut_target spelling).append definitions).append body).append closing
  rw [← joined.lines_eq, text]
  simp only [String.append_assoc]

/-! ### Reading back -/

/-- No definition opens the function. -/
theorem head_openingLines (spelling : Spelling) (definitions rest : List (List Char)) :
    ∀ line ∈ (openingLines spelling definitions ++ rest).head?, isDefinition line = false := by
  unfold openingLines
  cases definitions with
  | cons first others => simp [isDefinition]
  | nil =>
    have opening : ("define i32 @" ++ spelling.entry ++ "() \x7b").toList =
        'd' :: ("efine i32 @" ++ spelling.entry ++ "() \x7b").toList := by
      simp
    obtain ⟨first, others, pieces⟩ := @Text.exists_fields_cons '\n' 'd' (by decide)
      ("efine i32 @" ++ spelling.entry ++ "() \x7b").toList
    rw [opening, pieces]
    simp [isDefinition]

theorem Tidy.isDefinition {layout : Layout} (tidy : layout.Tidy) :
    ∀ line ∈ layout.definitions.map String.toList, Layout.isDefinition line := by
  intro line member
  obtain ⟨definition, inside, rfl⟩ := List.mem_map.1 member
  simpa [Layout.isDefinition] using (tidy.definitions definition inside).1

theorem readClosing?_closingLines (line : List Char) (declarations : List (List Char)) :
    readClosing? (line :: closingLines declarations) = some declarations := by
  cases declarations <;> rfl

/-- Tidy lines can be read back from the text of their module. -/
theorem read?_text {layout : Layout} (tidy : layout.Tidy) (spelling : Spelling) :
    read? spelling (layout.text spelling) = some layout := by
  obtain ⟨definitions, body, declarations⟩ := layout
  have inside : ∀ line ∈ body.map (indented spelling), isInside spelling line := by
    intro line member
    obtain ⟨content, contentMember, rfl⟩ := List.mem_map.1 member
    have different := (tidy.body content contentMember).1
    simpa [isInside, indented, String.toList_inj] using different
  have atReturn (rest : List (List Char)) :
      ∀ line ∈ (indented spelling returning :: rest).head?, isInside spelling line = false := by
    simp [isInside]
  have lines := lines_text tidy spelling
  simp only [List.append_assoc, List.map_append, List.map_singleton, List.singleton_append]
    at lines
  have cutDefinitions (rest : List (List Char)) := takeWhile_dropWhile_append tidy.isDefinition
    (head_openingLines spelling (definitions.map String.toList) rest)
  have unindented : (body.map (indented spelling)).mapM
      (List.replicate spelling.indent ' ').isPrefixOf? = some (body.map String.toList) :=
    mapM_map_eq_some fun line _ => isPrefixOf?_append _ line.toList
  have cutBody (rest : List (List Char)) := takeWhile_dropWhile_append inside (atReturn rest)
  simp only [read?, lines, Option.bind_eq_bind, isPrefixOf?_append, Option.bind_some,
    cutDefinitions, cutBody, unindented, readClosing?_closingLines]
  simp

end Layout

/-- The lines of a program, which depend on the spelling of pointers only. -/
def Program.layout (pointers : Pointers) (program : Program) : Layout where
  definitions := program.pool.definitions
  body := program.body.map (Line.spell pointers)
  declarations := program.externals.required.map (·.declaration pointers)

theorem Program.poolSection_eq (program : Program) :
    program.poolSection =
      if program.pool.definitions.isEmpty then ""
      else endLines program.pool.definitions ++ "\n" := by
  unfold poolSection
  cases texts : program.pool.texts with
  | nil => simp [Pool.definitions, texts]
  | cons first others => simp [Pool.definitions, texts]

theorem Program.externalSection_eq (program : Program) (spelling : Spelling) :
    program.externalSection spelling =
      if (program.externals.required.map (·.declaration spelling.pointers)).isEmpty then ""
      else "\n" ++ endLines (program.externals.required.map (·.declaration spelling.pointers)) := by
  unfold externalSection
  cases program.externals.required <;> rfl

/-- The text of a program is that of its layout. -/
theorem Program.text_eq_layout (program : Program) (spelling : Spelling) :
    program.text spelling = (program.layout spelling.pointers).text spelling := by
  unfold text Layout.text targetSection functionSection bodyLines
  rw [poolSection_eq, externalSection_eq]
  simp only [String.append_assoc]
  rfl

end Stackline.Code
