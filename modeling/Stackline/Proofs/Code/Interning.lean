import Mathlib
import Stackline.Proofs.Code.Definition
import Stackline.Proofs.Code.Pool

/-!
# Texts interned one after the other

A pool that texts are handed to in any order and any number of times. It keeps each text once, at
the place of its first use, and its table gives this place and no other. What a text is handed out
as is its place and its size in bytes, and stays right whatever is interned later. Every stored
text can be told from its definition, though the characters between the quotes are printable ASCII
whatever the text is.
-/

namespace Stackline.Code

/-! ### Bytes of a text -/

theorem toList_toUTF8 (text : String) : text.toUTF8.data.toList = utf8 text := by
  change text.toByteArray.data.toList = utf8 text
  rw [← @String.ofList_toList text, String.toByteArray_ofList]
  simp [utf8, List.utf8Encode]

theorem length_utf8 (text : String) : (utf8 text).length = text.utf8ByteSize := by
  rw [← toList_toUTF8, Array.length_toList]
  rfl

/-! ### Runs -/

/-- A line defines a text under a number: it reads back as the bytes of the text with a zero byte
behind them and their count, and has only printable characters between its quotes. -/
structure Defines (number : Nat) (text line : String) : Prop where
  reads : readDefinition? line.toList =
    some ⟨number, (text.toUTF8.data.toList ++ [0]).length, text.toUTF8.data.toList ++ [0]⟩
  quotable : Quotable (quotedPart line.toList)

namespace Pool

/-- Intern texts one after the other: what each is handed out as, and the pool at the end. -/
def internEach (pool : Pool) : List String → List Pooled × Pool
  | [] => ([], pool)
  | text :: rest =>
    ((pool.intern text).1 :: ((pool.intern text).2.internEach rest).1,
      ((pool.intern text).2.internEach rest).2)

/-- Table and texts agree after any run. -/
theorem Indexed.internEach {pool : Pool} (indexed : pool.Indexed) (uses : List String) :
    (pool.internEach uses).2.Indexed := by
  induction uses generalizing pool with
  | nil => exact indexed
  | cons text rest inductionHypothesis => exact inductionHypothesis (indexed.intern text)

/-- Interning takes no text away. -/
theorem internEach_grows (pool : Pool) (uses : List String) :
    pool.texts <+: (pool.internEach uses).2.texts := by
  induction uses generalizing pool with
  | nil => exact List.prefix_refl _
  | cons text rest inductionHypothesis =>
    exact (pool.intern_grows text).trans (inductionHypothesis (pool.intern text).2)

/-- If the pool holds the texts of all uses, it still does after more of them. -/
theorem texts_internEach {pool : Pool} (indexed : pool.Indexed) {uses : List String}
    (held : pool.texts = uses.eraseDups) (more : List String) :
    (pool.internEach more).2.texts = (uses ++ more).eraseDups := by
  induction more generalizing pool uses with
  | nil => rw [List.append_nil, ← held, internEach]
  | cons text rest inductionHypothesis =>
    have step := inductionHypothesis (indexed.intern text) (texts_intern indexed held text)
    rwa [List.append_assoc, List.singleton_append] at step

/-- Every text is found under its number at the end. -/
theorem names_internEach {pool : Pool} (indexed : pool.Indexed) (uses : List String) :
    List.Forall₂ (fun text pooled => Pooled.Names (pool.internEach uses).2.texts text pooled)
      uses (pool.internEach uses).1 := by
  induction uses generalizing pool with
  | nil => exact .nil
  | cons text rest inductionHypothesis =>
    have grown := (pool.intern text).2.internEach_grows rest
    exact .cons ((names_intern indexed text).mono grown)
      (inductionHypothesis (indexed.intern text))

/-- The definitions of a pool are those of its texts, by their places. -/
theorem definitions_define (pool : Pool) :
    List.Forall₂ (fun (text, index) line => Defines (index + 1) text line)
      pool.texts.zipIdx pool.definitions := by
  rw [definitions, List.mapIdx_eq_zipIdx_map, List.forall₂_map_right_iff, List.forall₂_same]
  rintro ⟨text, index⟩ _
  constructor
  · rw [readDefinition?_definition, toList_toUTF8, List.length_append, List.length_singleton]
    rfl
  · rw [quotedPart_definition]
    exact quotable_flatMap _

end Pool

/-- Numbers tell the texts of a pool apart. -/
theorem Pooled.Names.id_eq_iff {texts : List String} (once : texts.Nodup) {text other : String}
    {pooled second : Pooled} (names : pooled.Names texts text)
    (namesToo : second.Names texts other) :
    pooled.id = second.id ↔ text = other := by
  have found := names.found
  have foundToo := namesToo.found
  constructor
  · intro same
    rw [same, foundToo] at found
    exact (Option.some.inj found).symm
  · rintro rfl
    obtain ⟨_, here⟩ := List.getElem?_eq_some_iff.1 found
    obtain ⟨_, hereToo⟩ := List.getElem?_eq_some_iff.1 foundToo
    have places := once.getElem_inj_iff.1 (here.trans hereToo.symm)
    have positive := names.positive
    have positiveToo := namesToo.positive
    omega

/-- Texts that are interned into an empty pool, and others behind them: the pool keeps the distinct
texts in the order of their first uses, and its table gives a text a number exactly if the text
stands at that place, counted from one. Each text is handed out as its place, counted from one,
and as its size in bytes with a zero byte; this stays so behind the others. Two texts have one
number exactly if they are equal. The definitions read back as the texts, in their order. -/
theorem interned_texts_faithful (uses others : List String) :
    (Pool.empty.internEach uses).2.texts = uses.eraseDups ∧
      (∀ text number, (Pool.empty.internEach uses).2.numbers.lookup text = some number ↔
        0 < number ∧ (Pool.empty.internEach uses).2.texts[number - 1]? = some text) ∧
      List.Forall₂ (fun text pooled => 0 < pooled.id ∧
          (Pool.empty.internEach uses).2.texts[pooled.id - 1]? = some text ∧
          ((Pool.empty.internEach uses).2.internEach others).2.texts[pooled.id - 1]? = some text ∧
          pooled.size = text.utf8ByteSize + 1)
        uses (Pool.empty.internEach uses).1 ∧
      (∀ first ∈ uses.zip (Pool.empty.internEach uses).1,
        ∀ second ∈ uses.zip (Pool.empty.internEach uses).1,
          first.2.id = second.2.id ↔ first.1 = second.1) ∧
      List.Forall₂ (fun (text, index) line => Defines (index + 1) text line)
        (Pool.empty.internEach uses).2.texts.zipIdx (Pool.empty.internEach uses).2.definitions := by
  have indexed := Pool.indexed_empty.internEach uses
  have texts : (Pool.empty.internEach uses).2.texts = uses.eraseDups :=
    @Pool.texts_internEach Pool.empty Pool.indexed_empty [] rfl uses
  have names := Pool.names_internEach Pool.indexed_empty uses
  refine ⟨texts, fun text number => indexed.lookup_eq_some_iff, ?_, ?_, Pool.definitions_define _⟩
  · refine names.imp fun text pooled named => ?_
    have grown := (Pool.empty.internEach uses).2.internEach_grows others
    exact ⟨named.positive, named.found, (named.mono grown).found, length_utf8 text ▸ named.size⟩
  · rintro ⟨text, pooled⟩ member ⟨other, second⟩ memberToo
    exact (List.forall₂_zip names member).id_eq_iff indexed.once (List.forall₂_zip names memberToo)

/-- A text that looks like the escape of another. -/
theorem interned_texts_faithful_escape_alike :
    (Pool.empty.internEach ["\\0A", "\n", "\\0A"]).1 = [⟨1, 4⟩, ⟨2, 2⟩, ⟨1, 4⟩] ∧
      Defines 1 "\\0A" "@str1 = private unnamed_addr constant [4 x i8] c\"\\5C0A\\00\"" ∧
      Defines 2 "\n" "@str2 = private unnamed_addr constant [2 x i8] c\"\\0A\\00\"" := by
  have definitions : (Pool.empty.internEach ["\\0A", "\n", "\\0A"]).2.definitions =
      ["@str1 = private unnamed_addr constant [4 x i8] c\"\\5C0A\\00\"",
        "@str2 = private unnamed_addr constant [2 x i8] c\"\\0A\\00\""] := by
    decide +kernel
  obtain ⟨_, _, _, _, define⟩ := interned_texts_faithful ["\\0A", "\n", "\\0A"] []
  rw [definitions] at define
  cases define with
  | cons first rest =>
    cases rest with
    | cons second _ => exact ⟨by decide +kernel, first, second⟩

end Stackline.Code
