import Mathlib.Data.List.Induction
import Mathlib.Data.List.Nodup
import Stackline.Code.External

/-!
# Pooled texts and required functions

Both collections keep what was asked for once, in the order in which it was asked for
first. The table of a pool and its texts agree from the start, and interning keeps them in
agreement (`Pool.Indexed.intern`). What a text was handed out as stays good: texts are only
added behind those that are there.
-/

namespace Stackline.Code

/-! ### First uses -/

section FirstUses

variable {α : Type} [BEq α] [LawfulBEq α]

/-- One more use counts if it is the first. -/
theorem eraseDups_concat (uses : List α) (item : α) :
    (uses ++ [item]).eraseDups =
      if item ∈ uses then uses.eraseDups else uses.eraseDups ++ [item] := by
  rw [List.eraseDups_append]
  by_cases used : item ∈ uses
  · simp [List.removeAll, used]
  · simp [List.removeAll, used, List.eraseDups_cons]

theorem nodup_eraseDups (uses : List α) : uses.eraseDups.Nodup := by
  induction uses using List.reverseRecOn with
  | nil => exact List.nodup_nil
  | append_singleton uses item inductionHypothesis =>
    rw [eraseDups_concat]
    split
    · exact inductionHypothesis
    · rename_i unused
      rw [List.nodup_append]
      refine ⟨inductionHypothesis, by simp, ?_⟩
      rintro first member _ last rfl
      rw [List.mem_singleton] at last
      exact unused (List.mem_eraseDups.1 (last ▸ member))

end FirstUses

/-! ### Texts -/

/-- A text is known by its bytes. -/
theorem utf8_injective : Function.Injective utf8 := by
  intro text other same
  rw [← String.toByteArray_inj, ← @String.ofList_toList text, ← @String.ofList_toList other,
    String.toByteArray_ofList, String.toByteArray_ofList]
  simp only [utf8] at same
  simp [List.utf8Encode, same]

/-- A pooled text is known by its place, and its size counts the closing zero byte. -/
structure Pooled.Names (texts : List String) (text : String) (pooled : Pooled) : Prop where
  positive : 0 < pooled.id
  found : texts[pooled.id - 1]? = some text
  size : pooled.size = (utf8 text).length + 1

/-- A place in a list stays what it is when the list grows. -/
theorem getElem?_of_prefix {α : Type} {items more : List α} {index : Nat} {item : α}
    (grown : items <+: more) (found : items[index]? = some item) : more[index]? = some item := by
  obtain ⟨rest, rfl⟩ := grown
  have bound := (List.getElem?_eq_some_iff.1 found).1
  rw [List.getElem?_append_left bound]
  exact found

theorem Pooled.Names.mono {texts more : List String} {text : String} {pooled : Pooled}
    (names : pooled.Names texts text) (grown : texts <+: more) : pooled.Names more text :=
  ⟨names.positive, getElem?_of_prefix grown names.found, names.size⟩

namespace Pool

/-- The table of a pool gives each text the number of its place, and no text has two places. -/
structure Indexed (pool : Pool) : Prop where
  once : pool.texts.Nodup
  numbers : pool.numbers = (pool.texts.zipIdx 1).reverse

theorem indexed_empty : empty.Indexed :=
  ⟨List.nodup_nil, rfl⟩

/-- In a table without double keys, what is found is what is there. -/
theorem lookup_eq_some_iff_mem {entries : List (String × Nat)}
    (once : (entries.map Prod.fst).Nodup) {text : String} {number : Nat} :
    entries.lookup text = some number ↔ (text, number) ∈ entries := by
  rw [List.lookup_eq_some_iff]
  constructor
  · rintro ⟨before, after, rfl, -⟩
    simp
  · intro member
    obtain ⟨before, after, rfl⟩ := List.append_of_mem member
    rw [List.map_append, List.map_cons, List.nodup_middle, List.nodup_cons] at once
    refine ⟨before, after, rfl, fun entry earlier => bne_iff_ne.2 fun same => once.1 ?_⟩
    exact List.mem_append_left _ (List.mem_map.2 ⟨entry, earlier, same.symm⟩)

namespace Indexed

variable {pool : Pool}

/-- The table finds a text under its place, counted from one, and under nothing else. -/
theorem lookup_eq_some_iff (indexed : pool.Indexed) {text : String} {number : Nat} :
    pool.numbers.lookup text = some number ↔
      0 < number ∧ pool.texts[number - 1]? = some text := by
  have once : (pool.numbers.map Prod.fst).Nodup := by
    rw [indexed.numbers, List.map_reverse, List.zipIdx_map_fst, List.nodup_reverse]
    exact indexed.once
  rw [lookup_eq_some_iff_mem once, indexed.numbers, List.mem_reverse,
    List.mk_mem_zipIdx_iff_le_and_getElem?_sub]
  exact Iff.rfl

/-- The table knows the texts that are stored. -/
theorem lookup_eq_none_iff (indexed : pool.Indexed) {text : String} :
    pool.numbers.lookup text = none ↔ text ∉ pool.texts := by
  rw [Option.eq_none_iff_forall_ne_some, ← not_iff_not, not_not, List.mem_iff_getElem?]
  simp only [ne_eq, not_forall, not_not, indexed.lookup_eq_some_iff]
  constructor
  · rintro ⟨number, -, found⟩
    exact ⟨number - 1, found⟩
  · rintro ⟨index, found⟩
    exact ⟨index + 1, Nat.succ_pos index, found⟩

/-- Interning keeps table and texts in agreement. -/
theorem intern (indexed : pool.Indexed) (text : String) : (pool.intern text).2.Indexed := by
  unfold Pool.intern
  split
  · exact indexed
  · rename_i missing
    refine ⟨?_, ?_⟩
    · have fresh := indexed.lookup_eq_none_iff.1 missing
      exact List.nodup_append_comm.1 (List.nodup_cons.2 ⟨fresh, indexed.once⟩)
    · simp [indexed.numbers, List.zipIdx_append, Nat.add_comm]

/-- The texts of a pool tell all of it. -/
theorem eq_of_texts_eq (indexed : pool.Indexed) {other : Pool} (indexedToo : other.Indexed)
    (same : other.texts = pool.texts) : other = pool := by
  obtain ⟨texts, numbers⟩ := pool
  obtain ⟨otherTexts, otherNumbers⟩ := other
  obtain rfl : otherTexts = texts := same
  exact congrArg _ (indexedToo.numbers.trans indexed.numbers.symm)

end Indexed

/-- Interning a text takes none away. -/
theorem intern_grows (pool : Pool) (text : String) :
    pool.texts <+: (pool.intern text).2.texts := by
  unfold intern
  split
  · exact List.prefix_refl _
  · exact List.prefix_append _ _

/-- An interned text is found under its number. -/
theorem names_intern {pool : Pool} (indexed : pool.Indexed) (text : String) :
    (pool.intern text).1.Names (pool.intern text).2.texts text := by
  unfold intern
  split
  · rename_i id found
    obtain ⟨positive, placed⟩ := indexed.lookup_eq_some_iff.1 found
    exact ⟨positive, placed, rfl⟩
  · exact ⟨by simp, by simp, rfl⟩

/-- If the pool holds the texts of all uses, it still does after one more. -/
theorem texts_intern {pool : Pool} (indexed : pool.Indexed) {uses : List String}
    (held : pool.texts = uses.eraseDups) (text : String) :
    (pool.intern text).2.texts = (uses ++ [text]).eraseDups := by
  have member : text ∈ pool.texts ↔ text ∈ uses := by
    rw [held, List.mem_eraseDups]
  rw [eraseDups_concat, ← held]
  unfold intern
  split
  · rename_i id found
    obtain ⟨-, placed⟩ := indexed.lookup_eq_some_iff.1 found
    rw [if_pos (member.1 (List.mem_of_getElem? placed))]
  · rename_i missing
    rw [if_neg (mt member.2 (indexed.lookup_eq_none_iff.1 missing))]

/-- The definition of a pooled text stands at its place and has its size. -/
theorem definitions_getElem? {pool : Pool} {text : String} {pooled : Pooled}
    (names : pooled.Names pool.texts text) :
    pool.definitions[pooled.id - 1]? = some (definition pooled text) := by
  have place : pooled.id - 1 + 1 = pooled.id := Nat.sub_add_cancel names.positive
  have size : storedSize text = pooled.size := names.size.symm
  simp [definitions, names.found, place, size]

end Pool

/-- If the required functions are those of all demands, they still are after one more. -/
theorem Externals.required_require {externals : Externals} {demands : List External}
    (held : externals.required = demands.eraseDups) (external : External) :
    (externals.require external).required = (demands ++ [external]).eraseDups := by
  rw [eraseDups_concat, ← held]
  have member : external ∈ externals.required ↔ external ∈ demands := by
    rw [held, List.mem_eraseDups]
  unfold require
  by_cases demanded : external ∈ demands
  · rw [if_pos (member.2 demanded), if_pos demanded]
  · rw [if_neg (mt member.1 demanded), if_neg demanded]

end Stackline.Code
