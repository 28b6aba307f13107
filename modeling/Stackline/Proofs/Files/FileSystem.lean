import Mathlib
import Stackline.Files.Dialogue
import Stackline.Proofs.Except

/-!
# Laws of file systems

A write sets the file that its path leads to and no other (`sets_of_write`). Files are written
where no directory stands, so that a write moves no path: where a path leads to be read depends on
the directories alone, and where it leads to be written on the files that are read only besides
(`SameDirectories.source_eq_ok_iff`, `SameDirectories.target_eq_ok_iff`).
-/

namespace Stackline.Files

namespace FileSystem

/-! ### Entries -/

theorem lookup_filter_ne {entries : List (Location × Entry)} {location other : Location}
    (different : other ≠ location) :
    (entries.filter (·.1 ≠ location)).lookup other = entries.lookup other := by
  induction entries with
  | nil => rfl
  | cons entry rest inductionHypothesis =>
    obtain ⟨place, content⟩ := entry
    by_cases here : place = location
    · subst here
      have missed : (other == place) = false := beq_false_of_ne different
      rw [List.filter_cons_of_neg (by simp), inductionHypothesis, List.lookup_cons, missed]
    · rw [List.filter_cons_of_pos (by simpa using here), List.lookup_cons, List.lookup_cons,
        inductionHypothesis]

theorem entry?_setEntry_self {system : FileSystem} {location : Location} (inner : location ≠ [])
    (entry : Entry) : entry? (system.setEntry location entry) location = some entry := by
  unfold entry? setEntry
  simp [inner]

/-- Setting an entry changes no other. -/
theorem entry?_setEntry_other {system : FileSystem} {location other : Location}
    (different : other ≠ location) (entry : Entry) :
    entry? (system.setEntry location entry) other = system.entry? other := by
  have missed : (other == location) = false := beq_false_of_ne different
  unfold entry? setEntry
  rw [List.lookup_cons, missed, lookup_filter_ne different]

/-! ### Paths -/

/-- Two systems in which the same paths lead to the same locations: they have the same
directories, and files cannot be written at the same places. -/
structure SameDirectories (before after : FileSystem) : Prop where
  workingDirectory : after.workingDirectory = before.workingDirectory
  readOnly : after.readOnly = before.readOnly
  directory : ∀ location,
    after.entry? location = some .directory ↔ before.entry? location = some .directory

theorem SameDirectories.refl (system : FileSystem) : system.SameDirectories system :=
  ⟨rfl, rfl, fun _ => Iff.rfl⟩

theorem SameDirectories.trans {before middle after : FileSystem}
    (first : before.SameDirectories middle) (second : middle.SameDirectories after) :
    before.SameDirectories after :=
  ⟨second.workingDirectory.trans first.workingDirectory, second.readOnly.trans first.readOnly,
    fun location => (second.directory location).trans (first.directory location)⟩

/-- A component leads to a directory that the system has. -/
theorem enter_eq_ok_iff {system : FileSystem} {location inner : Location} {component : String} :
    system.enter location component = .ok inner ↔
      if component = "" ∨ component = "." then inner = location
      else if component = ".." then inner = location.dropLast
      else location.named component = .ok inner ∧ system.entry? inner = some .directory := by
  unfold enter
  split_ifs with here up
  · simp [eq_comm]
  · simp [eq_comm]
  · rw [bind_eq_ok_iff]
    constructor
    · rintro ⟨place, named, entered⟩
      split at entered
      · cases entered
      · cases entered
      · rename_i found
        cases entered
        exact ⟨named, found⟩
    · rintro ⟨named, found⟩
      exact ⟨inner, named, by simp only [found]⟩

namespace SameDirectories

variable {before after : FileSystem}

theorem enter_eq_ok_iff (same : before.SameDirectories after) {location inner : Location}
    {component : String} :
    after.enter location component = .ok inner ↔ before.enter location component = .ok inner := by
  rw [FileSystem.enter_eq_ok_iff, FileSystem.enter_eq_ok_iff, same.directory]

theorem walk_eq_ok_iff (same : before.SameDirectories after) {path : List String}
    {location inner : Location} :
    after.walk location path = .ok inner ↔ before.walk location path = .ok inner := by
  induction path generalizing location with
  | nil => exact Iff.rfl
  | cons component rest inductionHypothesis =>
    unfold walk at inductionHypothesis ⊢
    simp only [List.foldlM_cons, bind_eq_ok_iff, same.enter_eq_ok_iff, inductionHypothesis]

/-- A path leads to a file to be read where it led before. -/
theorem source_eq_ok_iff (same : before.SameDirectories after) {path : String}
    {location : Location} :
    after.source path = .ok location ↔ before.source path = .ok location := by
  unfold source
  split
  · exact Iff.rfl
  · simp only [bind_eq_ok_iff, origin, same.workingDirectory, same.walk_eq_ok_iff]

end SameDirectories

/-- A path with a name at its end keeps all of its components. -/
theorem dropEmptyEnd_concat {parts : List String} {name : String} (named : name ≠ "") :
    dropEmptyEnd (parts ++ [name]) = parts ++ [name] := by
  simp [dropEmptyEnd, named]

theorem length_dropEmptyEnd_concat (parts : List String) :
    (dropEmptyEnd (parts ++ [""])).length ≠ (parts ++ [""]).length := by
  have dropped : dropEmptyEnd (parts ++ [""]) = dropEmptyEnd parts := by
    simp [dropEmptyEnd]
  have kept : (dropEmptyEnd parts).length ≤ parts.length := by
    unfold dropEmptyEnd
    rw [List.length_reverse]
    exact (List.dropWhile_sublist _).length_le.trans_eq List.length_reverse
  rw [dropped, List.length_append, List.length_singleton]
  omega

/-- A file can be written where one can be read, unless a directory stands there or the place is
read only. -/
theorem target_eq_ok_iff {system : FileSystem} {path : String} {location : Location} :
    system.target path = .ok location ↔
      system.source path = .ok location ∧ system.entry? location ≠ some .directory ∧
        location ∉ system.readOnly := by
  unfold target source
  split
  · simp
  · rcases List.eq_nil_or_concat (components path) with none | ⟨parts, name, given⟩
    · simp [none, dropEmptyEnd, isDirectoryName, bind_eq_ok_iff]
    · rw [List.concat_eq_append] at given
      by_cases named : name = ""
      · subst named
        have short := length_dropEmptyEnd_concat parts
        simp only [given, if_pos (Or.inr short), List.getLastD_concat, isDirectoryName,
          bind_eq_ok_iff]
        simp
      · simp only [given, dropEmptyEnd_concat named, List.dropLast_concat, List.getLastD_concat,
          bind_eq_ok_iff, ne_eq, not_true_eq_false, or_false]
        constructor
        · rintro ⟨directory, walked, placed⟩
          split_ifs at placed with special
          obtain ⟨place, found, placed⟩ := bind_eq_ok_iff.1 placed
          split_ifs at placed with occupied guarded
          cases placed
          exact ⟨⟨directory, walked, by rw [if_neg special, found]⟩, occupied, guarded⟩
        · rintro ⟨⟨directory, walked, placed⟩, free, writable⟩
          split_ifs at placed with special
          refine ⟨directory, walked, ?_⟩
          rw [if_neg special, bind_eq_ok_iff]
          exact ⟨location, placed, by rw [if_neg free, if_neg writable]⟩

namespace SameDirectories

variable {before after : FileSystem}

/-- A path leads to a file to be written where it led before. -/
theorem target_eq_ok_iff (same : before.SameDirectories after) {path : String}
    {location : Location} :
    after.target path = .ok location ↔ before.target path = .ok location := by
  rw [FileSystem.target_eq_ok_iff, FileSystem.target_eq_ok_iff, same.source_eq_ok_iff, ne_eq,
    same.directory, same.readOnly]

end SameDirectories

/-! ### Reading and writing -/

theorem read_eq_ok_iff {system : FileSystem} {path : String} {content : ByteArray} :
    system.read path = .ok content ↔
      ∃ location, system.source path = .ok location ∧
        system.entry? location = some (.file content) := by
  unfold read contentAt
  cases system.source path with
  | error error => simp
  | ok location =>
    simp only [Except.ok.injEq, exists_eq_left']
    split <;> simp_all

theorem ne_nil_of_source {system : FileSystem} {path : String} {location : Location}
    (leads : system.source path = .ok location) : location ≠ [] := by
  unfold source at leads
  split at leads
  · cases leads
  · obtain ⟨directory, _, placed⟩ := bind_eq_ok_iff.1 leads
    simp only [Location.named] at placed
    split_ifs at placed
    cases placed
    exact List.append_ne_nil_of_right_ne_nil _ (List.cons_ne_nil _ _)

/-- A write sets the file that its path leads to, and changes nothing else. -/
structure Sets (path : String) (content : ByteArray) (before after : FileSystem) : Prop where
  written : ∃ location, before.target path = .ok location ∧
    after.entry? location = some (.file content) ∧
    ∀ other, other ≠ location → after.entry? other = before.entry? other
  directories : before.SameDirectories after

theorem sets_of_write {path : String} {content : ByteArray} {before after : FileSystem}
    (written : before.write path content = .ok after) : Sets path content before after := by
  unfold write at written
  cases leads : before.target path with
  | error error => simp [leads, Except.map] at written
  | ok location =>
    simp only [leads, Except.map, Except.ok.injEq] at written
    subst written
    obtain ⟨source, free, -⟩ := target_eq_ok_iff.1 leads
    have inner := ne_nil_of_source source
    refine ⟨⟨location, leads, entry?_setEntry_self inner _,
      fun other different => entry?_setEntry_other different _⟩, rfl, rfl, ?_⟩
    intro other
    by_cases here : other = location
    · subst here
      rw [entry?_setEntry_self inner]
      simp [free]
    · rw [entry?_setEntry_other here]

end FileSystem

/-! ### Dialogues -/

namespace Dialogue

variable {α β : Type}

/-- Work that goes on with a result is held with the system that the result was left with. -/
theorem run_bind (system : FileSystem) (dialogue : Dialogue α) (next : α → Dialogue β) :
    (dialogue >>= next).run system =
      (next (dialogue.run system).1).run (dialogue.run system).2 := by
  change (dialogue.andThen next).run system = _
  induction dialogue generalizing system with
  | done result => rfl
  | read path answer inductionHypothesis => exact inductionHypothesis _ system
  | write path content answer inductionHypothesis =>
    simp only [andThen, run]
    cases system.write path content with
    | error error => exact inductionHypothesis _ system
    | ok changed => exact inductionHypothesis _ changed

end Dialogue

end Stackline.Files
