import Mathlib
import Stackline.Console.Arguments
import Stackline.Proofs.Text.Lines

/-!
# Global options anywhere

A command line is made of items, a plain word or an option with what belongs to it, in any order,
and may end with words behind a separator. Each item is collected on its own
(`collect_item`), so that options and plain words do not get in each other's way. The only command
lines that are not made of items end with an option that lacks its value.
-/

namespace Stackline.Console

open Stackline.Compile
open Stackline.Text

/-! ### Roles of words -/

/-- A word that is neither the separator nor an option, with or without a value in it. -/
structure IsPlain (word : String) : Prop where
  notSeparator : word ≠ "--"
  notSwitch : ∀ chosen : Switch, word ≠ chosen.flag
  notBare : ∀ option : ValueOption, word ≠ option.flag
  notJoined : ∀ (option : ValueOption) (value : String), word ≠ option.flag ++ "=" ++ value

/-- How the words of a role are spelled. -/
def Role.Spells (word : String) : Role → Prop
  | .separator => word = "--"
  | .joined option value => word = option.flag ++ "=" ++ value
  | .bare option => word = option.flag
  | .switch chosen => word = chosen.flag
  | .plain => IsPlain word

theorem ValueOption.rest?_eq_some_iff {leading text rest : List Char} :
    ValueOption.rest? leading text = some rest ↔ text = leading ++ rest := by
  unfold ValueOption.rest?
  constructor
  · intro found
    split_ifs at found with opens
    obtain ⟨behind, rfl⟩ := List.isPrefixOf_iff_prefix.1 opens
    cases found
    rw [List.drop_left]
  · rintro rfl
    rw [if_pos (List.isPrefixOf_iff_prefix.2 (List.prefix_append _ _)), List.drop_left]

theorem ValueOption.mem_all (option : ValueOption) : option ∈ ValueOption.all := by
  cases option <;> decide

theorem Switch.mem_all (chosen : Switch) : chosen ∈ Switch.all := by
  cases chosen <;> decide

/-- No option begins like another one. -/
theorem ValueOption.joined_inj {option other : ValueOption} {value second : String}
    (same : option.flag ++ "=" ++ value = other.flag ++ "=" ++ second) :
    option = other ∧ value = second := by
  have chars := congrArg String.toList same
  cases option <;> cases other <;> simp [ValueOption.flag, String.toList_inj] at chars ⊢
  all_goals exact chars

theorem ValueOption.rest?_joined {option : ValueOption} {word value : String} :
    ValueOption.rest? (option.flag ++ "=").toList word.toList = some value.toList ↔
      word = option.flag ++ "=" ++ value := by
  rw [ValueOption.rest?_eq_some_iff, ← String.toList_append, String.toList_inj]

/-- An option and its value are found in the words that are spelled with them. -/
theorem ValueOption.joined?_eq_some_iff {option : ValueOption} {word value : String} :
    ValueOption.joined? word = some (option, value) ↔ word = option.flag ++ "=" ++ value := by
  have sound {other : ValueOption} {second : String}
      (found : ValueOption.joined? word = some (other, second)) :
      word = other.flag ++ "=" ++ second := by
    obtain ⟨candidate, _, cut⟩ := List.exists_of_findSome?_eq_some found
    obtain ⟨rest, opens, equal⟩ := Option.map_eq_some_iff.1 cut
    cases equal
    apply ValueOption.rest?_joined.1
    rwa [String.toList_ofList]
  refine ⟨sound, fun spelled => ?_⟩
  cases found : ValueOption.joined? word with
  | none =>
    have missing := List.findSome?_eq_none_iff.1 found option option.mem_all
    rw [ValueOption.rest?_joined.2 spelled] at missing
    cases missing
  | some pair =>
    obtain ⟨rfl, rfl⟩ := ValueOption.joined_inj (spelled.symm.trans (sound found))
    rfl

/-- A word is spelled like its role. -/
theorem Role.spells_of (word : String) : (Role.of word).Spells word := by
  unfold Role.of
  split_ifs with separator
  · exact separator
  · cases joined : ValueOption.joined? word with
    | some found => exact ValueOption.joined?_eq_some_iff.1 joined
    | none =>
      cases named : ValueOption.named? word with
      | some option =>
        have found := List.find?_some named
        exact (of_decide_eq_true found).symm
      | none =>
        cases switch : Switch.named? word with
        | some chosen =>
          have found := List.find?_some switch
          exact (of_decide_eq_true found).symm
        | none =>
          refine ⟨separator, ?_, ?_, ?_⟩
          · intro chosen same
            exact List.find?_eq_none.1 switch chosen chosen.mem_all (decide_eq_true same.symm)
          · intro option same
            exact List.find?_eq_none.1 named option option.mem_all (decide_eq_true same.symm)
          · intro option value same
            cases joined.symm.trans (ValueOption.joined?_eq_some_iff.2 same)

/-- The role of a word is told by its spelling. -/
theorem Role.of_eq_iff {word : String} {role : Role} : Role.of word = role ↔ role.Spells word := by
  refine ⟨fun own => own ▸ Role.spells_of word, fun spells => ?_⟩
  cases role with
  | separator => exact if_pos spells
  | joined option value =>
    have marked : word ≠ "--" := by
      rintro rfl
      have chars := congrArg String.toList spells
      cases option <;> simp [ValueOption.flag] at chars
    rw [Role.of, if_neg marked, ValueOption.joined?_eq_some_iff.2 spells]
  | bare option =>
    subst spells
    cases option <;> decide
  | switch chosen =>
    subst spells
    cases chosen <;> decide
  | plain =>
    have own := Role.spells_of word
    generalize Role.of word = found at own ⊢
    cases found with
    | plain => rfl
    | separator => exact absurd own spells.notSeparator
    | joined option value => exact absurd own (spells.notJoined option value)
    | bare option => exact absurd own (spells.notBare option)
    | switch chosen => exact absurd own (spells.notSwitch chosen)

/-! ### Modes -/

/-- A list of modes has a name among its items between commas, with blanks around it. -/
def Mentions (modes name : String) : Prop :=
  ∃ field ∈ modes.toList.splitOn ',', ∃ left right, field = left ++ (name.toList ++ right) ∧
    ∀ c ∈ left ++ right, isBlank c

/-- What is left of a sequence is what stands between the blanks at its ends. -/
theorem exists_trimChars (cs : List Char) :
    ∃ left right, cs = left ++ (trimChars cs ++ right) ∧ ∀ c ∈ left ++ right, isBlank c := by
  refine ⟨cs.takeWhile isBlank, ((cs.dropWhile isBlank).reverse.takeWhile isBlank).reverse, ?_, ?_⟩
  · rw [trimChars, ← List.reverse_append, List.takeWhile_append_dropWhile, List.reverse_reverse,
      List.takeWhile_append_dropWhile]
  · intro c member
    rcases List.mem_append.1 member with first | last
    · exact List.mem_takeWhile_imp first
    · exact List.mem_takeWhile_imp (List.mem_reverse.1 last)

/-- A word is what is left if there is nothing but blanks around it. -/
theorem trimChars_eq_iff {cs word : List Char} (given : word ≠ [])
    (visible : ∀ c ∈ word, isBlank c = false) :
    trimChars cs = word ↔
      ∃ left right, cs = left ++ (word ++ right) ∧ ∀ c ∈ left ++ right, isBlank c := by
  constructor
  · rintro rfl
    exact exists_trimChars cs
  · rintro ⟨left, right, rfl, blank⟩
    obtain ⟨blankLeft, blankRight⟩ := List.forall_mem_append.1 blank
    have front : (left ++ (word ++ right)).dropWhile isBlank = word ++ right := by
      refine (takeWhile_dropWhile_append blankLeft ?_).2
      intro c first
      rw [List.head?_append_of_ne_nil _ given] at first
      exact visible c (List.mem_of_mem_head? first)
    have back : (right.reverse ++ word.reverse).dropWhile isBlank = word.reverse := by
      refine (takeWhile_dropWhile_append ?_ ?_).2
      · intro c member
        exact blankRight c (List.mem_reverse.1 member)
      · intro c last
        exact visible c (List.mem_reverse.1 (List.mem_of_mem_head? last))
    rw [trimChars, front, List.reverse_append, back, List.reverse_reverse]

theorem mem_modes_iff {modes name : String} (given : name.toList ≠ [])
    (visible : ∀ c ∈ name.toList, isBlank c = false) :
    name ∈ (fields ',' modes.toList).map (fun field => String.ofList (trimChars field)) ↔
      Mentions modes name := by
  rw [List.mem_map, fields_eq_splitOn]
  refine exists_congr fun field => and_congr_right fun _ => ?_
  rw [← String.toList_inj, String.toList_ofList, trimChars_eq_iff given visible]

/-- A flag that is switched on by its name and by `all`. -/
structure IsFlag (isOn : DebugFlags → Bool) (name : String) : Prop where
  given : name.toList ≠ []
  visible : ∀ c ∈ name.toList, isBlank c = false
  enable : ∀ flags word, isOn (flags.enable word) ↔ isOn flags ∨ word = name ∨ word = "all"

theorem areFlags :
    IsFlag DebugFlags.script "script" ∧ IsFlag DebugFlags.lines "ir" ∧
      IsFlag DebugFlags.stack "stack" := by
  refine ⟨?_, ?_, ?_⟩
  all_goals
    refine ⟨by decide, by simp [isBlank, covers, blankRanges], fun flags word => ?_⟩
    unfold DebugFlags.enable
    split <;> simp_all

namespace IsFlag

variable {isOn : DebugFlags → Bool} {name : String}

theorem foldl_enable (flag : IsFlag isOn name) (flags : DebugFlags) (words : List String) :
    isOn (words.foldl DebugFlags.enable flags) ↔ isOn flags ∨ name ∈ words ∨ "all" ∈ words := by
  induction words generalizing flags with
  | nil => simp
  | cons word rest inductionHypothesis =>
    rw [List.foldl_cons, inductionHypothesis, flag.enable, List.mem_cons, List.mem_cons,
      @eq_comm _ name word, @eq_comm _ "all" word]
    tauto

/-- Modes switch a flag on if they mention it. -/
theorem apply_iff (flag : IsFlag isOn name) (flags : DebugFlags) (modes : String) :
    isOn (flags.apply modes) ↔ isOn flags ∨ Mentions modes name ∨ Mentions modes "all" := by
  have all : ∀ c ∈ "all".toList, isBlank c = false := by simp [isBlank, covers, blankRanges]
  rw [DebugFlags.apply, flag.foldl_enable, mem_modes_iff flag.given flag.visible,
    mem_modes_iff (by decide) all]

end IsFlag

/-! ### Items -/

/-- What an option asks for: a switch, or a value. -/
abbrev Setting :=
  Switch ⊕ ValueOption × String

/-- What a command line is made of: an option with what belongs to it, or a plain word. -/
inductive Item where
  | switch (chosen : Switch)
  | joined (option : ValueOption) (value : String)
  | spaced (option : ValueOption) (value : String)
  | plain (word : String) (free : IsPlain word)

namespace Item

/-- The words of an item. -/
def words : Item → List String
  | .switch chosen => [chosen.flag]
  | .joined option value => [option.flag ++ "=" ++ value]
  | .spaced option value => [option.flag, value]
  | .plain word _ => [word]

/-- What an option asks for. -/
def setting? : Item → Option Setting
  | .switch chosen => some (.inl chosen)
  | .joined option value => some (.inr (option, value))
  | .spaced option value => some (.inr (option, value))
  | .plain _ _ => none

/-- The word of an item that is no option. -/
def plain? : Item → Option String
  | .plain word _ => some word
  | _ => none

end Item

/-- A command line of items, and of words behind a separator. -/
def commandLine (items : List Item) (behind : Option (List String)) : List String :=
  items.flatMap Item.words ++ behind.elim [] ("--" :: ·)

/-- The plain words of a command line. -/
def plainWords (items : List Item) : List String :=
  items.filterMap Item.plain?

/-- What the options of a command line ask for, in their order. -/
def settings (items : List Item) : List Setting :=
  items.filterMap Item.setting?

/-- Take what an option asks for. -/
def Globals.set (globals : Globals) : Setting → Globals
  | .inl chosen => globals.setSwitch chosen
  | .inr (option, value) => globals.setValue option value

/-- An item is collected on its own: an option is taken, a plain word is kept. -/
theorem collect_item (globals : Globals) (item : Item) (rest : List String) :
    collect globals (item.words ++ rest) =
      (collect (item.setting?.elim globals globals.set) rest).map fun (globals, others) =>
        (globals, item.plain?.toList ++ others) := by
  have unchanged (result : Except UsageError (Globals × List String)) :
      result.map (fun (globals, others) => (globals, [] ++ others)) = result := by
    cases result <;> rfl
  cases item with
  | switch chosen =>
    have role : Role.of chosen.flag = .switch chosen := Role.of_eq_iff.2 rfl
    rw [Item.words, List.singleton_append, collect.eq_def]
    simp only [role]
    exact (unchanged _).symm
  | joined option value =>
    have role : Role.of (option.flag ++ "=" ++ value) = .joined option value := Role.of_eq_iff.2 rfl
    rw [Item.words, List.singleton_append, collect.eq_def]
    simp only [role]
    exact (unchanged _).symm
  | spaced option value =>
    have role : Role.of option.flag = .bare option := Role.of_eq_iff.2 rfl
    rw [Item.words, List.cons_append, List.singleton_append, collect.eq_def]
    simp only [role]
    exact (unchanged _).symm
  | plain word free =>
    have role : Role.of word = .plain := Role.of_eq_iff.2 free
    rw [Item.words, List.singleton_append, collect.eq_def]
    simp only [role]
    rfl

/-- Items are collected whatever follows them. -/
theorem collect_items (globals : Globals) (items : List Item) (rest : List String) :
    collect globals (items.flatMap Item.words ++ rest) =
      (collect ((settings items).foldl Globals.set globals) rest).map fun (globals, others) =>
        (globals, plainWords items ++ others) := by
  induction items generalizing globals with
  | nil =>
    simp only [settings, plainWords, List.flatMap_nil, List.filterMap_nil, List.foldl_nil,
      List.nil_append]
    cases collect globals rest <;> rfl
  | cons item others inductionHypothesis =>
    have set : (settings (item :: others)).foldl Globals.set globals =
        (settings others).foldl Globals.set (item.setting?.elim globals globals.set) := by
      cases given : item.setting? <;> simp [settings, given]
    have kept : plainWords (item :: others) = item.plain?.toList ++ plainWords others := by
      cases given : item.plain? <;> simp [plainWords, given]
    rw [List.flatMap_cons, List.append_assoc, collect_item, inductionHypothesis, set, kept]
    generalize collect _ rest = result
    cases result with
    | error error => rfl
    | ok collected => simp only [Except.map, List.append_assoc]

/-- A command line of items is collected. -/
theorem collect_commandLine (globals : Globals) (items : List Item)
    (behind : Option (List String)) :
    collect globals (commandLine items behind) =
      .ok ((settings items).foldl Globals.set globals, plainWords items ++ behind.getD []) := by
  rw [commandLine, collect_items]
  cases behind with
  | none => rfl
  | some rest =>
    have role : Role.of "--" = .separator := Role.of_eq_iff.2 rfl
    simp only [Option.elim_some, collect.eq_def, role]
    rfl

/-- A command line that ends with an option without its value is refused. -/
theorem collect_unfinished (globals : Globals) (items : List Item) (option : ValueOption) :
    collect globals (items.flatMap Item.words ++ [option.flag]) =
      .error (.missingValue option.form) := by
  have role : Role.of option.flag = .bare option := Role.of_eq_iff.2 rfl
  rw [collect_items, collect.eq_def]
  simp only [role]
  rfl

/-- A command line is made of items, up to an option without its value at its end. -/
def MadeOfItems (arguments : List String) : Prop :=
  (∃ items behind, arguments = commandLine items behind) ∨
    ∃ (items : List Item) (option : ValueOption),
      arguments = items.flatMap Item.words ++ [option.flag]

theorem MadeOfItems.cons {arguments : List String} (made : MadeOfItems arguments) (item : Item) :
    MadeOfItems (item.words ++ arguments) := by
  rcases made with ⟨items, behind, rfl⟩ | ⟨items, option, rfl⟩
  · left
    refine ⟨item :: items, behind, ?_⟩
    rw [commandLine, commandLine, List.flatMap_cons, List.append_assoc]
  · right
    refine ⟨item :: items, option, ?_⟩
    rw [List.flatMap_cons, List.append_assoc]

/-- There are no other command lines. -/
theorem madeOfItems (globals : Globals) (arguments : List String) : MadeOfItems arguments := by
  -- The induction goes by the words that are collected at a time, one or two.
  induction globals, arguments using collect.induct with
  | case1 globals => exact .inl ⟨[], none, rfl⟩
  | case2 globals word rest role =>
    cases Role.of_eq_iff.1 role
    exact .inl ⟨[], some rest, rfl⟩
  | case3 globals word option value rest role inductionHypothesis =>
    cases Role.of_eq_iff.1 role
    exact inductionHypothesis.cons (.joined option value)
  | case4 globals word option role =>
    cases Role.of_eq_iff.1 role
    exact .inr ⟨[], option, rfl⟩
  | case5 globals word option value rest role inductionHypothesis =>
    cases Role.of_eq_iff.1 role
    exact inductionHypothesis.cons (.spaced option value)
  | case6 globals word chosen rest role inductionHypothesis =>
    cases Role.of_eq_iff.1 role
    exact inductionHypothesis.cons (.switch chosen)
  | case7 globals word rest role inductionHypothesis =>
    exact inductionHypothesis.cons (.plain word (Role.of_eq_iff.1 role))

/-! ### What the options come to -/

/-- The value that an option is given. -/
def Setting.value? (option : ValueOption) : Setting → Option String
  | .inl _ => none
  | .inr (given, value) => if given = option then some value else none

/-- The values that an option is given, in their order. -/
def values (option : ValueOption) (given : List Setting) : List String :=
  given.filterMap (Setting.value? option)

/-- Some of the modes mention a name, or all. -/
def Asks (given : List Setting) (name : String) : Prop :=
  ∃ modes ∈ values .debug given, Mentions modes name ∨ Mentions modes "all"

/-- Globals are what settings ask for: switches that occur, last values, and the flags that some
modes mention. -/
structure Globals.Follows (globals : Globals) (given : List Setting) : Prop where
  untypedPointers : globals.untypedPointers ↔ .inl .untypedPointers ∈ given
  verify : globals.verify ↔ .inl .verify ∈ given
  entry : globals.entry = (values .entry given).getLast?
  triple : globals.triple = (values .triple given).getLast?
  script : globals.debug.script ↔ Asks given "script"
  lines : globals.debug.lines ↔ Asks given "ir"
  stack : globals.debug.stack ↔ Asks given "stack"

theorem values_concat (option : ValueOption) (given : List Setting) (setting : Setting) :
    values option (given ++ [setting]) =
      values option given ++ (Setting.value? option setting).toList := by
  rw [values, List.filterMap_append, values]
  cases value : Setting.value? option setting <;> simp [value]

theorem asks_concat (given : List Setting) (setting : Setting) (name : String) :
    Asks (given ++ [setting]) name ↔ Asks given name ∨
      ∃ modes ∈ Setting.value? .debug setting, Mentions modes name ∨ Mentions modes "all" := by
  simp only [Asks, values_concat, List.mem_append, Option.mem_toList, Option.mem_def,
    or_and_right, exists_or]

/-- One more setting keeps globals what the settings ask for. -/
theorem Globals.Follows.set {globals : Globals} {given : List Setting}
    (follows : globals.Follows given) (setting : Setting) :
    (globals.set setting).Follows (given ++ [setting]) := by
  obtain ⟨untypedPointers, verify, entry, triple, script, lines, stack⟩ := follows
  rcases setting with chosen | ⟨option, value⟩
  · -- A switch gives no option a value.
    cases chosen <;> constructor <;>
      simp [Globals.set, Globals.setSwitch, values_concat, asks_concat, Setting.value?, *]
  · -- The debug option is the only one whose values add up.
    obtain ⟨isScript, isLines, isStack⟩ := areFlags
    have toScript := isScript.apply_iff globals.debug value
    have toLines := isLines.apply_iff globals.debug value
    have toStack := isStack.apply_iff globals.debug value
    cases option <;> constructor <;>
      simp [Globals.set, Globals.setValue, values_concat, asks_concat, Setting.value?, *]

theorem follows_foldl (given : List Setting) : (given.foldl Globals.set {}).Follows given := by
  induction given using List.reverseRecOn with
  | nil => constructor <;> simp [Asks, values]
  | append_singleton given setting inductionHypothesis =>
    rw [List.foldl_append]
    exact inductionHypothesis.set setting

/-- A command line of options and plain words in any order, with or without words behind a
separator, is collected: what is left are the plain words and what stands behind the separator, and
the globals are what the options ask for. All other command lines end with an option without its
value, and are refused. The order of options and plain words against each other is of no account. -/
theorem global_options_anywhere :
    (∀ (items : List Item) (behind : Option (List String)), ∃ globals,
      collect {} (commandLine items behind) = .ok (globals, plainWords items ++ behind.getD []) ∧
        globals.Follows (settings items)) ∧
    (∀ arguments : List String, (¬ ∃ items behind, arguments = commandLine items behind) →
      ∃ (items : List Item) (option : ValueOption),
        arguments = items.flatMap Item.words ++ [option.flag] ∧
          collect {} arguments = .error (.missingValue option.form)) ∧
    ∀ (items others : List Item) (behind : Option (List String)),
      settings items = settings others → plainWords items = plainWords others →
        collect {} (commandLine items behind) = collect {} (commandLine others behind) := by
  refine ⟨?_, ?_, ?_⟩
  · intro items behind
    exact ⟨_, collect_commandLine {} items behind, follows_foldl _⟩
  · intro arguments other
    rcases madeOfItems {} arguments with made | ⟨items, option, rfl⟩
    · exact absurd made other
    · exact ⟨items, option, rfl, collect_unfinished {} items option⟩
  · intro items others behind sameSettings sameWords
    rw [collect_commandLine, collect_commandLine, sameSettings, sameWords]

theorem isPlain_emit : IsPlain "emit" :=
  Role.of_eq_iff.1 (by decide : Role.of "emit" = .plain)

/-- A separator that is the value of an option, an option that lacks its value, and an option on
either side of a plain word. -/
theorem global_options_anywhere_separator :
    (∃ globals, collect {} ["--entry", "--", "emit", "--debug-wave=x, ir", "--", "--verify"] =
        .ok (globals, ["emit", "--verify"]) ∧ globals.entry = some "--" ∧ ¬ globals.verify) ∧
      (∃ (items : List Item) (option : ValueOption),
        ["emit", "--triple"] = items.flatMap Item.words ++ [option.flag]) ∧
      collect {} ["--verify", "emit"] = collect {} ["emit", "--verify"] := by
  obtain ⟨collected, refused, ordered⟩ := global_options_anywhere
  refine ⟨?_, ?_, ?_⟩
  · obtain ⟨globals, result, follows⟩ := collected
      [.spaced .entry "--", .plain "emit" isPlain_emit, .joined .debug "x, ir"] (some ["--verify"])
    refine ⟨globals, result, follows.entry, ?_⟩
    rw [follows.verify]
    simp [settings, Item.setting?]
  · have failed : collect {} ["emit", "--triple"] =
        .error (.missingValue ValueOption.triple.form) := by decide
    have other : ¬ ∃ items behind, ["emit", "--triple"] = commandLine items behind := by
      rintro ⟨items, behind, made⟩
      obtain ⟨globals, result, _⟩ := collected items behind
      rw [← made, failed] at result
      cases result
    obtain ⟨items, option, made, _⟩ := refused _ other
    exact ⟨items, option, made⟩
  · exact ordered [.switch .verify, .plain "emit" isPlain_emit]
      [.plain "emit" isPlain_emit, .switch .verify] none rfl rfl

end Stackline.Console
