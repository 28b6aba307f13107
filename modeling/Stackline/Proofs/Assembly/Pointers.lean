import Mathlib
import Stackline.Proofs.Assembly.Characters
import Stackline.Proofs.Code.Definition

/-!
# Typed pointers rewritten to untyped ones

A rewriting of text that knows no lines and no instructions: from left to right, it writes
`ptr @str1` for the address of a pooled text and `ptr` for any other pointer type. Every line
and every declaration with typed pointers is rewritten to the one with untyped pointers
(`untype_spell`, `untype_declaration`), so nothing else in them looks like a pointer. Literals
are the parts to watch: they are kept because they hold no star and something that is part of
no pointer type follows them.
-/

namespace Stackline.Assembly

open Stackline.Code
open Stackline.Text (Lacks lacks_append isPrefixOf?_append)

/-! ### Rewriting -/

/-- The pointer types. -/
def pointerTypes : List (List Char) :=
  ["i8*".toList, "i32*".toList, "i64*".toList, "float*".toList, "double*".toList]

/-- The address of the first byte of a pooled text. -/
def addressText (size number : List Char) : List Char :=
  "i8* getelementptr inbounds ([".toList ++ (size ++ (" x i8], [".toList ++ (size ++
    (" x i8]* @str".toList ++ (number ++ ", i64 0, i64 0)".toList)))))

/-- The address that a text begins with, and what is written for it. -/
def readAddress? (text : List Char) : Option (List Char × List Char) := do
  let rest ← "i8* getelementptr inbounds ([".toList.isPrefixOf? text
  let size := rest.takeWhile Char.isDigit
  let rest ← (" x i8], [".toList ++ (size ++ " x i8]* @str".toList)).isPrefixOf?
    (rest.dropWhile Char.isDigit)
  let number := rest.takeWhile Char.isDigit
  if size ≠ [] ∧ number ≠ [] ∧ (addressText size number).isPrefixOf text then
    some (addressText size number, "ptr @str".toList ++ number)
  else none

/-- The pointer that a text begins with, and what is written for it. -/
def readTyped? (text : List Char) : Option (List Char × List Char) :=
  (readAddress? text).or
    ((pointerTypes.find? (·.isPrefixOf text)).map fun type => (type, "ptr".toList))

/-- Rewrite the pointers of a text, behind some characters that are left out. -/
def untypeFrom : Nat → List Char → List Char
  | _, [] => []
  | skipped + 1, _ :: rest => untypeFrom skipped rest
  | 0, c :: rest =>
    match readTyped? (c :: rest) with
    | some (found, replacement) => replacement ++ untypeFrom (found.length - 1) rest
    | none => c :: untypeFrom 0 rest

/-- Rewrite the pointers of a line. -/
def untype (line : String) : String :=
  String.ofList (untypeFrom 0 line.toList)

theorem untypeFrom_length (found rest : List Char) :
    untypeFrom found.length (found ++ rest) = untypeFrom 0 rest := by
  induction found with
  | nil => rfl
  | cons c found inductionHypothesis => exact inductionHypothesis

/-- A pointer is left out, and its replacement is written. -/
theorem untypeFrom_found {found replacement rest : List Char} (nonempty : found ≠ [])
    (read : readTyped? (found ++ rest) = some (found, replacement)) :
    untypeFrom 0 (found ++ rest) = replacement ++ untypeFrom 0 rest := by
  obtain ⟨c, others, rfl⟩ := List.exists_cons_of_ne_nil nonempty
  rw [List.cons_append] at read ⊢
  simp only [untypeFrom, read, List.length_cons, Nat.add_sub_cancel, untypeFrom_length]

/-! ### What is kept -/

/-- Characters of lines that are part of no pointer type. -/
def isStop (c : Char) : Bool :=
  c = ' ' || c = ',' || c = '(' || c = ')'

theorem mem_pointerTypes {type : List Char} (member : type ∈ pointerTypes) :
    '*' ∈ type ∧ ∀ c ∈ type, isStop c = false := by
  have all : pointerTypes.all fun type => type.contains '*' && type.all (!isStop ·) := by decide
  simpa using List.all_eq_true.1 all type member

/-- Where no pointer type begins, no pointer does. -/
theorem readTyped?_eq_none {text : List Char}
    (absent : ∀ type ∈ pointerTypes, ¬type <+: text) : readTyped? text = none := by
  have noBytes : "i8* getelementptr inbounds ([".toList.isPrefixOf? text = none := by
    rw [Option.eq_none_iff_forall_ne_some]
    intro rest opens
    have whole := List.isPrefixOf?_eq_some_iff_append_eq.1 opens
    refine absent "i8*".toList (.head _) ⟨" getelementptr inbounds ([".toList ++ rest, ?_⟩
    rw [← whole]
    rfl
  have noType : pointerTypes.find? (·.isPrefixOf text) = none := by
    rw [List.find?_eq_none]
    intro type member isPrefix
    exact absent type member (List.isPrefixOf_iff_prefix.1 isPrefix)
  rw [readTyped?, readAddress?, noBytes, noType]
  rfl

/-- No pointer begins before a stop without a star between them. -/
theorem readTyped?_before_stop {chunk : List Char} {c : Char} (lacks : '*' ∉ chunk)
    (stop : isStop c) (rest : List Char) : readTyped? (chunk ++ c :: rest) = none := by
  apply readTyped?_eq_none
  rintro type member ⟨behind, equal⟩
  obtain ⟨star, noStop⟩ := mem_pointerTypes member
  -- The type ends within the chunk, or it goes on over the stop.
  rcases List.append_eq_append_iff.1 equal with ⟨more, inside, _⟩ | ⟨more, inside, beyond⟩
  · apply lacks
    rw [inside]
    exact List.mem_append_left _ star
  · cases more with
    | nil =>
      rw [List.append_nil] at inside
      exact lacks (inside ▸ star)
    | cons first others =>
      obtain ⟨rfl, _⟩ := List.cons.inj beyond
      have passed := noStop c (inside ▸ List.mem_append_right _ (.head _))
      cases stop.symm.trans passed

theorem readTyped?_of_lacks {chunk : List Char} (lacks : '*' ∉ chunk) :
    readTyped? chunk = none := by
  apply readTyped?_eq_none
  intro type member isPrefix
  exact lacks (isPrefix.subset (mem_pointerTypes member).1)

/-! ### Rewriting texts that are put together -/

/-- A text is rewritten like this wherever a stop or the end follows it. -/
def Untypes (text result : String) : Prop :=
  ∀ rest : List Char, (∀ c ∈ rest.head?, isStop c) →
    untypeFrom 0 (text.toList ++ rest) = result.toList ++ untypeFrom 0 rest

/-- A text is rewritten like this whatever follows it. -/
def UntypesAlways (text result : String) : Prop :=
  ∀ rest : List Char, untypeFrom 0 (text.toList ++ rest) = result.toList ++ untypeFrom 0 rest

/-- A text begins with a stop. -/
def OpensStop (text : String) : Prop :=
  ∃ c rest, text.toList = c :: rest ∧ isStop c

theorem Untypes.untype_eq {text result : String} (untypes : Untypes text result) :
    untype text = result := by
  have whole := untypes [] (by simp)
  simp only [List.append_nil, untypeFrom] at whole
  rw [untype, whole, String.ofList_toList]

variable {text next result other : String}

theorem UntypesAlways.untypes (always : UntypesAlways text result) : Untypes text result :=
  fun rest _ => always rest

theorem UntypesAlways.append (always : UntypesAlways text result) (untypes : Untypes next other) :
    Untypes (text ++ next) (result ++ other) := by
  intro rest stops
  rw [String.toList_append, List.append_assoc, always, untypes rest stops, String.toList_append,
    List.append_assoc]

theorem UntypesAlways.close (always : UntypesAlways text result)
    (follows : UntypesAlways next other) : UntypesAlways (text ++ next) (result ++ other) := by
  intro rest
  rw [String.toList_append, List.append_assoc, always, follows, String.toList_append,
    List.append_assoc]

theorem OpensStop.stops (opens : OpensStop text) (rest : List Char) :
    ∀ c ∈ (text.toList ++ rest).head?, isStop c := by
  obtain ⟨c, others, equal, stop⟩ := opens
  simp [equal, stop]

theorem Untypes.append (untypes : Untypes text result) (opens : OpensStop next)
    (follows : Untypes next other) : Untypes (text ++ next) (result ++ other) := by
  intro rest stops
  rw [String.toList_append, List.append_assoc, untypes _ (opens.stops rest), follows rest stops,
    String.toList_append, List.append_assoc]

theorem Untypes.close (untypes : Untypes text result) (opens : OpensStop next)
    (follows : UntypesAlways next other) : UntypesAlways (text ++ next) (result ++ other) := by
  intro rest
  rw [String.toList_append, List.append_assoc, untypes _ (opens.stops rest), follows,
    String.toList_append, List.append_assoc]

/-- A text without stars is kept. -/
theorem untypes_of_lacks (lacks : Lacks '*' text) : Untypes text text := by
  unfold Lacks at lacks
  intro rest stops
  generalize text.toList = chunk at lacks ⊢
  induction chunk with
  | nil => rfl
  | cons c chunk inductionHypothesis =>
    have kept : readTyped? (c :: chunk ++ rest) = none := by
      cases rest with
      | nil => simpa using readTyped?_of_lacks lacks
      | cons stop others => exact readTyped?_before_stop lacks (stops stop rfl) others
    rw [List.cons_append] at kept ⊢
    rw [untypeFrom, kept, inductionHypothesis fun member => lacks (.tail _ member)]
    rfl

/-! ### The pointers of lines -/

theorem untypesAlways_toKind (kind : Kind) :
    UntypesAlways (Pointers.typed.toKind kind) (Pointers.untyped.toKind kind) := by
  intro rest
  cases kind <;> exact untypeFrom_found (by decide) rfl

theorem readAddress?_addressText (size number : Nat) (rest : List Char) :
    readAddress? (addressText (Nat.toDigits 10 size) (Nat.toDigits 10 number) ++ rest) =
      some (addressText (Nat.toDigits 10 size) (Nat.toDigits 10 number),
        "ptr @str".toList ++ Nat.toDigits 10 number) := by
  have whole : (addressText (Nat.toDigits 10 size) (Nat.toDigits 10 number)).isPrefixOf
      (addressText (Nat.toDigits 10 size) (Nat.toDigits 10 number) ++ rest) := by
    simp
  have opens : "i8* getelementptr inbounds ([".toList.isPrefixOf?
      (addressText (Nat.toDigits 10 size) (Nat.toDigits 10 number) ++ rest) =
        some (Nat.toDigits 10 size ++ ((" x i8], [".toList ++ (Nat.toDigits 10 size ++
          " x i8]* @str".toList)) ++ (Nat.toDigits 10 number ++ (", i64 0, i64 0)".toList ++
            rest)))) := by
    apply List.isPrefixOf?_eq_some_iff_append_eq.2
    unfold addressText
    simp only [List.append_assoc, -String.reduceToList]
  have sizeRun (behind : List Char) := @takeWhile_dropWhile_number size
    ((" x i8], [".toList ++ (Nat.toDigits 10 size ++ " x i8]* @str".toList)) ++ behind) (by simp)
  have numberRun := @takeWhile_dropWhile_number number (", i64 0, i64 0)".toList ++ rest) (by simp)
  have digits (count : Nat) : Nat.toDigits 10 count ≠ [] := Nat.toDigits_ne_nil
  simp only [readAddress?, opens, Option.bind_eq_bind, Option.bind_some, sizeRun,
    isPrefixOf?_append, numberRun, whole, digits, ne_eq, not_false_eq_true, and_self, if_true,
    -String.reduceToList]

theorem untypesAlways_toText (pooled : Pooled) :
    UntypesAlways (Pointers.typed.toText pooled) (Pointers.untyped.toText pooled) := by
  intro rest
  have typed : (Pointers.typed.toText pooled).toList =
      addressText (Nat.toDigits 10 pooled.size) (Nat.toDigits 10 pooled.id) := by
    have opening : "i8* getelementptr inbounds ([".toList =
        "i8* getelementptr inbounds (".toList ++ "[".toList := rfl
    have between : " x i8], [".toList = " x i8]".toList ++ (", ".toList ++ "[".toList) := rfl
    have naming : " x i8]* @str".toList = " x i8]".toList ++ ("* ".toList ++ "@str".toList) := rfl
    unfold Pointers.toText Pooled.symbol addressText
    simp only [String.toList_append, Nat.toString_eq_ofList_toDigits, String.toList_ofList,
      opening, between, naming, List.append_assoc, -String.reduceToList]
  have untyped : (Pointers.untyped.toText pooled).toList =
      "ptr @str".toList ++ Nat.toDigits 10 pooled.id := by
    unfold Pointers.toText
    simp only [Pooled.symbol, String.toList_append, Nat.toString_eq_ofList_toDigits,
      String.toList_ofList, -String.reduceToList]
    rfl
  rw [typed, untyped]
  apply untypeFrom_found
  · exact List.cons_ne_nil _ _
  · rw [readTyped?, readAddress?_addressText]
    rfl

theorem untypesAlways_space : UntypesAlways " " " " := fun _ => rfl

theorem untypesAlways_comma : UntypesAlways ", " ", " := fun _ => rfl

theorem untypes_toStorage (kind : Kind) (address : Register) :
    Untypes (Pointers.typed.toStorage kind address) (Pointers.untyped.toStorage kind address) := by
  have register := untypes_of_lacks (lacks_registerText (by decide : isOutside '*') address)
  exact ((untypesAlways_toKind kind).close untypesAlways_space).append register

theorem untypes_operand {operand : Operand} (legible : operand.Legible) :
    Untypes operand.text operand.text :=
  untypes_of_lacks (lacks_operand (by decide) legible)

theorem untypes_typedText {operand : Operand} (legible : operand.Legible) :
    Untypes operand.typedText operand.typedText := by
  have kind : Lacks '*' operand.kind.spelling := by cases operand.kind <;> decide
  apply untypes_of_lacks
  exact lacks_append.2 ⟨lacks_append.2 ⟨kind, by decide⟩, lacks_operand (by decide) legible⟩

theorem untypes_alignment (kind : Kind) :
    OpensStop (Code.Instruction.alignment kind) ∧
      Untypes (Code.Instruction.alignment kind) (Code.Instruction.alignment kind) := by
  constructor
  · cases kind <;> exact ⟨_, _, rfl, rfl⟩
  · apply untypes_of_lacks
    cases kind <;> decide

theorem untypes_argument {argument : CallArgument} (legible : argument.Legible) :
    Untypes (argument.text .typed) (argument.text .untyped) := by
  cases argument with
  | storage kind address => exact untypes_toStorage kind address
  | value operand => exact untypes_typedText legible

/-- The call from its argument on. -/
theorem untypesAlways_callTail {argument : Option CallArgument}
    (legible : ∀ given ∈ argument, given.Legible) :
    UntypesAlways ((argument.elim "" fun argument => ", " ++ argument.text .typed) ++ ")")
      ((argument.elim "" fun argument => ", " ++ argument.text .untyped) ++ ")") := by
  have closing : UntypesAlways ")" ")" := fun _ => rfl
  cases argument with
  | none =>
    have nothing : UntypesAlways "" "" := fun _ => rfl
    exact nothing.close closing
  | some given =>
    have passed := untypesAlways_comma.append (untypes_argument (legible given rfl))
    exact passed.close ⟨_, _, rfl, rfl⟩ closing

/-- Every instruction is rewritten to the one with untyped pointers. -/
theorem untypes_instruction {instruction : Code.Instruction} (legible : instruction.Legible) :
    Untypes (instruction.text .typed) (instruction.text .untyped) := by
  have spelling (kind : Kind) : Lacks '*' kind.spelling := by cases kind <;> decide
  cases instruction with
  | allocate kind =>
    have head : Untypes ("alloca " ++ kind.spelling) ("alloca " ++ kind.spelling) :=
      untypes_of_lacks (lacks_append.2 ⟨by decide, spelling kind⟩)
    exact head.append (untypes_alignment kind).1 (untypes_alignment kind).2
  | load kind address =>
    have head : Untypes ("load " ++ kind.spelling) ("load " ++ kind.spelling) :=
      untypes_of_lacks (lacks_append.2 ⟨by decide, spelling kind⟩)
    have source := (head.close ⟨_, _, rfl, rfl⟩ untypesAlways_comma).append
      (untypes_toStorage kind address)
    exact source.append (untypes_alignment kind).1 (untypes_alignment kind).2
  | store kind value address =>
    have head : Untypes ("store " ++ kind.spelling) ("store " ++ kind.spelling) :=
      untypes_of_lacks (lacks_append.2 ⟨by decide, spelling kind⟩)
    have given := (head.close ⟨_, _, rfl, rfl⟩ untypesAlways_space).append (untypes_operand legible)
    have target := (given.close ⟨_, _, rfl, rfl⟩ untypesAlways_comma).append
      (untypes_toStorage kind address)
    exact target.append (untypes_alignment kind).1 (untypes_alignment kind).2
  | convert conversion operand target =>
    have mnemonic : Lacks '*' conversion.mnemonic := by cases conversion <;> decide
    have towards : UntypesAlways " to " " to " := fun _ => rfl
    have head := (untypes_of_lacks mnemonic).close ⟨_, _, rfl, rfl⟩ untypesAlways_space
    have source := (head.append (untypes_typedText legible)).close ⟨_, _, rfl, rfl⟩ towards
    exact source.append (untypes_of_lacks (spelling target))
  | arithmetic operator kind first second =>
    have mnemonic : Lacks '*' (operator.mnemonic kind.family) := by
      cases operator <;> cases kind.family <;> decide
    have name := lacks_append.2 ⟨lacks_append.2 ⟨mnemonic, (by decide : Lacks '*' " ")⟩,
      spelling kind⟩
    have head := (untypes_of_lacks name).close ⟨_, _, rfl, rfl⟩ untypesAlways_space
    have left := (head.append (untypes_operand legible.1)).close ⟨_, _, rfl, rfl⟩
      untypesAlways_comma
    exact left.append (untypes_operand legible.2)
  | call external format argument =>
    have head : UntypesAlways
        ("call " ++ Pointers.typed.variadic ++ " @" ++ external.symbol ++ "(")
        ("call " ++ Pointers.untyped.variadic ++ " @" ++ external.symbol ++ "(") := by
      cases external <;> exact fun _ => rfl
    have joined := (head.close (untypesAlways_toText format)).close
      (untypesAlways_callTail legible)
    rw [← String.append_assoc, ← String.append_assoc] at joined
    exact joined.untypes

/-- Every line is rewritten to the one with untyped pointers. -/
theorem untype_spell {line : Code.Line Code.Instruction} (legible : line.content.Legible) :
    untype (line.spell .typed) = line.spell .untyped := by
  cases line with
  | value id instruction =>
    have register := untypes_of_lacks (lacks_registerText (by decide : isOutside '*') id)
    have equals : UntypesAlways " = " " = " := fun _ => rfl
    have head := register.close ⟨_, _, rfl, rfl⟩ equals
    exact (head.append (untypes_instruction legible)).untype_eq
  | effect instruction => exact (untypes_instruction legible).untype_eq

/-- Every declaration is rewritten to the one with untyped pointers. -/
theorem untype_declaration (external : External) :
    untype (external.declaration .typed) = external.declaration .untyped := by
  cases external <;> decide

end Stackline.Assembly
