import Mathlib
import Stackline.Code.Pool
import Stackline.Proofs.Assembly.Characters

/-!
# Definitions of texts read back

What the definition of a pooled text says, read from its characters alone: a number, a size,
and bytes, where an escape stands for one byte and any other character for itself. Every
definition reads back as the text it was made of with a zero byte behind it. Whatever the text
is, only printable characters stand between the quotes, and the definition stays on one line.
-/

namespace Stackline.Code

open Stackline.Assembly (readNumber? readNumber?_toDigits lacks_number lacks_symbol)
open Stackline.Text (Lacks lacks_append isPrefixOf?_append takeWhile_dropWhile_append)

/-- What a definition says. -/
structure Stored where
  number : Nat
  size : Nat
  bytes : List UInt8
  deriving DecidableEq, Repr

/-- The value of an upper-case hexadecimal digit. -/
def hexValue? (c : Char) : Option Nat :=
  if c.isDigit then some (c.toNat - '0'.toNat)
  else if 'A' ≤ c ∧ c ≤ 'F' then some (c.toNat - 'A'.toNat + 10)
  else none

/-- The bytes between the quotes of a definition. A backslash opens an escape of two digits,
and all other characters are printable and no quotes. -/
def decodeBytes? : List Char → Option (List UInt8)
  | [] => some []
  | '\\' :: high :: low :: rest => do
    return (16 * (← hexValue? high) + (← hexValue? low)).toUInt8 :: (← decodeBytes? rest)
  | c :: rest =>
    if c.toNat < 0x80 ∧ isPlainByte c.toNat.toUInt8 then
      (decodeBytes? rest).map (c.toNat.toUInt8 :: ·)
    else none

/-- Read a definition. -/
def readDefinition? (line : List Char) : Option Stored := do
  let rest ← "@str".toList.isPrefixOf? line
  let number ← readNumber? (rest.takeWhile Char.isDigit)
  let rest ← " = private unnamed_addr constant [".toList.isPrefixOf? (rest.dropWhile Char.isDigit)
  let size ← readNumber? (rest.takeWhile Char.isDigit)
  let rest ← " x i8] c\"".toList.isPrefixOf? (rest.dropWhile Char.isDigit)
  if rest.getLast? = some '"' then
    return ⟨number, size, ← decodeBytes? rest.dropLast⟩
  else none

/-! ### Bytes -/

theorem hexValue?_upperHexDigit {digit : Nat} (bounded : digit < 16) :
    hexValue? (Text.upperHexDigit digit) = some digit := by
  revert digit
  decide

theorem toNat_ofUInt8 (byte : UInt8) : (Char.ofUInt8 byte).toNat = byte.toNat := by
  simp [Char.ofUInt8, Char.toNat]

/-- A character that stands for itself is read as its byte. -/
theorem decodeBytes?_plain {byte : UInt8} (plain : isPlainByte byte) (rest : List Char) :
    decodeBytes? (Char.ofUInt8 byte :: rest) = (decodeBytes? rest).map (byte :: ·) := by
  have bounds := plain
  simp only [isPlainByte, Bool.and_eq_true, decide_eq_true_eq, UInt8.lt_iff_toNat_lt] at bounds
  have small : byte.toNat < 0x80 := Nat.lt_trans bounds.1.1.2 (by decide)
  have notEscape : Char.ofUInt8 byte ≠ '\\' := by
    intro same
    have value : byte.toNat = 0x5c := (toNat_ofUInt8 byte).symm.trans (congrArg Char.toNat same)
    exact bounds.2 (UInt8.toNat_inj.1 value)
  -- The escape comes first in the definition, so it has to be ruled out.
  rw [decodeBytes?.eq_def]
  split
  · contradiction
  · rename_i same
    exact absurd (List.cons.inj same).1 notEscape
  · rename_i same
    obtain ⟨rfl, rfl⟩ := List.cons.inj same
    simp [toNat_ofUInt8, small, plain]

theorem decodeBytes?_escape (byte : UInt8) (rest : List Char) :
    decodeBytes? ('\\' :: Text.hexDigits 2 byte.toNat ++ rest) =
      (decodeBytes? rest).map (byte :: ·) := by
  have digits : Text.hexDigits 2 byte.toNat =
      [Text.upperHexDigit (byte.toNat / 16 % 16), Text.upperHexDigit (byte.toNat % 16)] := rfl
  have high := @hexValue?_upperHexDigit (byte.toNat / 16 % 16) (Nat.mod_lt _ (by decide))
  have low := @hexValue?_upperHexDigit (byte.toNat % 16) (Nat.mod_lt _ (by decide))
  have value : 16 * (byte.toNat / 16 % 16) + byte.toNat % 16 = byte.toNat := by
    have bound := byte.toNat_lt
    omega
  rw [digits, List.cons_append, List.cons_append, List.cons_append, List.nil_append, decodeBytes?]
  simp only [high, low, Option.bind_eq_bind, Option.bind_some, value]
  cases decodeBytes? rest <;> simp

/-- The spelling of a byte is read as the byte. -/
theorem decodeBytes?_byteText (byte : UInt8) (rest : List Char) :
    decodeBytes? (byteText byte ++ rest) = (decodeBytes? rest).map (byte :: ·) := by
  unfold byteText
  split
  · rename_i plain
    exact decodeBytes?_plain plain rest
  · exact decodeBytes?_escape byte rest

theorem decodeBytes?_flatMap (bytes : List UInt8) :
    decodeBytes? (bytes.flatMap byteText) = some bytes := by
  induction bytes with
  | nil => rfl
  | cons byte rest inductionHypothesis =>
    rw [List.flatMap_cons, decodeBytes?_byteText, inductionHypothesis]
    rfl

/-! ### Definitions -/

theorem takeWhile_dropWhile_number (number : Nat) {rest : List Char}
    (stops : ∀ c ∈ rest.head?, c.isDigit = false) :
    (Nat.toDigits 10 number ++ rest).takeWhile Char.isDigit = Nat.toDigits 10 number ∧
      (Nat.toDigits 10 number ++ rest).dropWhile Char.isDigit = rest :=
  takeWhile_dropWhile_append
    (fun _ member => Nat.isDigit_of_mem_toDigits (by decide) (by decide) member) stops

/-- The characters of a definition. -/
theorem toList_definition (pooled : Pooled) (text : String) :
    (Pool.definition pooled text).toList =
      "@str".toList ++ (Nat.toDigits 10 pooled.id ++
        (" = private unnamed_addr constant [".toList ++ (Nat.toDigits 10 pooled.size ++
          (" x i8] c\"".toList ++ ((utf8 text ++ [0]).flatMap byteText ++ ['"']))))) := by
  have zero : byteText 0 = "\\00".toList := by decide
  simp only [Pool.definition, Pooled.symbol, escapeBytes, String.toList_append,
    Nat.toString_eq_ofList_toDigits, String.toList_ofList, List.flatMap_append,
    List.flatMap_singleton, zero, List.append_assoc]
  rfl

/-- A definition reads back as its number, its size and the bytes of its text with a zero byte
behind them. -/
theorem readDefinition?_definition (pooled : Pooled) (text : String) :
    readDefinition? (Pool.definition pooled text).toList =
      some ⟨pooled.id, pooled.size, utf8 text ++ [0]⟩ := by
  have number (rest : List Char) := @takeWhile_dropWhile_number pooled.id
    (" = private unnamed_addr constant [".toList ++ rest) (by simp)
  have size (rest : List Char) := @takeWhile_dropWhile_number pooled.size
    (" x i8] c\"".toList ++ rest) (by simp)
  simp only [readDefinition?, toList_definition, Option.bind_eq_bind, isPrefixOf?_append,
    Option.bind_some, number, size, readNumber?_toDigits, List.getLast?_concat,
    List.dropLast_concat, decodeBytes?_flatMap, if_true]
  rfl

/-! ### Between the quotes -/

/-- An upper-case hexadecimal digit. -/
def IsUpperHex (c : Char) : Prop :=
  c.isDigit ∨ 'A' ≤ c ∧ c ≤ 'F'

/-- What may stand between the quotes of a definition: printable ASCII without a quote, where
each backslash has two upper-case hexadecimal digits behind it. -/
structure Quotable (quoted : List Char) : Prop where
  printable : ∀ c ∈ quoted, 0x20 ≤ c.toNat ∧ c.toNat < 0x7f ∧ c ≠ '"'
  escapes : ∀ before behind, quoted = before ++ '\\' :: behind →
    ∃ high low rest, behind = high :: low :: rest ∧ IsUpperHex high ∧ IsUpperHex low

/-- What stands behind the first quote of a line, without the last character. -/
def quotedPart (line : List Char) : List Char :=
  (line.dropWhile (· ≠ '"')).tail.dropLast

theorem Quotable.nil : Quotable [] where
  printable := by simp
  escapes := by simp

theorem Quotable.append {first second : List Char} (left : Quotable first)
    (right : Quotable second) : Quotable (first ++ second) where
  printable := by
    intro c member
    rcases List.mem_append.1 member with inFirst | inSecond
    · exact left.printable c inFirst
    · exact right.printable c inSecond
  escapes := by
    intro before behind cut
    -- The backslash stands in the first part with its digits, or in the second.
    rcases List.append_eq_append_iff.1 cut with ⟨rest, _, inSecond⟩ | ⟨rest, inFirst, split⟩
    · exact right.escapes rest behind inSecond
    · cases rest with
      | nil => exact right.escapes [] behind split.symm
      | cons c rest =>
        obtain ⟨rfl, rfl⟩ := List.cons.inj split
        obtain ⟨high, low, others, rfl, digits⟩ := left.escapes before rest inFirst
        exact ⟨high, low, others ++ second, rfl, digits⟩

theorem IsUpperHex.bounds {c : Char} (digit : IsUpperHex c) : 0x30 ≤ c.toNat ∧ c.toNat ≤ 0x46 := by
  rcases digit with decimal | ⟨low, high⟩
  · simp only [Char.isDigit, Bool.and_eq_true, decide_eq_true_eq, ge_iff_le,
      UInt32.le_iff_toNat_le] at decimal
    exact ⟨decimal.1, decimal.2.trans (by decide)⟩
  · simp only [Char.le_def, UInt32.le_iff_toNat_le] at low high
    exact ⟨le_trans (by decide) low, high⟩

/-- A byte is spelled by itself or by a whole escape. -/
theorem quotable_byteText (byte : UInt8) : Quotable (byteText byte) := by
  unfold byteText
  split
  · rename_i plain
    simp only [isPlainByte, Bool.and_eq_true, decide_eq_true_eq, UInt8.le_iff_toNat_le,
      UInt8.lt_iff_toNat_lt] at plain
    obtain ⟨⟨⟨low, high⟩, notQuote⟩, notEscape⟩ := plain
    have differs {c : Char} {other : UInt8} (code : c.toNat = other.toNat) (ne : byte ≠ other) :
        Char.ofUInt8 byte ≠ c := by
      intro same
      apply ne
      rw [← UInt8.toNat_inj, ← toNat_ofUInt8, same, code]
    constructor
    · intro c member
      cases List.mem_singleton.1 member
      rw [toNat_ofUInt8]
      exact ⟨low, high, differs rfl notQuote⟩
    · intro before behind cut
      have member : '\\' ∈ [Char.ofUInt8 byte] := by simp [cut]
      exact absurd (List.mem_singleton.1 member).symm (differs rfl notEscape)
  · have upper : ∀ c ∈ Text.hexDigits 2 byte.toNat, IsUpperHex c := fun _ => Number.upper_hexDigits
    obtain ⟨high, low, digits⟩ := List.length_eq_two.1 (Number.length_hexDigits 2 byte.toNat)
    rw [digits] at upper ⊢
    constructor
    · intro c member
      rcases List.mem_cons.1 member with rfl | digit
      · decide
      · have bounds := (upper c digit).bounds
        refine ⟨by omega, by omega, ?_⟩
        rintro rfl
        exact absurd bounds.1 (by decide)
    · intro before behind cut
      cases before with
      | nil =>
        obtain rfl := (List.cons.inj cut).2
        exact ⟨high, low, [], rfl, upper high (by simp), upper low (by simp)⟩
      | cons c before =>
        have member : '\\' ∈ [high, low] := by simp [(List.cons.inj cut).2]
        exact absurd (upper _ member).bounds.2 (by decide)

theorem quotable_flatMap (bytes : List UInt8) : Quotable (bytes.flatMap byteText) := by
  induction bytes with
  | nil => exact .nil
  | cons byte rest inductionHypothesis =>
    rw [List.flatMap_cons]
    exact (quotable_byteText byte).append inductionHypothesis

/-- The quotes of a definition stand around the spelling of its bytes. -/
theorem quotedPart_definition (pooled : Pooled) (text : String) :
    quotedPart (Pool.definition pooled text).toList = (utf8 text ++ [0]).flatMap byteText := by
  have symbol : Lacks '"' pooled.symbol := lacks_symbol (by decide) pooled
  have size : Lacks '"' (toString pooled.size) := lacks_number (by decide) pooled.size
  have unquoted : Lacks '"' (pooled.symbol ++ " = private unnamed_addr constant [" ++
      toString pooled.size ++ " x i8] c") := by
    simp only [lacks_append]
    exact ⟨⟨⟨symbol, by decide⟩, size⟩, by decide⟩
  have spelled : (Pool.definition pooled text).toList =
      (pooled.symbol ++ " = private unnamed_addr constant [" ++ toString pooled.size ++
        " x i8] c").toList ++ '"' :: ((utf8 text ++ [0]).flatMap byteText ++ ['"']) := by
    rw [toList_definition]
    simp [Pooled.symbol]
  rw [quotedPart, spelled, (takeWhile_dropWhile_append ?_ ?_).2, List.tail_cons,
    List.dropLast_concat]
  · intro c member
    simpa using ne_of_mem_of_not_mem member unquoted
  · simp

/-! ### Lines -/

theorem oneLine_escapeBytes (text : String) : Lacks '\n' (escapeBytes text) := by
  rw [Lacks, escapeBytes, String.toList_ofList]
  intro member
  exact absurd ((quotable_flatMap (utf8 text)).printable _ member).1 (by decide)

/-- A definition stays on one line and begins with the name of its text. -/
theorem definition_line (pooled : Pooled) (text : String) :
    (Pool.definition pooled text).toList.head? = some '@' ∧
      Lacks '\n' (Pool.definition pooled text) := by
  constructor
  · rw [toList_definition]
    rfl
  · have symbol : Lacks '\n' pooled.symbol := lacks_symbol (by decide) pooled
    have size : Lacks '\n' (toString pooled.size) := lacks_number (by decide) pooled.size
    unfold Pool.definition
    simp only [lacks_append]
    exact ⟨⟨⟨⟨⟨symbol, by decide⟩, size⟩, by decide⟩, oneLine_escapeBytes text⟩, by decide⟩

end Stackline.Code
