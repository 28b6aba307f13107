/-!
# Numerals

A decimal numeral as it stands in a script: an optional minus sign, digits, an
optional fraction and an optional exponent. The parts are kept as written, so
`Numeral.chars` gives back the text that was read. `Numeral.scan?` takes the
longest numeral at the head of its input.
-/

namespace Stackline.Number

/-- The exponent part of a numeral, as written. -/
structure Exponent where
  mark : Char
  sign : Option Char
  digits : List Char
  deriving DecidableEq, Repr

/-- The text of an exponent. -/
def Exponent.chars (exponent : Exponent) : List Char :=
  exponent.mark :: exponent.sign.toList ++ exponent.digits

/-- A decimal numeral, as written. -/
structure Numeral where
  negative : Bool
  whole : List Char
  fraction : Option (List Char)
  exponent : Option Exponent
  deriving DecidableEq, Repr

namespace Numeral

/-- The text of a fraction, with its point. -/
def fractionChars : Option (List Char) → List Char
  | none => []
  | some digits => '.' :: digits

/-- The text of an optional exponent. -/
def exponentChars : Option Exponent → List Char
  | none => []
  | some exponent => exponent.chars

/-- The text of a numeral. -/
def chars (numeral : Numeral) : List Char :=
  (if numeral.negative then ['-'] else []) ++ numeral.whole ++
    fractionChars numeral.fraction ++ exponentChars numeral.exponent

/-- A numeral with a fraction or an exponent denotes a real number; any other
denotes an integer. -/
def isReal (numeral : Numeral) : Bool :=
  numeral.fraction.isSome || numeral.exponent.isSome

/-- A nonempty run of digits at the head of the input. -/
def scanDigits? (input : List Char) : Option (List Char × List Char) :=
  match input.takeWhile Char.isDigit with
  | [] => none
  | digits => some (digits, input.dropWhile Char.isDigit)

/-- An optional minus sign at the head of the input. -/
def scanMinus : List Char → Bool × List Char
  | '-' :: rest => (true, rest)
  | input => (false, input)

/-- An optional fraction at the head of the input. A point without digits after
it is left alone. -/
def scanFraction : List Char → Option (List Char) × List Char
  | '.' :: rest =>
    match scanDigits? rest with
    | some (digits, rest) => (some digits, rest)
    | none => (none, '.' :: rest)
  | input => (none, input)

/-- An optional sign at the head of the input. -/
def scanSign : List Char → Option Char × List Char
  | '-' :: rest => (some '-', rest)
  | '+' :: rest => (some '+', rest)
  | input => (none, input)

/-- An optional exponent at the head of the input. A mark without digits after
it is left alone. -/
def scanExponent : List Char → Option Exponent × List Char
  | mark :: rest =>
    if mark = 'e' ∨ mark = 'E' then
      let (sign, afterSign) := scanSign rest
      match scanDigits? afterSign with
      | some (digits, rest) => (some ⟨mark, sign, digits⟩, rest)
      | none => (none, mark :: rest)
    else (none, mark :: rest)
  | [] => (none, [])

/-- The longest numeral at the head of the input, and what follows it. -/
def scan? (input : List Char) : Option (Numeral × List Char) :=
  let (negative, rest) := scanMinus input
  match scanDigits? rest with
  | none => none
  | some (whole, rest) =>
    let (fraction, rest) := scanFraction rest
    let (exponent, rest) := scanExponent rest
    some (⟨negative, whole, fraction, exponent⟩, rest)

/-! ### Scanning takes the head of the input and loses nothing -/

theorem chars_scanDigits? {input digits rest : List Char}
    (scanned : scanDigits? input = some (digits, rest)) :
    input = digits ++ rest ∧ digits ≠ [] := by
  unfold scanDigits? at scanned
  split at scanned
  · cases scanned
  · rename_i taken found
    simp only [Option.some.injEq, Prod.mk.injEq] at scanned
    obtain ⟨rfl, rfl⟩ := scanned
    exact ⟨(List.takeWhile_append_dropWhile).symm, found⟩

theorem chars_scanMinus (input : List Char) :
    input = (if (scanMinus input).1 then ['-'] else []) ++ (scanMinus input).2 := by
  unfold scanMinus
  split <;> simp

theorem chars_scanFraction (input : List Char) :
    input = fractionChars (scanFraction input).1 ++
      (scanFraction input).2 := by
  unfold scanFraction
  split
  · split
    · rename_i scanned
      have parts := chars_scanDigits? scanned
      simp [fractionChars, parts.1]
    · simp [fractionChars]
  · simp [fractionChars]

theorem chars_scanSign (input : List Char) :
    input = (scanSign input).1.toList ++ (scanSign input).2 := by
  unfold scanSign
  split <;> simp

theorem chars_scanExponent (input : List Char) :
    input = exponentChars (scanExponent input).1 ++
      (scanExponent input).2 := by
  unfold scanExponent
  split
  · rename_i mark rest
    split
    · have signParts := chars_scanSign rest
      dsimp only
      split
      · rename_i scanned
        have parts := chars_scanDigits? scanned
        rw [parts.1] at signParts
        simp only [exponentChars, Exponent.chars, List.cons_append, List.append_assoc]
        rw [← signParts]
      · simp [exponentChars]
    · simp [exponentChars]
  · simp [exponentChars]

/-- A scanned numeral is read off the head of the input and is not empty. -/
theorem chars_scan? {input rest : List Char} {numeral : Numeral}
    (scanned : scan? input = some (numeral, rest)) :
    input = numeral.chars ++ rest ∧ numeral.chars ≠ [] := by
  unfold scan? at scanned
  dsimp only at scanned
  split at scanned
  · cases scanned
  · rename_i whole afterWhole digitsScanned
    simp only [Option.some.injEq, Prod.mk.injEq] at scanned
    obtain ⟨rfl, rfl⟩ := scanned
    have minusParts := chars_scanMinus input
    have wholeParts := chars_scanDigits? digitsScanned
    have fractionParts := chars_scanFraction afterWhole
    have exponentParts := chars_scanExponent (scanFraction afterWhole).2
    constructor
    · simp only [chars, List.append_assoc]
      rw [← exponentParts, ← fractionParts, ← wholeParts.1]
      exact minusParts
    · simp [chars, wholeParts.2]

/-- Read a text that is a numeral from end to end. -/
def read? (text : List Char) : Option Numeral :=
  match scan? text with
  | some (numeral, []) => some numeral
  | _ => none

/-- The number that a sequence of digits denotes. -/
def digitsValue (digits : List Char) : Nat :=
  digits.foldl (fun value digit => 10 * value + (digit.toNat - '0'.toNat)) 0

/-- The digits before and after the point, in order. -/
def significant (numeral : Numeral) : List Char :=
  numeral.whole ++ numeral.fraction.getD []

/-- The integer that stands before the power of ten. -/
def coefficient (numeral : Numeral) : Nat :=
  digitsValue numeral.significant

/-- The number that the digits of an exponent denote. A digit counts only as long as
the number before it is below `2 ^ 16`, so a number from there on has at most one
digit more. -/
def exponentValue (digits : List Char) : Nat :=
  digits.foldl (fun value digit =>
    if value < Nat.pow 2 16 then 10 * value + (digit.toNat - '0'.toNat) else value) 0

/-- The exponent of a numeral, or zero. -/
def signedExponent (numeral : Numeral) : Int :=
  match numeral.exponent with
  | none => 0
  | some exponent =>
    if exponent.sign = some '-' then -(exponentValue exponent.digits : Int)
    else exponentValue exponent.digits

/-- The power of ten of the last significant digit: the magnitude of the numeral
is `coefficient * 10 ^ power`. -/
def power (numeral : Numeral) : Int :=
  numeral.signedExponent - ((numeral.fraction.getD []).length : Int)

/-- The same numeral with a fraction written out. -/
def withFraction (numeral : Numeral) : Numeral :=
  { numeral with fraction := some (numeral.fraction.getD ['0']) }

end Numeral

end Stackline.Number
