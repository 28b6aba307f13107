import Mathlib
import Stackline.Proofs.Number.Literal
import Stackline.Proofs.Number.Precision

/-!
# Decimal numerals and their doubles

The exact value of a numeral is a rational number, whatever the number of its digits. Its
double is the nearest one to that value, with one reservation: the digits of an exponent are
read only until the number passes `2 ^ 16`. From ten times that number on the exponent as read
is smaller than the one written, and the double is the nearest one to the value as read. It is
right all the same if the numeral has few enough digits before its exponent to lie out of range
either way (`Readable`). What the double comes to as a single is the nearest single to the value,
unless the digits that are lost make a difference to it (`Faithful`) or the value is so near to
the middle between two singles that its double lies there (`NearTie`).
-/

namespace Stackline.Number

open Format

namespace Numeral

/-! ### Digits -/

theorem digitsValue_nil : digitsValue [] = 0 := rfl

theorem digitsValue_append (first second : List Char) :
    digitsValue (first ++ second) = 10 ^ second.length * digitsValue first + digitsValue second :=
  (Nat.ofDigitChars_append 0).trans Nat.ofDigitChars_eq_ofDigitChars_zero

theorem digitsValue_cons (digit : Char) (rest : List Char) :
    digitsValue (digit :: rest) =
      10 ^ rest.length * (digit.toNat - '0'.toNat) + digitsValue rest := by
  have single : digitsValue [digit] = digit.toNat - '0'.toNat := Nat.zero_add _
  rw [← List.singleton_append, digitsValue_append, single]

theorem digit_bound {digit : Char} (isDigit : digit.isDigit) :
    digit.toNat - '0'.toNat < 10 ∧ (digit ≠ '0' → 0 < digit.toNat - '0'.toNat) := by
  obtain ⟨lower, upper⟩ : 48 ≤ digit.toNat ∧ digit.toNat ≤ 57 := by
    simpa [Char.isDigit, UInt32.le_iff_toNat_le] using isDigit
  have zero : '0'.toNat = 48 := rfl
  refine ⟨by omega, fun other => ?_⟩
  have apart : digit.toNat ≠ '0'.toNat := fun same => other (Char.toNat_inj.1 same)
  omega

/-- Digits denote less than a one with as many zeros. -/
theorem digitsValue_lt {digits : List Char} (all : ∀ c ∈ digits, c.isDigit) :
    digitsValue digits < 10 ^ digits.length := by
  induction digits with
  | nil => decide
  | cons digit rest inductionHypothesis =>
    obtain ⟨head, tail⟩ := List.forall_mem_cons.1 all
    have later := inductionHypothesis tail
    have bound := (digit_bound head).1
    rw [digitsValue_cons, List.length_cons, pow_succ]
    nlinarith [Nat.mul_le_mul_left (10 ^ rest.length) (Nat.le_of_lt_succ bound)]

/-- Zeros in front do not count. -/
theorem digitsValue_dropWhile (digits : List Char) :
    digitsValue (digits.dropWhile (· = '0')) = digitsValue digits := by
  induction digits with
  | nil => rfl
  | cons digit rest inductionHypothesis =>
    by_cases zero : digit = '0'
    · subst zero
      rw [List.dropWhile_cons_of_pos (by simp), inductionHypothesis, digitsValue_cons, Nat.sub_self,
        Nat.mul_zero, Nat.zero_add]
    · rw [List.dropWhile_cons_of_neg (by simpa using zero)]

/-- Digits denote no less than a one with as many zeros as stand behind their first digit that
counts. -/
theorem pow_le_digitsValue {digits : List Char} (all : ∀ c ∈ digits, c.isDigit)
    (nonzero : digitsValue digits ≠ 0) :
    0 < (digits.dropWhile (· = '0')).length ∧
      10 ^ ((digits.dropWhile (· = '0')).length - 1) ≤ digitsValue digits := by
  rw [← digitsValue_dropWhile] at nonzero ⊢
  cases counted : digits.dropWhile (· = '0') with
  | nil => exact absurd (counted ▸ digitsValue_nil) nonzero
  | cons digit rest =>
    have first : digit ≠ '0' := by
      have stops := List.head?_dropWhile_not (fun c : Char => decide (c = '0')) digits
      simpa [counted] using stops
    have member : digit ∈ digits :=
      (List.dropWhile_sublist _).subset (by rw [counted]; exact .head _)
    have positive := (digit_bound (all digit member)).2 first
    refine ⟨Nat.succ_pos _, ?_⟩
    rw [digitsValue_cons, List.length_cons, Nat.add_sub_cancel]
    nlinarith [Nat.mul_le_mul_left (10 ^ rest.length) positive]

/-! ### Exponents -/

/-- The digits that count give the number they denote, until it reaches ten times `2 ^ 16`;
from `2 ^ 16` on it stays there. -/
theorem exponentValue_spec {digits : List Char} :
    (digitsValue digits < 10 * 2 ^ 16 → exponentValue digits = digitsValue digits) ∧
      (2 ^ 16 ≤ digitsValue digits → 2 ^ 16 ≤ exponentValue digits) := by
  induction digits using List.reverseRecOn with
  | nil => decide
  | append_singleton earlier digit inductionHypothesis =>
    obtain ⟨same, stays⟩ := inductionHypothesis
    have denoted : digitsValue (earlier ++ [digit]) =
        10 * digitsValue earlier + (digit.toNat - '0'.toNat) := List.foldl_concat ..
    have counted : exponentValue (earlier ++ [digit]) =
        if exponentValue earlier < 2 ^ 16 then
          10 * exponentValue earlier + (digit.toNat - '0'.toNat)
        else exponentValue earlier := List.foldl_concat ..
    rw [denoted, counted]
    generalize digit.toNat - '0'.toNat = last
    by_cases small : digitsValue earlier < 2 ^ 16
    · have equal := same (by omega)
      rw [equal, if_pos small]
      exact ⟨fun _ => rfl, id⟩
    · have large := stays (by omega)
      rw [if_neg (by omega)]
      exact ⟨fun bounded => absurd bounded (by omega), fun _ => large⟩

/-- The exponent of a numeral as written, or zero. -/
def writtenExponent (numeral : Numeral) : Int :=
  match numeral.exponent with
  | none => 0
  | some exponent =>
    if exponent.sign = some '-' then -(digitsValue exponent.digits : Int)
    else digitsValue exponent.digits

/-- The exact value of a numeral without its sign. -/
def magnitude (numeral : Numeral) : ℚ :=
  (digitsValue numeral.whole +
      digitsValue (numeral.fraction.getD []) / 10 ^ (numeral.fraction.getD []).length) *
    10 ^ numeral.writtenExponent

/-- The exact value of a numeral. -/
def value (numeral : Numeral) : ℚ :=
  if numeral.negative then -numeral.magnitude else numeral.magnitude

/-- The magnitude of a numeral with its exponent as far as it is read. -/
def readMagnitude (numeral : Numeral) : ℚ :=
  numeral.coefficient * 10 ^ numeral.power

/-- The exponent is small enough to be read in full, or the digits before it are too few to
make up for what is lost of it. -/
def Readable (numeral : Numeral) : Prop :=
  (∀ exponent ∈ numeral.exponent, digitsValue exponent.digits < 10 * 2 ^ 16) ∨
    numeral.significant.length + 330 < 2 ^ 16

instance (numeral : Numeral) : Decidable numeral.Readable :=
  inferInstanceAs (Decidable (_ ∨ _))

/-- The exponent is read as written, or both are far out on the same side. -/
theorem signedExponent_cases (numeral : Numeral) :
    numeral.signedExponent = numeral.writtenExponent ∨
      (¬∀ exponent ∈ numeral.exponent, digitsValue exponent.digits < 10 * 2 ^ 16) ∧
        (2 ^ 16 ≤ numeral.signedExponent ∧ 2 ^ 16 ≤ numeral.writtenExponent ∨
          numeral.signedExponent ≤ -2 ^ 16 ∧ numeral.writtenExponent ≤ -2 ^ 16) := by
  unfold signedExponent writtenExponent
  cases numeral.exponent with
  | none => exact .inl rfl
  | some exponent =>
    obtain ⟨same, stays⟩ := @exponentValue_spec exponent.digits
    by_cases small : digitsValue exponent.digits < 10 * 2 ^ 16
    · left
      dsimp only
      rw [same small]
    · have large := stays (by omega)
      refine .inr ⟨by simpa using small, ?_⟩
      dsimp only
      split
      · exact .inr (by omega)
      · exact .inl (by omega)

/-- The value of a numeral is a natural number times a power of ten. -/
theorem magnitude_eq_coefficient (numeral : Numeral) :
    numeral.magnitude = numeral.coefficient *
      10 ^ (numeral.writtenExponent - (numeral.fraction.getD []).length) := by
  rw [magnitude, coefficient, significant, digitsValue_append, zpow_sub₀ (by norm_num),
    zpow_natCast]
  push_cast
  field_simp

/-- Writing out the fraction does not change the value. -/
theorem magnitude_withFraction (numeral : Numeral) :
    numeral.withFraction.magnitude = numeral.magnitude := by
  cases fraction : numeral.fraction with
  | some digits => simp [magnitude, withFraction, writtenExponent, fraction]
  | none =>
    have zero : digitsValue ['0'] = 0 := rfl
    simp [magnitude, withFraction, writtenExponent, fraction, zero, digitsValue_nil]

end Numeral

/-! ### The nearest double -/

/-- Powers of two against powers of ten, by `2 ^ 93 ≤ 10 ^ 28`. -/
theorem two_pow_le_ten_pow {binary decimal : Nat} (order : 28 * binary ≤ 93 * decimal) :
    (2 : ℚ) ^ binary ≤ 10 ^ decimal := by
  have raised : ((2 : ℚ) ^ binary) ^ 28 ≤ (10 ^ decimal) ^ 28 := by
    calc ((2 : ℚ) ^ binary) ^ 28 = 2 ^ (28 * binary) := by rw [← pow_mul, Nat.mul_comm]
      _ ≤ 2 ^ (93 * decimal) := pow_le_pow_right₀ one_le_two order
      _ = (2 ^ 93) ^ decimal := pow_mul ..
      _ ≤ (10 ^ 28) ^ decimal := by gcongr; norm_num
      _ = (10 ^ decimal) ^ 28 := by rw [← pow_mul, ← pow_mul, Nat.mul_comm]
  exact (pow_le_pow_iff_left₀ (by positivity) (by positivity) (by decide)).1 raised

theorem infinity_le_ten_zpow {exponent : Int} (large : 310 ≤ exponent) :
    binary64.magnitude binary64.infinity ≤ 10 ^ exponent := by
  rw [magnitude_infinity64]
  calc (2 : ℚ) ^ (1024 : Int) ≤ 10 ^ (310 : Int) := by
        rw [zpow_ofNat, zpow_ofNat]
        exact two_pow_le_ten_pow (by decide)
    _ ≤ 10 ^ exponent := zpow_le_zpow_right₀ (by norm_num) large

theorem ten_zpow_le_midpoint {exponent : Int} (small : exponent ≤ -331) :
    10 ^ exponent ≤ binary64.midpoint 0 := by
  have smallest : binary64.midpoint 0 = (0 + 1 / 2) * 2 ^ (-1074 : Int) := by
    have counted := @midpoint_count binary64 0 0 (by decide) (.inl rfl)
    rwa [Nat.zero_mul, Nat.add_zero, Nat.cast_zero] at counted
  calc (10 : ℚ) ^ exponent ≤ 10 ^ (-331 : Int) := zpow_le_zpow_right₀ (by norm_num) small
    _ ≤ 2 ^ (-1075 : Int) := by
      rw [zpow_neg, zpow_neg, zpow_ofNat, zpow_ofNat]
      exact inv_anti₀ (by positivity) (two_pow_le_ten_pow (by decide))
    _ = binary64.midpoint 0 := by
      rw [smallest, show (-1075 : Int) = -1074 - 1 from rfl, zpow_sub_one₀ two_ne_zero]
      ring

/-- The double of a decimal is the nearest one to it. -/
theorem isNearest_doubleOfDecimal {coefficient width : Nat} (power : Int)
    (least : coefficient ≠ 0 → 0 < width ∧ 10 ^ (width - 1) ≤ coefficient)
    (most : coefficient < 10 ^ width) :
    binary64.IsNearest (coefficient * 10 ^ power) (doubleOfDecimal coefficient power width) := by
  have scale : (0 : ℚ) < 10 ^ power := by positivity
  unfold doubleOfDecimal
  dsimp only
  split_ifs with zero large small
  · rw [zero, Nat.cast_zero, zero_mul, ← magnitude_zero binary64]
    exact isNearest_magnitude (Nat.zero_le _)
  · obtain ⟨positive, least⟩ := least zero
    have counted : (10 ^ (width - 1) : ℚ) ≤ coefficient := by exact_mod_cast least
    apply isNearest_infinity
    calc binary64.magnitude binary64.infinity ≤ 10 ^ (((width - 1 : Nat) : Int) + power) :=
          infinity_le_ten_zpow (by omega)
      _ = 10 ^ (width - 1) * 10 ^ power := by rw [zpow_add₀ (by norm_num), zpow_natCast]
      _ ≤ coefficient * 10 ^ power := by gcongr
  · have counted : (coefficient : ℚ) < 10 ^ width := by exact_mod_cast most
    have tiny : coefficient * (10 : ℚ) ^ power < binary64.midpoint 0 := by
      calc coefficient * (10 : ℚ) ^ power < 10 ^ width * 10 ^ power := by gcongr
        _ = 10 ^ ((width : Int) + power) := by rw [zpow_add₀ (by norm_num), zpow_natCast]
        _ ≤ binary64.midpoint 0 := ten_zpow_le_midpoint (by omega)
    refine isNearest_iff.2
      ⟨Nat.zero_le _, fun below behind => absurd behind (by omega), fun _ => ?_⟩
    exact ⟨tiny.le, fun tie => absurd tie tiny.ne⟩
  · have positive : 0 < Nat.pow 10 (-power).toNat := Nat.pow_pos (by decide)
    have nearest := isNearest_nearest wide64 (coefficient * Nat.pow 10 power.toNat) positive
    rw [zpow_eq_div, ← mul_div_assoc]
    exact_mod_cast nearest

/-- The double of a decimal depends on the power of ten only while its leading digit is within
reach. -/
theorem doubleOfDecimal_congr {coefficient width : Nat} {power other : Int}
    (beyond : coefficient ≠ 0 → 310 < power + width ∧ 310 < other + width ∨
      power + width < -330 ∧ other + width < -330) :
    doubleOfDecimal coefficient power width = doubleOfDecimal coefficient other width := by
  unfold doubleOfDecimal
  dsimp only
  by_cases zero : coefficient = 0
  · rw [if_pos zero, if_pos zero]
  · rw [if_neg zero, if_neg zero]
    rcases beyond zero with ⟨large, otherLarge⟩ | ⟨small, otherSmall⟩
    · rw [if_pos large, if_pos otherLarge]
    · have within : ¬310 < power + width := by omega
      have otherWithin : ¬310 < other + width := by omega
      rw [if_neg within, if_neg otherWithin, if_pos small, if_pos otherSmall]

namespace Numeral

theorem WellFormed.isDigit_significant {numeral : Numeral} (wellFormed : numeral.WellFormed) :
    ∀ c ∈ numeral.significant, c.isDigit := by
  intro c member
  rcases List.mem_append.1 member with whole | fraction
  · exact wellFormed.whole.2 c whole
  · cases written : numeral.fraction with
    | none => simp [written] at fraction
    | some digits =>
      exact (wellFormed.fraction digits written).2 c (by simpa [written] using fraction)

theorem WellFormed.coefficient_bounds {numeral : Numeral} (wellFormed : numeral.WellFormed) :
    (numeral.coefficient ≠ 0 → 0 < (numeral.significant.dropWhile (· = '0')).length ∧
        10 ^ ((numeral.significant.dropWhile (· = '0')).length - 1) ≤ numeral.coefficient) ∧
      numeral.coefficient < 10 ^ (numeral.significant.dropWhile (· = '0')).length := by
  have digits := wellFormed.isDigit_significant
  refine ⟨pow_le_digitsValue digits, ?_⟩
  rw [coefficient, ← digitsValue_dropWhile]
  exact digitsValue_lt fun c member => digits c ((List.dropWhile_sublist _).subset member)

/-- The double of a numeral is the nearest one to its value as it is read. -/
theorem isNearest_readMagnitude {numeral : Numeral} (wellFormed : numeral.WellFormed) :
    binary64.IsNearest numeral.readMagnitude numeral.double :=
  isNearest_doubleOfDecimal numeral.power wellFormed.coefficient_bounds.1
    wellFormed.coefficient_bounds.2

/-- If the exponent is readable, it is the nearest one to the value as it is written. -/
theorem isNearest_double {numeral : Numeral} (wellFormed : numeral.WellFormed)
    (readable : numeral.Readable) : binary64.IsNearest numeral.magnitude numeral.double := by
  obtain ⟨least, most⟩ := wellFormed.coefficient_bounds
  have same : numeral.double = doubleOfDecimal numeral.coefficient
      (numeral.writtenExponent - (numeral.fraction.getD []).length)
      (numeral.significant.dropWhile (· = '0')).length := by
    rcases numeral.signedExponent_cases with equal | ⟨lost, far⟩
    · rw [double, power, equal]
    · -- The exponents differ, so the digits are few and neither power is within reach.
      have short := readable.resolve_left lost
      have fractionShort : (numeral.fraction.getD []).length ≤ numeral.significant.length := by
        simp [significant]
      have widthShort : (numeral.significant.dropWhile (· = '0')).length ≤
          numeral.significant.length := (List.dropWhile_sublist _).length_le
      refine doubleOfDecimal_congr fun nonzero => ?_
      have positive := (least nonzero).1
      rw [power]
      rcases far with ⟨read, written⟩ | ⟨read, written⟩
      · exact .inl (by omega)
      · exact .inr (by omega)
  rw [magnitude_eq_coefficient, same]
  exact isNearest_doubleOfDecimal _ least most

theorem magnitude_nonneg (numeral : Numeral) : 0 ≤ numeral.magnitude := by
  rw [magnitude_eq_coefficient]
  positivity

/-! ### The single of a numeral -/

/-- The digits of the exponent that are not read do no harm. If the number as read is exactly a
single, its text stays, and the number as written has to be a single too. Otherwise the two have
to come to the same single. -/
def Faithful (numeral : Numeral) : Prop :=
  ∀ read readWidened written writtenWidened, Rounds numeral.readMagnitude read readWidened →
    Rounds numeral.magnitude written writtenWidened →
    if readWidened = read then writtenWidened = written else readWidened = writtenWidened

theorem rounds_double {numeral : Numeral} (wellFormed : numeral.WellFormed) :
    Rounds numeral.readMagnitude numeral.double numeral.widened :=
  rounds_convert (isNearest_readMagnitude wellFormed)

/-- Rounded values are unique, so the two that are compared may be taken as they come. -/
theorem faithful_iff {numeral : Numeral} (wellFormed : numeral.WellFormed) {double widened : Nat}
    (rounds : Rounds numeral.magnitude double widened) :
    numeral.Faithful ↔
      (if numeral.widened = numeral.double then double else numeral.widened) = widened := by
  have asRead := rounds_double wellFormed
  have single : numeral.Faithful ↔
      if numeral.widened = numeral.double then widened = double else numeral.widened = widened := by
    refine ⟨fun faithful => faithful _ _ _ _ asRead rounds, ?_⟩
    intro holds read readWidened written writtenWidened roundsRead roundsWritten
    obtain ⟨rfl, rfl⟩ := roundsRead.unique asRead
    obtain ⟨rfl, rfl⟩ := roundsWritten.unique rounds
    exact holds
  rw [single]
  split
  · exact eq_comm
  · exact Iff.rfl

/-- A readable exponent does no harm. -/
theorem faithful_of_readable {numeral : Numeral} (wellFormed : numeral.WellFormed)
    (readable : numeral.Readable) : numeral.Faithful := by
  rw [faithful_iff wellFormed (rounds_convert (isNearest_double wellFormed readable))]
  split
  · rename_i kept
    exact kept.symm
  · rfl

/-- The nearest double lies half way between two singles, the number itself does not, and the
odd one of the two is nearer to it. -/
def NearTie (numeral : Numeral) : Prop :=
  ∃ double single, binary64.IsNearest numeral.magnitude double ∧
    Halfway numeral.magnitude double ∧ binary32.IsNearest numeral.magnitude single ∧ Odd single

/-- A number that is not near a tie comes to its nearest single by way of its nearest double. -/
theorem isNearest_of_not_nearTie {numeral : Numeral} (decided : ¬numeral.NearTie)
    {double single : Nat} (nearest : binary64.IsNearest numeral.magnitude double)
    (narrows : Narrows double single) : binary32.IsNearest numeral.magnitude single := by
  by_cases half : Halfway numeral.magnitude double
  · obtain ⟨other, nearestSingle⟩ := exists_isNearest wide32 (magnitude_nonneg numeral)
    have even : Even other := by
      by_contra odd
      exact decided ⟨double, other, nearest, half, nearestSingle, Nat.not_even_iff_odd.1 odd⟩
    rwa [eq_of_narrows_of_even nearest narrows nearestSingle even]
  · exact isNearest_of_narrows nearest narrows half

/-- A number that is a double is not near a tie: it is one or it is not. -/
theorem not_nearTie_of_magnitude_eq {numeral : Numeral} {code : Nat}
    (bounded : code ≤ binary64.infinity) (same : binary64.magnitude code = numeral.magnitude) :
    ¬numeral.NearTie := by
  rintro ⟨double, -, nearest, half, -⟩
  rw [← same] at nearest
  obtain rfl := nearest.unique (isNearest_magnitude bounded)
  exact half.inexact same

end Numeral

end Stackline.Number
