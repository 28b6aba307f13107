import Mathlib
import Stackline.Proofs.Number.Rounding

/-!
# Single and double precision

How values pass between the two formats. Every single is a double, and so is everything half
way between two neighbouring singles. Narrowing a double takes the nearest single, widening a
single is exact, and a widened single is narrowed to itself. A value that is rounded to a
double and then to a single comes to its own nearest single, unless its double lies half way
between two singles and it does not.
-/

namespace Stackline.Number

open Format

/-! ### Values of a format -/

namespace Format

variable {format : Format}

/-- A short count of any unit from the smallest one on is the magnitude of a code. -/
theorem exists_magnitude_eq {count steps : Nat} (short : count ≤ 2 * format.binade) :
    ∃ code, format.magnitude code = count * 2 ^ (format.unit + steps) := by
  induction steps generalizing count with
  | zero =>
    refine ⟨count + 0 * format.binade, magnitude_count short (.inl rfl)⟩
  | succ steps inductionHypothesis =>
    by_cases normal : format.binade ≤ count
    · exact ⟨_, magnitude_count short (.inr normal)⟩
    · -- Below the binade a smaller unit serves as well.
      have doubled : 2 * count ≤ 2 * format.binade := by omega
      obtain ⟨code, found⟩ := inductionHypothesis doubled
      refine ⟨code, found.trans ?_⟩
      rw [Nat.cast_succ, ← add_assoc, zpow_add_one₀ two_ne_zero]
      push_cast
      ring

/-- The magnitude that infinity takes part with. -/
theorem magnitude_infinity (steps : Nat) (top : format.top = steps + 1) :
    format.magnitude format.infinity =
      2 ^ ((format.precision - 1 : Nat) + format.unit + steps) := by
  have counted := @magnitude_count format format.binade steps (by omega) (.inr le_rfl)
  have code : format.infinity = format.binade + steps * format.binade := by
    rw [infinity, top, Nat.succ_mul, Nat.add_comm]
  have power : (format.binade : ℚ) = 2 ^ ((format.precision - 1 : Nat) : Int) := by
    rw [binade, Nat.pow_eq, zpow_natCast]
    push_cast
    rfl
  rw [code, counted, power, ← zpow_add₀ two_ne_zero, add_assoc]

/-- What is not below infinity is nearest to it. -/
theorem isNearest_infinity {value : ℚ} (beyond : format.magnitude format.infinity ≤ value) :
    format.IsNearest value format.infinity := by
  refine isNearest_iff.2 ⟨le_rfl, fun below behind => ?_, fun less => absurd less (lt_irrefl _)⟩
  have order := format.magnitude_strictMono (Nat.lt_succ_self below)
  rw [← behind] at beyond
  have strict : format.midpoint below < value := by
    rw [midpoint]
    linarith
  exact ⟨strict.le, fun tie => absurd tie strict.ne⟩

end Format

theorem wide64 : 2 ≤ binary64.precision := by decide

theorem wide32 : 2 ≤ binary32.precision := by decide

theorem magnitude_infinity64 : binary64.magnitude binary64.infinity = 2 ^ (1024 : Int) :=
  magnitude_infinity 2046 rfl

theorem magnitude_infinity32 : binary32.magnitude binary32.infinity = 2 ^ (128 : Int) :=
  magnitude_infinity 254 rfl

/-! ### Singles among doubles -/

/-- A count of at most 53 bits in any unit from the smallest one on is a double. -/
theorem exists_double {count : Nat} {exponent : Int} (short : count ≤ 2 * binary64.binade)
    (above : binary64.unit ≤ exponent) :
    ∃ double, binary64.magnitude double = count * 2 ^ exponent := by
  obtain ⟨steps, rfl⟩ := Int.exists_add_of_le above
  exact exists_magnitude_eq short

/-- Every single is a double. -/
theorem exists_double_eq_magnitude (single : Nat) :
    ∃ double, binary64.magnitude double = binary32.magnitude single := by
  obtain ⟨count, steps, upper, here, -⟩ := binary32.exists_magnitude_succ single
  rw [here]
  refine exists_double (upper.le.trans (by decide)) ?_
  simp only [binary64, binary32]
  omega

/-- What lies half way between two neighbouring singles is a double. -/
theorem exists_double_eq_midpoint (single : Nat) :
    ∃ double, binary64.magnitude double = binary32.midpoint single := by
  obtain ⟨count, steps, upper, here, next⟩ := binary32.exists_magnitude_succ single
  have halved : binary32.midpoint single =
      (2 * count + 1 : Nat) * 2 ^ (binary32.unit + steps - 1) := by
    rw [Format.midpoint, here, next, zpow_sub_one₀ two_ne_zero]
    push_cast
    ring
  rw [halved]
  have binades : 2 * (2 * binary32.binade) ≤ 2 * binary64.binade := by decide
  refine exists_double (by omega) ?_
  simp only [binary64, binary32]
  omega

/-! ### Narrowing and widening -/

/-- A double is narrowed to the nearest single, and infinity to infinity. -/
inductive Narrows (double : Nat) : Nat → Prop where
  | finite {single : Nat} (finite : double < binary64.infinity)
      (nearest : binary32.IsNearest (binary64.magnitude double) single) : Narrows double single
  | infinite (infinite : double = binary64.infinity) : Narrows double binary32.infinity

/-- A single is widened to the double of its magnitude, and infinity to infinity. -/
inductive Widens (single : Nat) : Nat → Prop where
  | finite {double : Nat} (finite : single < binary32.infinity)
      (bounded : double < binary64.infinity)
      (same : binary64.magnitude double = binary32.magnitude single) : Widens single double
  | infinite (infinite : single = binary32.infinity) : Widens single binary64.infinity

/-- The quotient of a code is its magnitude. -/
theorem Format.quotient_eq_magnitude (format : Format) (code : Nat) :
    ((format.quotient code).1 / (format.quotient code).2 : ℚ) = format.magnitude code := by
  rw [quotient, magnitude, zpow_eq_div, Nat.pow_eq, Nat.pow_eq]
  push_cast
  rw [mul_div_assoc]

/-- Converting a finite code gives the nearest one of the other format. -/
theorem Format.isNearest_convert {source target : Format} (wide : 2 ≤ target.precision) {code : Nat}
    (finite : code < source.infinity) :
    target.IsNearest (source.magnitude code) (source.convert target code) := by
  rw [convert, if_neg (Nat.not_le.2 finite), ← quotient_eq_magnitude]
  exact isNearest_nearest wide _ (Nat.two_pow_pos _)

theorem narrows_convert {double : Nat} (bounded : double ≤ binary64.infinity) :
    Narrows double (binary64.convert binary32 double) := by
  rcases Nat.lt_or_eq_of_le bounded with finite | infinite
  · exact .finite finite (isNearest_convert wide32 finite)
  · rw [convert, if_pos infinite.ge]
    exact .infinite infinite

/-- What is less than infinity as a single is less than infinity as a double. -/
theorem lt_infinity_of_magnitude_lt {double : Nat}
    (small : binary64.magnitude double < binary32.magnitude binary32.infinity) :
    double < binary64.infinity := by
  rw [← binary64.magnitude_strictMono.lt_iff_lt, magnitude_infinity64]
  rw [magnitude_infinity32] at small
  exact small.trans (zpow_lt_zpow_right₀ one_lt_two (by decide))

theorem widens_convert {single : Nat} (bounded : single ≤ binary32.infinity) :
    Widens single (binary32.convert binary64 single) := by
  rcases Nat.lt_or_eq_of_le bounded with finite | infinite
  · obtain ⟨double, same⟩ := exists_double_eq_magnitude single
    have small : double < binary64.infinity :=
      lt_infinity_of_magnitude_lt (same ▸ binary32.magnitude_strictMono finite)
    have nearest :
        binary64.IsNearest (binary32.magnitude single) (binary32.convert binary64 single) :=
      isNearest_convert wide64 finite
    rw [← same] at nearest
    rw [nearest.unique (isNearest_magnitude small.le)]
    exact .finite finite small same
  · rw [convert, if_pos infinite.ge]
    exact .infinite infinite

theorem Narrows.unique {double single other : Nat} (first : Narrows double single)
    (second : Narrows double other) : single = other := by
  cases first with
  | finite finite nearest =>
    cases second with
    | finite _ otherNearest => exact nearest.unique otherNearest
    | infinite infinite => exact absurd infinite finite.ne
  | infinite infinite =>
    cases second with
    | finite finite _ => exact absurd infinite finite.ne
    | infinite _ => rfl

theorem Widens.unique {single double other : Nat} (first : Widens single double)
    (second : Widens single other) : double = other := by
  cases first with
  | finite finite _ same =>
    cases second with
    | finite _ _ otherSame =>
      exact binary64.magnitude_strictMono.injective (same.trans otherSame.symm)
    | infinite infinite => exact absurd infinite finite.ne
  | infinite infinite =>
    cases second with
    | finite finite _ _ => exact absurd infinite finite.ne
    | infinite _ => rfl

theorem Widens.bounded {single double : Nat} (widens : Widens single double) :
    double ≤ binary64.infinity := by
  cases widens with
  | finite _ bounded _ => exact bounded.le
  | infinite _ => exact le_rfl

/-- A widened single is narrowed to itself. -/
theorem Widens.narrows {single double : Nat} (widens : Widens single double) :
    Narrows double single := by
  cases widens with
  | finite finite bounded same => exact .finite bounded (same ▸ isNearest_magnitude finite.le)
  | infinite infinite => exact infinite ▸ .infinite rfl

/-! ### Rounding twice -/

/-- What a double is narrowed to is the nearest single, also for infinity. -/
theorem Narrows.isNearest {double single : Nat} (narrows : Narrows double single) :
    binary32.IsNearest (binary64.magnitude double) single := by
  cases narrows with
  | finite _ nearest => exact nearest
  | infinite infinite =>
    apply isNearest_infinity
    rw [infinite, magnitude_infinity32, magnitude_infinity64]
    exact zpow_le_zpow_right₀ one_le_two (by decide)

/-- The double nearest to a value, and what it comes to by narrowing and widening. -/
structure Rounds (value : ℚ) (double widened : Nat) : Prop where
  nearest : binary64.IsNearest value double
  narrowed : ∃ single, Narrows double single ∧ Widens single widened

theorem Rounds.unique {value : ℚ} {double widened other otherWidened : Nat}
    (first : Rounds value double widened) (second : Rounds value other otherWidened) :
    double = other ∧ widened = otherWidened := by
  obtain ⟨nearest, single, narrows, widens⟩ := first
  obtain ⟨otherNearest, otherSingle, otherNarrows, otherWidens⟩ := second
  obtain rfl := nearest.unique otherNearest
  obtain rfl := narrows.unique otherNarrows
  exact ⟨rfl, widens.unique otherWidens⟩

/-- The nearest double comes to its conversion there and back. -/
theorem rounds_convert {value : ℚ} {double : Nat} (nearest : binary64.IsNearest value double) :
    Rounds value double (binary32.convert binary64 (binary64.convert binary32 double)) := by
  have narrows := narrows_convert nearest.bounded
  exact ⟨nearest, _, narrows, widens_convert narrows.isNearest.bounded⟩

/-- Rounding to a double carries no value up across the middle between two singles. -/
theorem midpoint_lt_of_isNearest {value : ℚ} {double single : Nat}
    (nearest : binary64.IsNearest value double)
    (passed : binary32.midpoint single < binary64.magnitude double) :
    binary32.midpoint single < value := by
  obtain ⟨other, same⟩ := exists_double_eq_midpoint single
  rw [← same] at passed ⊢
  have less := binary64.magnitude_strictMono.lt_iff_lt.1 passed
  have closer := (abs_sub_upper_le_iff passed).1
    (nearest.closest other (less.le.trans nearest.bounded))
  linarith

/-- Nor down. -/
theorem lt_midpoint_of_isNearest {value : ℚ} {double single : Nat}
    (nearest : binary64.IsNearest value double) (finite : single < binary32.infinity)
    (ahead : binary64.magnitude double < binary32.midpoint single) :
    value < binary32.midpoint single := by
  obtain ⟨other, same⟩ := exists_double_eq_midpoint single
  have small : other < binary64.infinity := by
    apply lt_infinity_of_magnitude_lt
    have here := binary32.magnitude_strictMono (Nat.lt_succ_self single)
    have last := binary32.magnitude_strictMono.monotone (Nat.succ_le_of_lt finite)
    rw [same, Format.midpoint]
    linarith
  rw [← same] at ahead ⊢
  have closer := (abs_sub_lower_le_iff ahead).1 (nearest.closest other small.le)
  linarith

/-- A double stands for a value half way between two singles, where the value itself does
not lie. -/
structure Halfway (value : ℚ) (double : Nat) : Prop where
  inexact : binary64.magnitude double ≠ value
  between : ∃ single < binary32.infinity, binary64.magnitude double = binary32.midpoint single

/-- Rounding to a double first makes no difference to the single, unless that double is half
way between two. -/
theorem isNearest_of_narrows {value : ℚ} {double single : Nat}
    (nearest : binary64.IsNearest value double) (narrows : Narrows double single)
    (decided : ¬Halfway value double) : binary32.IsNearest value single := by
  have narrowed := narrows.isNearest
  by_cases exactly : binary64.magnitude double = value
  · exact exactly ▸ narrowed
  have apart {other : Nat} (finite : other < binary32.infinity) :
      binary64.magnitude double ≠ binary32.midpoint other :=
    fun same => decided ⟨exactly, other, finite, same⟩
  obtain ⟨bounded, lower, upper⟩ := isNearest_iff.1 narrowed
  -- The double is strictly between the midpoints next to the single, and so is the value.
  refine isNearest_iff.2 ⟨bounded, fun below behind => ?_, fun finite => ?_⟩
  · have strict := midpoint_lt_of_isNearest nearest
      (lt_of_le_of_ne (lower below behind).1 (apart (by omega)).symm)
    exact ⟨strict.le, fun tie => absurd tie strict.ne⟩
  · have strict := lt_midpoint_of_isNearest nearest finite
      (lt_of_le_of_ne (upper finite).1 (apart finite))
    exact ⟨strict.le, fun tie => absurd tie strict.ne⟩

/-- Nor does it make a difference if the nearest single is even. -/
theorem eq_of_narrows_of_even {value : ℚ} {double single other : Nat}
    (nearest : binary64.IsNearest value double) (narrows : Narrows double single)
    (nearestSingle : binary32.IsNearest value other) (even : Even other) : single = other := by
  obtain ⟨bounded, lower, upper⟩ := isNearest_iff.1 nearestSingle
  have rounded : binary32.IsNearest (binary64.magnitude double) other := by
    refine isNearest_iff.2 ⟨bounded, fun below behind => ⟨?_, fun _ => even⟩,
      fun finite => ⟨?_, fun _ => even⟩⟩
    · by_contra ahead
      have less := lt_midpoint_of_isNearest nearest (by omega) (not_le.1 ahead)
      exact absurd (lower below behind).1 (not_le.2 less)
    · by_contra passed
      have more := midpoint_lt_of_isNearest nearest (not_le.1 passed)
      exact absurd (upper finite).1 (not_le.2 more)
  exact narrows.isNearest.unique rounded

end Stackline.Number
