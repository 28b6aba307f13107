import Mathlib
import Stackline.Number.Binary

/-!
# Rounding to the nearest code

The codes of a format stand for magnitudes in increasing order, one step of the last place
apart. `Format.IsNearest` says what rounding is, without saying how: of all codes none is
closer, and of two that are equally close it is the even one. Infinity takes part as the code
whose magnitude is the next step behind the largest finite one. There is exactly one nearest
code to every magnitude, and `Format.nearest` finds it.

Nearness is used through midpoints: a code is nearest to what lies between the midpoints to
its neighbours.
-/

namespace Stackline.Number

/-! ### Distances -/

/-- Of two points the upper one is as close exactly from their midpoint on. -/
theorem abs_sub_upper_le_iff {lower upper value : ℚ} (less : lower < upper) :
    |value - upper| ≤ |value - lower| ↔ (lower + upper) / 2 ≤ value := by
  constructor
  · intro closer
    by_contra! below
    rcases abs_cases (value - upper) with ⟨upperEq, _⟩ | ⟨upperEq, _⟩ <;>
      rcases abs_cases (value - lower) with ⟨lowerEq, _⟩ | ⟨lowerEq, _⟩ <;> linarith
  · intro above
    rcases abs_cases (value - upper) with ⟨upperEq, _⟩ | ⟨upperEq, _⟩ <;>
      rcases abs_cases (value - lower) with ⟨lowerEq, _⟩ | ⟨lowerEq, _⟩ <;> linarith

/-- Of two points the lower one is as close exactly up to their midpoint. -/
theorem abs_sub_lower_le_iff {lower upper value : ℚ} (less : lower < upper) :
    |value - lower| ≤ |value - upper| ↔ value ≤ (lower + upper) / 2 := by
  constructor
  · intro closer
    by_contra! above
    rcases abs_cases (value - upper) with ⟨upperEq, _⟩ | ⟨upperEq, _⟩ <;>
      rcases abs_cases (value - lower) with ⟨lowerEq, _⟩ | ⟨lowerEq, _⟩ <;> linarith
  · intro below
    rcases abs_cases (value - upper) with ⟨upperEq, _⟩ | ⟨upperEq, _⟩ <;>
      rcases abs_cases (value - lower) with ⟨lowerEq, _⟩ | ⟨lowerEq, _⟩ <;> linarith

/-! ### Quotients -/

/-- A power as a quotient of natural powers, one of which is one. -/
theorem zpow_eq_div (base : ℚ) (exponent : Int) :
    base ^ exponent = base ^ exponent.toNat / base ^ (-exponent).toNat := by
  rcases le_total 0 exponent with nonneg | nonpos
  · obtain ⟨steps, rfl⟩ := Int.eq_ofNat_of_zero_le nonneg
    simp
  · obtain ⟨steps, equal⟩ := Int.eq_ofNat_of_zero_le (Int.neg_nonneg_of_nonpos nonpos)
    obtain rfl : exponent = -(steps : Int) := by omega
    simp

/-- The exponent of a quotient is that of the binade it lies in. -/
theorem floorLog2_spec {numerator denominator : Nat} (above : 0 < numerator)
    (below : 0 < denominator) :
    (2 : ℚ) ^ floorLog2 numerator denominator ≤ numerator / denominator ∧
      (numerator / denominator : ℚ) < 2 ^ (floorLog2 numerator denominator + 1) := by
  have numeratorLower : (2 : ℚ) ^ numerator.log2 ≤ numerator := by
    exact_mod_cast Nat.log2_self_le above.ne'
  have numeratorUpper : (numerator : ℚ) < 2 ^ (numerator.log2 + 1) := by
    exact_mod_cast Nat.lt_log2_self
  have denominatorLower : (2 : ℚ) ^ denominator.log2 ≤ denominator := by
    exact_mod_cast Nat.log2_self_le below.ne'
  have denominatorUpper : (denominator : ℚ) < 2 ^ (denominator.log2 + 1) := by
    exact_mod_cast Nat.lt_log2_self
  have positive : (0 : ℚ) < denominator := by exact_mod_cast below
  have tested : numerator * Nat.pow 2 (-((numerator.log2 : Int) - denominator.log2)).toNat <
        denominator * Nat.pow 2 ((numerator.log2 : Int) - denominator.log2).toNat ↔
      (numerator / denominator : ℚ) < 2 ^ ((numerator.log2 : Int) - denominator.log2) := by
    rw [zpow_eq_div, div_lt_div_iff₀ positive (by positivity), Nat.pow_eq, Nat.pow_eq,
      mul_comm ((2 : ℚ) ^ _)]
    exact_mod_cast Iff.rfl
  have split (exponent : Int) :
      (2 : ℚ) ^ ((numerator.log2 : Int) - denominator.log2 + exponent) * 2 ^ denominator.log2 =
        2 ^ numerator.log2 * 2 ^ exponent := by
    rw [← zpow_natCast, ← zpow_natCast, ← zpow_add₀ two_ne_zero, ← zpow_add₀ two_ne_zero]
    congr 1
    ring
  unfold floorLog2
  dsimp only
  split_ifs with less
  · rw [tested] at less
    refine ⟨?_, by rwa [sub_add_cancel]⟩
    rw [le_div_iff₀ positive]
    have exact := split (-1)
    rw [← sub_eq_add_neg] at exact
    calc (2 : ℚ) ^ ((numerator.log2 : Int) - denominator.log2 - 1) * denominator
        ≤ 2 ^ ((numerator.log2 : Int) - denominator.log2 - 1) * 2 ^ (denominator.log2 + 1) := by
          gcongr
      _ = 2 ^ numerator.log2 * 2 ^ (-1 : Int) * 2 := by rw [pow_succ, ← mul_assoc, exact]
      _ = 2 ^ numerator.log2 := by
        rw [zpow_neg_one, mul_assoc, inv_mul_cancel₀ two_ne_zero, mul_one]
      _ ≤ numerator := numeratorLower
  · rw [tested, not_lt] at less
    refine ⟨less, ?_⟩
    rw [div_lt_iff₀ positive]
    have exact := split 1
    calc (numerator : ℚ) < 2 ^ (numerator.log2 + 1) := numeratorUpper
      _ = 2 ^ ((numerator.log2 : Int) - denominator.log2 + 1) * 2 ^ denominator.log2 := by
        rw [exact, pow_succ, zpow_one]
      _ ≤ 2 ^ ((numerator.log2 : Int) - denominator.log2 + 1) * denominator := by gcongr

/-- An integer that is nearest to a value, and even if another one is as near. -/
structure RoundsTo (value : ℚ) (count : Nat) : Prop where
  lower : (count : ℚ) - 1 / 2 ≤ value
  upper : value ≤ count + 1 / 2
  even : value = count - 1 / 2 ∨ value = count + 1 / 2 → Even count

theorem roundsTo_roundDiv (numerator : Nat) {denominator : Nat} (positive : 0 < denominator) :
    RoundsTo (numerator / denominator) (roundDiv numerator denominator) := by
  have divisor : (0 : ℚ) < denominator := by exact_mod_cast positive
  have value : (numerator / denominator : ℚ) = (numerator / denominator : Nat) +
      (numerator % denominator : Nat) / denominator := by
    rw [eq_comm, add_div_eq_mul_add_div _ _ divisor.ne', div_left_inj' divisor.ne', mul_comm]
    exact_mod_cast Nat.div_add_mod numerator denominator
  have nonneg : (0 : ℚ) ≤ (numerator % denominator : Nat) / denominator := by positivity
  have less : ((numerator % denominator : Nat) / denominator : ℚ) < 1 := by
    rw [div_lt_one divisor]
    exact_mod_cast Nat.mod_lt numerator positive
  have lower : 2 * (numerator % denominator) < denominator ↔
      ((numerator % denominator : Nat) / denominator : ℚ) < 1 / 2 := by
    rw [div_lt_div_iff₀ divisor two_pos, one_mul, mul_comm]
    exact_mod_cast Iff.rfl
  have upper : denominator < 2 * (numerator % denominator) ↔
      (1 / 2 : ℚ) < (numerator % denominator : Nat) / denominator := by
    rw [div_lt_div_iff₀ two_pos divisor, one_mul, mul_comm]
    exact_mod_cast Iff.rfl
  rw [value]
  unfold roundDiv
  dsimp only
  generalize ((numerator % denominator : Nat) / denominator : ℚ) = part at nonneg less lower upper ⊢
  generalize numerator / denominator = quotient
  split_ifs with small large
  · rw [lower] at small
    refine ⟨by linarith, by linarith, ?_⟩
    rintro (tie | tie) <;> linarith
  · rw [upper] at large
    refine ⟨by push_cast; linarith, by push_cast; linarith, ?_⟩
    rintro (tie | tie) <;> push_cast at tie <;> linarith
  · rw [lower, not_lt] at small
    rw [upper, not_lt] at large
    obtain rfl : part = 1 / 2 := le_antisymm large small
    rcases Nat.even_or_odd quotient with even | odd
    · rw [Nat.even_iff.1 even, Nat.add_zero]
      exact ⟨by linarith, by linarith, fun _ => even⟩
    · rw [Nat.odd_iff.1 odd]
      exact ⟨by push_cast; linarith, by push_cast; linarith, fun _ => odd.add_one⟩

namespace Format

/-! ### Magnitudes -/

/-- The magnitude of a code. -/
def magnitude (format : Format) (code : Nat) : ℚ :=
  format.significand code * 2 ^ format.place code

/-- What lies half way between a code and the next one. -/
def midpoint (format : Format) (code : Nat) : ℚ :=
  (format.magnitude code + format.magnitude (code + 1)) / 2

/-- The code nearest to a magnitude: none is closer, and none but an even one as close as
another. -/
structure IsNearest (format : Format) (value : ℚ) (code : Nat) : Prop where
  bounded : code ≤ format.infinity
  closest : ∀ other ≤ format.infinity,
    |value - format.magnitude code| ≤ |value - format.magnitude other|
  even : ∀ other ≤ format.infinity, other ≠ code →
    |value - format.magnitude code| = |value - format.magnitude other| → Even code

variable {format : Format}

theorem binade_pos (format : Format) : 0 < format.binade := by
  rw [binade, Nat.pow_eq]
  exact Nat.two_pow_pos _

theorem even_binade (wide : 2 ≤ format.precision) : Even format.binade := by
  rw [binade, Nat.pow_eq]
  exact Nat.even_pow.2 ⟨even_two, by omega⟩

/-- The magnitude of a code by its place in its binade. -/
theorem magnitude_of_offset {offset steps : Nat} (inside : offset < format.binade) :
    format.magnitude (offset + (steps + 1) * format.binade) =
      (format.binade + offset : Nat) * 2 ^ (format.unit + steps) := by
  have positive := format.binade_pos
  have quotient : (offset + (steps + 1) * format.binade) / format.binade = steps + 1 := by
    rw [Nat.add_mul_div_right _ _ positive, Nat.div_eq_of_lt inside, Nat.zero_add]
  have remainder : (offset + (steps + 1) * format.binade) % format.binade = offset := by
    rw [Nat.add_mul_mod_self_right, Nat.mod_eq_of_lt inside]
  have normal : ¬offset + (steps + 1) * format.binade < format.binade := by
    rw [Nat.succ_mul]
    omega
  rw [magnitude, significand, place, if_neg normal, if_neg normal, quotient, remainder,
    Nat.add_sub_cancel]

/-- Counting units of the last place gives the magnitude, up to the next binade. -/
theorem magnitude_count {count steps : Nat} (upper : count ≤ 2 * format.binade)
    (normal : steps = 0 ∨ format.binade ≤ count) :
    format.magnitude (count + steps * format.binade) = count * 2 ^ (format.unit + steps) := by
  by_cases subnormal : count < format.binade
  · obtain rfl : steps = 0 := by omega
    rw [Nat.zero_mul, Nat.add_zero, magnitude, significand, place, if_pos subnormal,
      if_pos subnormal, Nat.cast_zero, add_zero]
  · obtain ⟨offset, rfl⟩ := Nat.exists_eq_add_of_le (Nat.le_of_not_lt subnormal)
    by_cases inside : offset < format.binade
    · have code : format.binade + offset + steps * format.binade =
          offset + (steps + 1) * format.binade := by ring
      rw [code, magnitude_of_offset inside]
    · -- The count has reached the next binade, where the step is twice as large.
      obtain rfl : offset = format.binade := by omega
      have code : format.binade + format.binade + steps * format.binade =
          0 + (steps + 1 + 1) * format.binade := by ring
      rw [code, magnitude_of_offset format.binade_pos, Nat.add_zero, Nat.cast_succ, ← add_assoc,
        zpow_add_one₀ two_ne_zero]
      push_cast
      ring

/-- Every code is a count of units of its last place. -/
theorem exists_count (format : Format) (code : Nat) :
    ∃ count steps, code = count + steps * format.binade ∧ count < 2 * format.binade ∧
      (steps = 0 ∨ format.binade ≤ count) := by
  have positive := format.binade_pos
  by_cases subnormal : code < format.binade
  · exact ⟨code, 0, by simp, by omega, .inl rfl⟩
  · have inside := Nat.mod_lt code positive
    refine ⟨format.binade + code % format.binade, code / format.binade - 1, ?_, by omega,
      .inr (Nat.le_add_right _ _)⟩
    have whole := Nat.mod_add_div' code format.binade
    obtain ⟨steps, equal⟩ := Nat.exists_eq_add_of_le' ((Nat.one_le_div_iff positive).2
      (Nat.le_of_not_lt subnormal))
    rw [equal, Nat.succ_mul] at whole
    rw [equal, Nat.add_sub_cancel]
    omega

/-- From a code to the next one it is one unit of the last place. -/
theorem exists_magnitude_succ (format : Format) (code : Nat) :
    ∃ count steps, count < 2 * format.binade ∧
      format.magnitude code = (count : Nat) * 2 ^ (format.unit + (steps : Nat)) ∧
      format.magnitude (code + 1) = (count + 1 : Nat) * 2 ^ (format.unit + (steps : Nat)) := by
  obtain ⟨count, steps, rfl, upper, normal⟩ := format.exists_count code
  refine ⟨count, steps, upper, magnitude_count upper.le normal, ?_⟩
  rw [Nat.add_right_comm]
  exact magnitude_count upper (normal.imp_right Nat.le_succ_of_le)

theorem magnitude_zero (format : Format) : format.magnitude 0 = 0 := by
  have counted := @magnitude_count format 0 0 (Nat.zero_le _) (.inl rfl)
  rwa [Nat.zero_mul, Nat.add_zero, Nat.cast_zero, zero_mul] at counted

theorem midpoint_count {count steps : Nat} (upper : count < 2 * format.binade)
    (normal : steps = 0 ∨ format.binade ≤ count) :
    format.midpoint (count + steps * format.binade) =
      (count + 1 / 2) * 2 ^ (format.unit + steps) := by
  rw [midpoint, magnitude_count upper.le normal, Nat.add_right_comm,
    magnitude_count upper (normal.imp_right Nat.le_succ_of_le)]
  push_cast
  ring

theorem magnitude_strictMono (format : Format) : StrictMono format.magnitude := by
  refine strictMono_nat_of_lt_succ fun code => ?_
  obtain ⟨count, steps, -, here, next⟩ := format.exists_magnitude_succ code
  rw [here, next]
  gcongr
  exact Nat.lt_succ_self count

theorem midpoint_strictMono (format : Format) : StrictMono format.midpoint := by
  intro code other less
  have here := format.magnitude_strictMono less
  have next := format.magnitude_strictMono (Nat.succ_lt_succ less)
  rw [midpoint, midpoint]
  linarith

/-! ### Nearness by midpoints -/

/-- A code is nearest to what lies between the midpoints to its neighbours, ends included if
it is even. -/
theorem isNearest_iff {value : ℚ} {code : Nat} :
    format.IsNearest value code ↔ code ≤ format.infinity ∧
      (∀ below, below + 1 = code →
        format.midpoint below ≤ value ∧ (format.midpoint below = value → Even code)) ∧
      (code < format.infinity →
        value ≤ format.midpoint code ∧ (value = format.midpoint code → Even code)) := by
  constructor
  · intro nearest
    refine ⟨nearest.bounded, ?_, ?_⟩
    · rintro below rfl
      have less := format.magnitude_strictMono (Nat.lt_succ_self below)
      have bound := Nat.le_of_succ_le nearest.bounded
      refine ⟨(abs_sub_upper_le_iff less).1 (nearest.closest below bound), fun tie => ?_⟩
      refine nearest.even below bound (Nat.ne_of_lt (Nat.lt_succ_self below)) ?_
      exact le_antisymm ((abs_sub_upper_le_iff less).2 tie.le)
        ((abs_sub_lower_le_iff less).2 tie.ge)
    · intro finite
      have less := format.magnitude_strictMono (Nat.lt_succ_self code)
      refine ⟨(abs_sub_lower_le_iff less).1 (nearest.closest (code + 1) finite), fun tie => ?_⟩
      refine nearest.even (code + 1) finite (Nat.succ_ne_self code) ?_
      exact le_antisymm ((abs_sub_lower_le_iff less).2 tie.le)
        ((abs_sub_upper_le_iff less).2 tie.ge)
  · rintro ⟨bounded, lower, upper⟩
    -- Against a code further away the midpoint lies further away as well.
    have below {other : Nat} (less : other < code) :
        ∃ previous, previous + 1 = code ∧
          (format.magnitude other + format.magnitude code) / 2 ≤ format.midpoint previous := by
      obtain ⟨previous, rfl⟩ := Nat.exists_eq_succ_of_ne_zero (Nat.ne_zero_of_lt less)
      have order := format.magnitude_strictMono.monotone (Nat.le_of_lt_succ less)
      refine ⟨previous, rfl, ?_⟩
      rw [midpoint]
      linarith
    have above {other : Nat} (less : code < other) :
        format.midpoint code ≤ (format.magnitude code + format.magnitude other) / 2 := by
      have order := format.magnitude_strictMono.monotone (Nat.succ_le_of_lt less)
      rw [midpoint]
      linarith
    refine ⟨bounded, ?_, ?_⟩
    · intro other otherBounded
      rcases lt_trichotomy other code with less | rfl | less
      · obtain ⟨previous, behind, order⟩ := below less
        exact (abs_sub_upper_le_iff (format.magnitude_strictMono less)).2
          (order.trans (lower previous behind).1)
      · exact le_rfl
      · exact (abs_sub_lower_le_iff (format.magnitude_strictMono less)).2
          ((upper (less.trans_le otherBounded)).1.trans (above less))
    · intro other otherBounded different tie
      rcases lt_or_gt_of_ne different with less | less
      · obtain ⟨previous, behind, order⟩ := below less
        have bound := (abs_sub_lower_le_iff (format.magnitude_strictMono less)).1 tie.ge
        exact (lower previous behind).2 (le_antisymm (lower previous behind).1 (bound.trans order))
      · have bound := (abs_sub_upper_le_iff (format.magnitude_strictMono less)).1 tie.ge
        have finite := less.trans_le otherBounded
        exact (upper finite).2 (le_antisymm (upper finite).1 ((above less).trans bound))

/-- There is one nearest code at most. -/
theorem IsNearest.unique {value : ℚ} {code other : Nat} (first : format.IsNearest value code)
    (second : format.IsNearest value other) : code = other := by
  by_contra different
  wlog less : code < other generalizing code other
  · exact this second first (Ne.symm different)
      (lt_of_le_of_ne (le_of_not_gt less) (Ne.symm different))
  obtain ⟨previous, rfl⟩ := Nat.exists_eq_succ_of_ne_zero (Nat.ne_zero_of_lt less)
  obtain ⟨-, -, upper⟩ := isNearest_iff.1 first
  obtain ⟨bounded, lower, -⟩ := isNearest_iff.1 second
  obtain ⟨upperBound, upperEven⟩ := upper (less.trans_le bounded)
  obtain ⟨lowerBound, lowerEven⟩ := lower previous rfl
  have order := format.midpoint_strictMono.monotone (Nat.le_of_lt_succ less)
  have sameMidpoint : format.midpoint code = format.midpoint previous :=
    le_antisymm order (lowerBound.trans upperBound)
  have same := format.midpoint_strictMono.injective sameMidpoint
  subst same
  have evenHere := upperEven (le_antisymm upperBound lowerBound)
  have evenNext := lowerEven (le_antisymm lowerBound upperBound)
  exact (Nat.even_add_one.1 evenNext) evenHere

/-- A code is the nearest one to its own magnitude. -/
theorem isNearest_magnitude {code : Nat} (bounded : code ≤ format.infinity) :
    format.IsNearest (format.magnitude code) code := by
  refine ⟨bounded, fun other _ => ?_, fun other _ different tie => ?_⟩
  · rw [sub_self, abs_zero]
    exact abs_nonneg _
  · rw [sub_self, abs_zero] at tie
    exact absurd (format.magnitude_strictMono.injective (sub_eq_zero.1 (abs_eq_zero.1 tie.symm)))
      different.symm

/-! ### The nearest code is found -/

/-- Between its midpoints a code is the nearest one, or infinity is if that comes before it. -/
theorem isNearest_min {value : ℚ} {code : Nat}
    (lower : ∀ below, below + 1 = code →
      format.midpoint below ≤ value ∧ (format.midpoint below = value → Even code))
    (upper : value ≤ format.midpoint code ∧ (value = format.midpoint code → Even code)) :
    format.IsNearest value (min code format.infinity) := by
  rcases le_or_gt code format.infinity with finite | beyond
  · rw [min_eq_left finite]
    exact isNearest_iff.2 ⟨finite, lower, fun _ => upper⟩
  · rw [min_eq_right beyond.le]
    refine isNearest_iff.2 ⟨le_rfl, fun below behind => ?_, fun less => absurd less (lt_irrefl _)⟩
    obtain ⟨previous, rfl⟩ := Nat.exists_eq_succ_of_ne_zero (Nat.ne_zero_of_lt beyond)
    have order : format.midpoint below < format.midpoint previous :=
      format.midpoint_strictMono (by omega)
    have strict := order.trans_le (lower previous rfl).1
    exact ⟨strict.le, fun tie => absurd tie strict.ne⟩

/-- A count of units that a value rounds to is a nearest code, unless infinity comes before
it. Above the smallest unit the value has to fill its binade. -/
theorem isNearest_count (wide : 2 ≤ format.precision) {value : ℚ} {count steps : Nat}
    (rounds : RoundsTo (value / 2 ^ (format.unit + steps)) count)
    (upper : value / 2 ^ (format.unit + steps) < 2 * format.binade)
    (normal : steps = 0 ∨ (format.binade : ℚ) ≤ value / 2 ^ (format.unit + steps)) :
    format.IsNearest value (min (count + steps * format.binade) format.infinity) := by
  have even : Even count → Even (count + steps * format.binade) :=
    fun evenCount => evenCount.add ((even_binade wide).mul_left steps)
  have positive : (0 : ℚ) < 2 ^ (format.unit + steps) := by positivity
  obtain ⟨scaled, rfl⟩ : ∃ scaled, value = scaled * 2 ^ (format.unit + (steps : Int)) :=
    ⟨_, (div_mul_cancel₀ value positive.ne').symm⟩
  rw [mul_div_cancel_right₀ _ positive.ne'] at rounds upper normal
  have roundsLower := rounds.lower
  have roundsUpper := rounds.upper
  have countUpper : count ≤ 2 * format.binade := by
    have bound : (count : ℚ) < 2 * format.binade + 1 := by linarith
    exact Nat.lt_succ_iff.1 (by exact_mod_cast bound)
  have countNormal : steps = 0 ∨ format.binade ≤ count := by
    refine normal.imp_right fun filled => Nat.lt_succ_iff.1 ?_
    have bound : (format.binade : ℚ) < count + 1 := by linarith
    exact_mod_cast bound
  apply isNearest_min
  · intro below behind
    by_cases inside : steps = 0 ∨ format.binade < count
    · obtain ⟨previous, rfl⟩ : ∃ previous, count = previous + 1 := by
        refine Nat.exists_eq_succ_of_ne_zero ?_
        rintro rfl
        rcases inside with rfl | impossible
        · omega
        · exact absurd impossible (Nat.not_lt_zero _)
      obtain rfl : below = previous + steps * format.binade := by omega
      rw [midpoint_count (by omega) (inside.imp_right Nat.le_of_lt_succ),
        mul_le_mul_iff_of_pos_right positive, mul_left_inj' positive.ne']
      push_cast at roundsLower
      refine ⟨by linarith, fun tie => even (rounds.even (.inl ?_))⟩
      push_cast
      linarith
    · -- At the lower end of a binade the step down is half as large, and nothing is rounded up.
      rw [not_or, not_lt] at inside
      obtain rfl : count = format.binade := le_antisymm inside.2 (countNormal.resolve_left inside.1)
      have filled := normal.resolve_left inside.1
      have strict : format.midpoint below < scaled * 2 ^ (format.unit + steps) := by
        calc format.midpoint below
            < format.magnitude (below + 1) := by
              have order := format.magnitude_strictMono (Nat.lt_succ_self below)
              rw [midpoint]
              linarith
          _ = format.binade * 2 ^ (format.unit + steps) := by
              rw [behind, magnitude_count countUpper (.inr le_rfl)]
          _ ≤ scaled * 2 ^ (format.unit + steps) := by gcongr
      exact ⟨strict.le, fun tie => absurd tie strict.ne⟩
  · rcases Nat.lt_or_ge count (2 * format.binade) with inside | full
    · rw [midpoint_count inside countNormal, mul_le_mul_iff_of_pos_right positive,
        mul_left_inj' positive.ne']
      exact ⟨roundsUpper, fun tie => even (rounds.even (.inr tie))⟩
    · obtain rfl : count = 2 * format.binade := le_antisymm countUpper full
      have strict : scaled * 2 ^ (format.unit + steps) <
          format.midpoint (2 * format.binade + steps * format.binade) := by
        calc scaled * 2 ^ (format.unit + steps)
            < (2 * format.binade) * 2 ^ (format.unit + steps) := by gcongr
          _ = format.magnitude (2 * format.binade + steps * format.binade) := by
              rw [magnitude_count countUpper (.inr (by omega))]
              push_cast
              ring
          _ < format.midpoint (2 * format.binade + steps * format.binade) := by
              have order := format.magnitude_strictMono
                (Nat.lt_succ_self (2 * format.binade + steps * format.binade))
              rw [midpoint]
              linarith
      exact ⟨strict.le, fun tie => absurd tie strict.ne⟩

/-- Rounding a quotient gives the nearest code. -/
theorem isNearest_nearest (wide : 2 ≤ format.precision) (numerator : Nat) {denominator : Nat}
    (positive : 0 < denominator) :
    format.IsNearest (numerator / denominator) (format.nearest numerator denominator) := by
  unfold nearest
  split_ifs with zero
  · rw [zero, Nat.cast_zero, zero_div, ← format.magnitude_zero]
    exact isNearest_magnitude (Nat.zero_le _)
  · obtain ⟨lower, upper⟩ := floorLog2_spec (Nat.pos_of_ne_zero zero) positive
    have placed : format.lastPlace numerator denominator =
      max (floorLog2 numerator denominator - (format.precision - 1 : Nat)) format.unit := rfl
    generalize format.lastPlace numerator denominator = place at placed ⊢
    generalize floorLog2 numerator denominator = exponent at lower upper placed
    obtain ⟨steps, rfl⟩ := Int.exists_add_of_le (placed ▸ le_max_right _ _ : format.unit ≤ place)
    have unitPositive : (0 : ℚ) < 2 ^ (format.unit + steps) := by positivity
    have binade : (format.binade : ℚ) = 2 ^ ((format.precision - 1 : Nat) : Int) := by
      rw [Format.binade, Nat.pow_eq, zpow_natCast]
      push_cast
      rfl
    have scaled : (numerator / denominator / 2 ^ (format.unit + steps) : ℚ) =
        (numerator * Nat.pow 2 (-(format.unit + steps)).toNat : Nat) /
          (denominator * Nat.pow 2 (format.unit + steps).toNat : Nat) := by
      rw [zpow_eq_div, Nat.pow_eq, Nat.pow_eq]
      push_cast
      rw [div_div_eq_mul_div, div_mul_eq_mul_div, div_div]
    dsimp only
    rw [add_sub_cancel_left, Int.toNat_natCast]
    apply isNearest_count wide
    · rw [scaled]
      exact roundsTo_roundDiv _ (Nat.mul_pos positive (Nat.two_pow_pos _))
    · rw [div_lt_iff₀ unitPositive, binade, mul_comm 2, ← zpow_add_one₀ two_ne_zero,
        ← zpow_add₀ two_ne_zero]
      refine upper.trans_le (zpow_le_zpow_right₀ one_le_two ?_)
      omega
    · rcases Nat.eq_zero_or_pos steps with none | some
      · exact .inl none
      · refine .inr ?_
        rw [le_div_iff₀ unitPositive, binade, ← zpow_add₀ two_ne_zero]
        refine le_trans (zpow_le_zpow_right₀ one_le_two ?_) lower
        omega

/-- Every value has a nearest code. -/
theorem exists_isNearest (wide : 2 ≤ format.precision) {value : ℚ} (nonneg : 0 ≤ value) :
    ∃ code, format.IsNearest value code := by
  have whole : ((value.num.toNat : Nat) : ℚ) / value.den = value := by
    have numerator : ((value.num.toNat : Nat) : Int) = value.num :=
      Int.toNat_of_nonneg (Rat.num_nonneg.2 nonneg)
    rw [← Int.cast_natCast, numerator, Rat.num_div_den]
  refine ⟨_, whole ▸ isNearest_nearest wide value.num.toNat value.den_pos⟩

end Format

end Stackline.Number
