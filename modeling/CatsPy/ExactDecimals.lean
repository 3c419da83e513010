import CatsPy.DecimalContext

/-!
# Short decimals

Numbers with few digits on both sides of the point are added and multiplied
without rounding, and so is the whole part of their quotient taken. On them a
context computes what exact arithmetic does.
-/
namespace DecimalArithmetic
open RoundingGrid

namespace Decimal

/-- So many digits, at most so many of them after the point. -/
structure Short (places digits : ℕ) (d : Decimal) : Prop where
  unit : -(places : ℤ) ≤ d.exponent
  small : d.magnitude < 10 ^ (digits - places : ℤ)

theorem abs_value (d : Decimal) : |d.value| = d.magnitude := by
  unfold value
  split
  · rw [abs_neg, abs_of_nonneg d.magnitude_nonneg]
  · exact abs_of_nonneg d.magnitude_nonneg

/-- A number counts the units of any place up to its own. -/
theorem units {places : ℕ} {d : Decimal} (unit : -(places : ℤ) ≤ d.exponent) :
    ∃ m : ℕ, d.magnitude = m * 10 ^ (-places : ℤ) := by
  obtain ⟨k, gap⟩ := Int.eq_ofNat_of_zero_le (sub_nonneg.mpr unit)
  refine ⟨d.coefficient * 10 ^ k, ?_⟩
  rw [magnitude, show d.exponent = k + -places by omega, zpow_add₀ (by norm_num), zpow_natCast]
  push_cast
  ring

theorem Short.count {places digits : ℕ} {d : Decimal} (short : d.Short places digits) :
    ∃ m : ℕ, m < 10 ^ digits ∧ d.magnitude = m * 10 ^ (-places : ℤ) := by
  obtain ⟨m, counted⟩ := units short.unit
  refine ⟨m, ?_, counted⟩
  have small := short.small
  rw [counted, sub_eq_add_neg, zpow_add₀ (by norm_num), zpow_natCast,
    mul_lt_mul_iff_of_pos_right (zpow_pos (by norm_num) _)] at small
  exact_mod_cast small

/-- Their quotient is one of counts of a common unit. -/
theorem Short.ratio {places digits : ℕ} {x y : Decimal} (short : x.Short places digits)
    (unit : -(places : ℤ) ≤ y.exponent) (divisor : y.coefficient ≠ 0) :
    ∃ a b : ℕ, a < 10 ^ digits ∧ 0 < b ∧ x.magnitude / y.magnitude = a / b := by
  obtain ⟨a, few, dividend⟩ := short.count
  obtain ⟨b, amount⟩ := units unit
  have scale : (0 : ℚ) < 10 ^ (-places : ℤ) := zpow_pos (by norm_num) _
  have some_divisor : 0 < b := by
    have positive := y.magnitude_pos_iff.mpr divisor
    rw [amount, mul_pos_iff_of_pos_right scale] at positive
    exact_mod_cast positive
  exact ⟨a, b, few, some_divisor, by rw [dividend, amount, mul_div_mul_right _ _ scale.ne']⟩

end Decimal

namespace Context

variable {ctx : Context}

/-- The range goes past so many places after the point and all digits before it. -/
structure Roomy (ctx : Context) (places : ℕ) : Prop where
  low : ctx.emin < -places
  high : ctx.precision ≤ ctx.emax

/-- A count of ideal units that fits the digits is returned as it is. -/
theorem finish_exact (negative : Bool) {m : ℕ} {ideal : ℤ} (few : m < 10 ^ ctx.precision)
    (low : ctx.etiny ≤ ideal) (high : (m * 10 ^ ideal : ℚ) < 10 ^ (ctx.emax + 1)) :
    ∃ r, ctx.finish negative (m * 10 ^ ideal) ideal = .ok r ∧ r.negative = negative ∧
      r.magnitude = m * 10 ^ ideal ∧ min ideal ctx.emax ≤ r.exponent := by
  rcases Nat.eq_zero_or_pos m with rfl | some
  · rw [Nat.cast_zero, zero_mul, finish, if_pos rfl, max_eq_left low]
    exact ⟨_, rfl, rfl, by simp [Decimal.magnitude], le_rfl⟩
  · have positive : (0 : ℚ) < m * 10 ^ ideal := mul_pos (Nat.cast_pos.mpr some) (unit_pos ideal)
    have within : ¬ ctx.emax < Int.log 10 (m * 10 ^ ideal : ℚ) := by
      have leading := (lt_power_iff positive _).mp high
      omega
    have place : ctx.lastPlace (m * 10 ^ ideal) ≤ ideal := by
      have few_cast : (m : ℚ) < 10 ^ (ctx.precision : ℤ) := by exact_mod_cast few
      have below : (m * 10 ^ ideal : ℚ) < 10 ^ (ctx.precision + ideal) := by
        rw [zpow_add₀ (by norm_num)]
        exact mul_lt_mul_of_pos_right few_cast (unit_pos ideal)
      have leading := (lt_power_iff positive _).mp below
      rw [lastPlace, max_le_iff]
      omega
    have count : (m * 10 ^ ideal : ℚ) / 10 ^ ideal = m := mul_div_cancel_right₀ _ (unit_pos ideal).ne'
    rw [finish, if_neg positive.ne', if_neg within, count, if_pos ⟨place, Rat.den_natCast m⟩]
    exact ⟨_, rfl, rfl, by simp [Decimal.magnitude], min_le_left _ _⟩

/-- A count of units below the digits and the range, by its value. -/
theorem finish_short (negative : Bool) {places digits m : ℕ} {ideal : ℤ} (room : ctx.Roomy places)
    (fits : digits ≤ ctx.precision) (unit : -(places : ℤ) ≤ ideal)
    (small : (m * 10 ^ ideal : ℚ) < 10 ^ (digits - places : ℤ)) :
    ∃ r, ctx.finish negative (m * 10 ^ ideal) ideal = .ok r ∧ r.negative = negative ∧
      r.magnitude = m * 10 ^ ideal ∧ r.Short places digits := by
  obtain ⟨low, high⟩ := room
  have digits_pos := ctx.positive
  have few : m < 10 ^ ctx.precision := by
    have below := small.trans_le (power_mono (show (digits - places : ℤ) ≤ ctx.precision + ideal by omega))
    rw [zpow_add₀ (by norm_num), mul_lt_mul_iff_of_pos_right (unit_pos ideal), zpow_natCast] at below
    exact_mod_cast below
  have bounded := small.trans_le (power_mono (show (digits - places : ℤ) ≤ ctx.emax + 1 by omega))
  obtain ⟨r, returned, sign, size, place⟩ :=
    finish_exact negative few (by rw [etiny]; omega) bounded
  exact ⟨r, returned, sign, size, by omega, size ▸ small⟩

section Exactness

variable {x y : Decimal} {places places' digits digits' : ℕ}

/-- A product below the digits is returned as it is. -/
theorem multiply_short (room : ctx.Roomy places) (fits : digits ≤ ctx.precision)
    (unit : -(places : ℤ) ≤ x.exponent + y.exponent)
    (small : x.magnitude * y.magnitude < 10 ^ (digits - places : ℤ)) :
    ∃ r, ctx.multiply x y = .ok r ∧ r.value = x.value * y.value ∧ r.Short places digits := by
  have amount : x.magnitude * y.magnitude =
      ((x.coefficient * y.coefficient : ℕ) : ℚ) * 10 ^ (x.exponent + y.exponent) := by
    rw [Decimal.magnitude, Decimal.magnitude, zpow_add₀ (by norm_num)]
    push_cast
    ring
  rw [amount] at small
  obtain ⟨r, returned, sign, size, short⟩ := finish_short (x.negative != y.negative) room fits unit small
  refine ⟨r, by rw [multiply, amount, returned], ?_, short⟩
  rw [Decimal.value, sign, size, ← amount, Decimal.value, Decimal.value]
  cases x.negative <;> cases y.negative <;> simp

theorem multiply_exact (room : ctx.Roomy (places + places')) (fits : digits + digits' ≤ ctx.precision)
    (left : x.Short places digits) (right : y.Short places' digits') :
    ∃ r, ctx.multiply x y = .ok r ∧ r.value = x.value * y.value ∧
      r.Short (places + places') (digits + digits') := by
  have unit := add_le_add left.unit right.unit
  refine multiply_short room fits (by push_cast; omega) ?_
  calc x.magnitude * y.magnitude < 10 ^ (digits - places : ℤ) * 10 ^ (digits' - places' : ℤ) :=
        mul_lt_mul'' left.small right.small x.magnitude_nonneg y.magnitude_nonneg
    _ = 10 ^ ((digits + digits' : ℕ) - (places + places' : ℕ) : ℤ) := by
        rw [← zpow_add₀ (by norm_num)]
        congr 1
        push_cast
        ring

theorem add_exact (room : ctx.Roomy places) (fits : digits + 1 ≤ ctx.precision)
    (left : x.Short places digits) (right : y.Short places digits) :
    ∃ r, ctx.add x y = .ok r ∧ r.value = x.value + y.value ∧ r.Short places (digits + 1) := by
  have counted (d : Decimal) (place : min x.exponent y.exponent ≤ d.exponent) :
      OnGrid (10 ^ min x.exponent y.exponent) d.value := by
    obtain ⟨n, multiple⟩ := power_onGrid place
    have size : OnGrid (10 ^ min x.exponent y.exponent) d.magnitude :=
      ⟨d.coefficient * n, by rw [Decimal.magnitude, multiple]; push_cast; ring⟩
    unfold Decimal.value
    split
    · exact size.neg
    · exact size
  obtain ⟨z, sum⟩ := (counted x (min_le_left _ _)).add (counted y (min_le_right _ _))
  have amount : |x.value + y.value| = (z.natAbs : ℚ) * 10 ^ min x.exponent y.exponent := by
    rw [sum, abs_mul, abs_of_pos (unit_pos _), Nat.cast_natAbs, Int.cast_abs]
  have small : |x.value + y.value| < 10 ^ ((digits + 1 : ℕ) - places : ℤ) := by
    have bound := abs_add_le x.value y.value
    have power : (10 : ℚ) ^ ((digits + 1 : ℕ) - places : ℤ) = 10 * 10 ^ (digits - places : ℤ) := by
      rw [← zpow_one_add₀ (by norm_num)]
      congr 1
      push_cast
      ring
    have first := left.small
    have second := right.small
    rw [Decimal.abs_value, Decimal.abs_value] at bound
    have room := unit_pos (digits - places : ℤ)
    rw [power]
    linarith
  rw [amount] at small
  obtain ⟨r, returned, sign, size, short⟩ := finish_short
    (decide (x.value + y.value < 0 ∨ x.value + y.value = 0 ∧ x.negative ∧ y.negative))
    room fits (le_min left.unit right.unit) small
  refine ⟨r, by rw [add, amount, returned], ?_, short⟩
  rw [Decimal.value, sign, size, ← amount]
  rcases lt_trichotomy (x.value + y.value) 0 with below | zero | above
  · simp [below, abs_of_neg]
  · simp [zero]
  · simp [above.not_gt, above.ne', abs_of_pos above]

theorem subtract_exact (room : ctx.Roomy places) (fits : digits + 1 ≤ ctx.precision)
    (left : x.Short places digits) (right : y.Short places digits) :
    ∃ r, ctx.subtract x y = .ok r ∧ r.value = x.value - y.value ∧ r.Short places (digits + 1) := by
  have turned : ({ y with negative := !y.negative } : Decimal).value = -y.value := by
    unfold Decimal.value
    cases y.negative <;> simp [Decimal.magnitude]
  obtain ⟨r, returned, sum, short⟩ := add_exact room fits left
    (show ({ y with negative := !y.negative } : Decimal).Short places digits from ⟨right.unit, right.small⟩)
  exact ⟨r, returned, by rw [sum, turned, sub_eq_add_neg], short⟩

end Exactness

section Quotients

variable {x y : Decimal} {places digits : ℕ}

/-- A quotient of short counts is rounded by less than one count of the divisor. -/
theorem nearest_sub_lt {a b : ℕ} (positive : (0 : ℚ) < a / b) (divisor : (0 : ℚ) < b)
    (short : (a : ℚ) < 10 ^ (ctx.precision - 1 : ℤ))
    (normal : ctx.etiny ≤ Int.log 10 (a / b : ℚ) + 1 - ctx.precision) :
    ctx.nearest (a / b) < a / b + 1 / b := by
  have leading := leading_le positive
  have whole := unit_pos (ctx.precision - 1 : ℤ)
  have unit : (10 : ℚ) ^ ctx.lastPlace (a / b) < 1 / b := by
    have split : (10 : ℚ) ^ ctx.lastPlace (a / b) * 10 ^ (ctx.precision - 1 : ℤ) =
        10 ^ Int.log 10 (a / b : ℚ) := by
      rw [lastPlace, max_eq_left normal, ← zpow_add₀ (by norm_num)]
      congr 1
      ring
    rw [← split] at leading
    have below : (10 : ℚ) ^ ctx.lastPlace (a / b) * 10 ^ (ctx.precision - 1 : ℤ) <
        1 / b * 10 ^ (ctx.precision - 1 : ℤ) := by
      calc (10 : ℚ) ^ ctx.lastPlace (a / b) * 10 ^ (ctx.precision - 1 : ℤ) ≤ a / b := leading
        _ = 1 / b * a := by ring
        _ < 1 / b * 10 ^ (ctx.precision - 1 : ℤ) := mul_lt_mul_of_pos_left short (one_div_pos.mpr divisor)
    exact lt_of_mul_lt_mul_right below whole.le
  have error := quantize_error halfEven_nearest (unit_pos (ctx.lastPlace (a / b))) (a / b : ℚ)
  have half := unit_pos (ctx.lastPlace (a / b))
  have close := (abs_le.mp error).2
  rw [nearest]
  linarith

/-- A value below the range stays below one. -/
theorem nearest_lt_one {q : ℚ} (positive : 0 < q) (low : ctx.emin < 0)
    (subnormal : Int.log 10 q + 1 - ctx.precision < ctx.etiny) : ctx.nearest q < 1 := by
  have digits := ctx.positive
  have last : ctx.lastPlace q ≤ -1 := by
    rw [lastPlace, max_eq_right subnormal.le, etiny]
    omega
  have tenth : q ≤ 10 ^ (-1 : ℤ) := by
    rw [etiny] at subnormal
    exact (lt_next_power positive).le.trans (power_mono (by omega))
  have kept := (nearest_respectsGrid q).upper (power_onGrid last) tenth
  exact kept.trans_lt (by norm_num)

/-- The rounding of a quotient of short counts reaches no whole number the
quotient does not reach: the next one is a whole count of the divisor away. -/
theorem natCast_le_nearest_iff (low : ctx.emin < 0) {a b : ℕ} (some : 0 < a) (divisor : 0 < b)
    (short : a < 10 ^ (ctx.precision - 1)) (k : ℕ) :
    (k : ℚ) ≤ ctx.nearest (a / b) ↔ (k : ℚ) ≤ a / b := by
  have digits := ctx.positive
  have divisor_pos : (0 : ℚ) < b := Nat.cast_pos.mpr divisor
  have positive : (0 : ℚ) < a / b := div_pos (Nat.cast_pos.mpr some) divisor_pos
  have short_cast : (a : ℚ) < 10 ^ (ctx.precision - 1 : ℤ) := by
    have power : (ctx.precision - 1 : ℤ) = (ctx.precision - 1 : ℕ) := by omega
    rw [power, zpow_natCast]
    exact_mod_cast short
  constructor
  · contrapose!
    intro beyond
    have next : (a / b : ℚ) + 1 / b ≤ k := by
      have counted : a < k * b := by exact_mod_cast (div_lt_iff₀ divisor_pos).mp beyond
      rw [← add_div, div_le_iff₀ divisor_pos]
      exact_mod_cast counted
    rcases le_or_gt ctx.etiny (Int.log 10 (a / b : ℚ) + 1 - ctx.precision) with normal | subnormal
    · exact (nearest_sub_lt positive divisor_pos short_cast normal).trans_le next
    · have one : (1 : ℚ) ≤ k := by
        have present : 0 < k := by exact_mod_cast positive.trans beyond
        exact_mod_cast present
      exact (nearest_lt_one positive low subnormal).trans_le one
  · intro reached
    have place : Int.log 10 (a / b : ℚ) < ctx.precision - 1 := by
      have least : (a / b : ℚ) ≤ a := div_le_self (Nat.cast_nonneg a) (by exact_mod_cast divisor)
      exact (lt_power_iff positive _).mp (least.trans_lt short_cast)
    have last : ctx.lastPlace (a / b) ≤ 0 := by
      rw [lastPlace, etiny]
      omega
    obtain ⟨n, multiple⟩ := power_onGrid last
    refine (nearest_respectsGrid _).lower ⟨k * n, ?_⟩ reached
    rw [Int.cast_mul, mul_assoc, ← multiple, zpow_zero, mul_one, Int.cast_natCast]

/-- No more of the divisor fits into a short number after the rounding. -/
theorem natCast_le_nearest_ratio_iff (low : ctx.emin < 0) (fewer : digits < ctx.precision)
    (left : x.Short places digits) (unit : -(places : ℤ) ≤ y.exponent) (present : x.coefficient ≠ 0)
    (divisor : y.coefficient ≠ 0) (k : ℕ) :
    (k : ℚ) ≤ ctx.nearest (x.magnitude / y.magnitude) ↔ (k : ℚ) ≤ x.magnitude / y.magnitude := by
  have positive := div_pos (x.magnitude_pos_iff.mpr present) (y.magnitude_pos_iff.mpr divisor)
  obtain ⟨a, b, few, some_divisor, ratio⟩ := left.ratio unit divisor
  have some : 0 < a := by
    rw [ratio, div_pos_iff_of_pos_right (by exact_mod_cast some_divisor)] at positive
    exact_mod_cast positive
  rw [ratio]
  exact natCast_le_nearest_iff low some some_divisor
    (few.trans_le (Nat.pow_le_pow_right (by norm_num) (by omega))) k

/-- No result below the greatest power of the range overflows. -/
theorem finish_returns (negative : Bool) {q : ℚ} (ideal : ℤ) (range : ctx.etiny ≤ ctx.emax)
    (positive : 0 < q) (bounded : q < 10 ^ ctx.emax) : ∃ r, ctx.finish negative q ideal = .ok r := by
  have digits := ctx.positive
  have leading := (lt_power_iff positive _).mp bounded
  have within : (ctx.rounded negative q).adjusted ≤ ctx.emax := by
    by_cases vanished : (ctx.rounded negative q).coefficient = 0
    · obtain full | last := (ctx.rounded_digits negative positive).2
      · rw [vanished] at full
        exact absurd full (not_le.mpr (pow_pos (by norm_num) _))
      · rw [Decimal.adjusted, Decimal.digits, vanished, last]
        simpa using range
    · have place : ctx.lastPlace q ≤ ctx.emax := by
        rw [lastPlace, max_le_iff]
        exact ⟨by omega, range⟩
      have kept := (nearest_respectsGrid q).upper (power_onGrid place) bounded.le
      have short : ¬ (10 : ℚ) ^ (ctx.emax + 1) ≤ (ctx.rounded negative q).magnitude := by
        rw [rounded_magnitude negative positive, not_le]
        exact kept.trans_lt (zpow_lt_zpow_right₀ (by norm_num) (lt_add_one _))
      rw [← Decimal.le_adjusted_iff vanished] at short
      omega
  rw [finish, if_neg positive.ne', if_neg leading.not_gt]
  split_ifs with whole large same
  · exact ⟨_, rfl⟩
  · exact absurd large within.not_gt
  · exact ⟨_, rfl⟩
  · exact ⟨_, rfl⟩

/-- The whole part of a short number's quotient by a multiple of its unit. -/
theorem divide_truncate (room : ctx.Roomy places) (fewer : digits < ctx.precision)
    (left : x.Short places digits) (unit : -(places : ℤ) ≤ y.exponent) (divisor : y.coefficient ≠ 0) :
    ∃ quotient, ctx.divide x y = .ok quotient ∧ ctx.truncate quotient =
      .ok ⟨x.negative != y.negative, ⌊x.magnitude / y.magnitude⌋₊, 0⟩ := by
  obtain ⟨low, high⟩ := room
  obtain ⟨a, b, few, some_divisor, ratio⟩ := left.ratio unit divisor
  have below : x.magnitude / y.magnitude < 10 ^ (digits : ℤ) := by
    have least : (a / b : ℚ) ≤ a := div_le_self (Nat.cast_nonneg a) (by exact_mod_cast some_divisor)
    rw [ratio]
    exact least.trans_lt (by exact_mod_cast few)
  have nonneg : 0 ≤ x.magnitude / y.magnitude := div_nonneg x.magnitude_nonneg y.magnitude_nonneg
  have fits : ⌊x.magnitude / y.magnitude⌋₊ < 10 ^ ctx.precision := by
    rw [Nat.floor_lt nonneg]
    have more : (10 : ℚ) ^ (digits : ℤ) ≤ 10 ^ (ctx.precision : ℤ) := power_mono (by omega)
    exact_mod_cast below.trans_le more
  rw [divide, if_neg divisor]
  by_cases present : x.coefficient = 0
  · have zero : x.magnitude / y.magnitude = 0 := by rw [Decimal.magnitude, present, Nat.cast_zero, zero_mul, zero_div]
    rw [zero, finish, if_pos rfl]
    refine ⟨_, rfl, ?_⟩
    simp [truncate, Decimal.magnitude]
  · have positive := div_pos (x.magnitude_pos_iff.mpr present) (y.magnitude_pos_iff.mpr divisor)
    have bounded := below.trans_le (power_mono (show (digits : ℤ) ≤ ctx.emax by omega))
    obtain ⟨r, returned⟩ := finish_returns (x.negative != y.negative) (x.exponent - y.exponent)
      (by rw [etiny]; omega) positive bounded
    obtain ⟨sign, size⟩ := finish_nearest positive returned
    have same := natCast_le_nearest_ratio_iff (by omega : ctx.emin < 0) fewer left unit present divisor
    have whole : ⌊ctx.nearest (x.magnitude / y.magnitude)⌋₊ = ⌊x.magnitude / y.magnitude⌋₊ := by
      refine le_antisymm ?_ ?_
      · rw [Nat.le_floor_iff nonneg, ← same, ← Nat.le_floor_iff (nearest_nonneg positive)]
      · rw [Nat.le_floor_iff (nearest_nonneg positive), same, ← Nat.le_floor_iff nonneg]
    refine ⟨r, returned, ?_⟩
    rw [truncate, size, whole, if_neg fits.not_ge, sign]

end Quotients

end Context

end DecimalArithmetic
