import CatsPy.ExactDecimals

/-!
# Values of a context

What an operation leaves of its exact result, as a value: the number of the
context nearest to it, of either sign. A value of the context is never crossed,
so comparisons with one survive the rounding; elsewhere a result moves by half a
unit of its last digit at most.
-/
namespace DecimalArithmetic
namespace Context
open RoundingGrid

section Values

variable (ctx : Context)

/-- The value an operation returns for an exact result. -/
def keep (q : ℚ) : ℚ := if q < 0 then -ctx.nearest (-q) else ctx.nearest q

/-- A value that fits the digits of the context. -/
def Holds (b : ℚ) : Prop := ∃ (m : ℕ) (place : ℤ), m ≤ 10 ^ ctx.precision ∧ ctx.etiny ≤ place ∧ |b| = m * 10 ^ place

/-- `quantize` to a place, which has to leave no more digits than the context has. -/
def quantizeTo (round : ℚ → ℤ) (place : ℤ) (q : ℚ) : Except Signal ℚ :=
  if 10 ^ (ctx.precision + place) ≤ |quantize round (10 ^ place) q| then .error .invalidOperation
  else .ok (quantize round (10 ^ place) q)

end Values

section Rounding

variable {ctx : Context} {q b : ℚ}

theorem nearest_zero : ctx.nearest 0 = 0 := nearest_of_onGrid (onGrid_zero _)

@[simp] theorem keep_zero : ctx.keep 0 = 0 := nearest_zero

theorem keep_of_nonneg (nonneg : 0 ≤ q) : ctx.keep q = ctx.nearest q := if_neg nonneg.not_gt

@[simp] theorem keep_neg (q : ℚ) : ctx.keep (-q) = -ctx.keep q := by
  rcases lt_trichotomy q 0 with negative | rfl | positive
  · rw [keep_of_nonneg (neg_nonneg.mpr negative.le), keep, if_pos negative, neg_neg]
  · simp
  · rw [keep, if_pos (neg_lt_zero.mpr positive), neg_neg, keep_of_nonneg positive.le]

theorem keep_nonneg (nonneg : 0 ≤ q) : 0 ≤ ctx.keep q := by
  rw [keep_of_nonneg nonneg]
  rcases nonneg.eq_or_lt with rfl | positive
  · exact nearest_zero.ge
  · exact nearest_nonneg positive

theorem abs_keep (q : ℚ) : |ctx.keep q| = ctx.keep |q| := by
  rcases le_total 0 q with nonneg | nonpos
  · rw [abs_of_nonneg nonneg, abs_of_nonneg (keep_nonneg nonneg)]
  · have kept : 0 ≤ ctx.keep (-q) := keep_nonneg (neg_nonneg.mpr nonpos)
    rw [abs_of_nonpos nonpos, keep_neg, abs_of_nonpos]
    simpa using kept

theorem Holds.neg (holds : ctx.Holds b) : ctx.Holds (-b) := by
  obtain ⟨m, place, few, low, size⟩ := holds
  exact ⟨m, place, few, low, by rw [abs_neg, size]⟩

theorem holds_zero : ctx.Holds 0 := ⟨0, ctx.etiny, Nat.zero_le _, le_rfl, by simp⟩

/-- A value below a greater one ends on its grid, or is the power it begins with. -/
theorem Holds.onGrid (holds : ctx.Holds b) (nonneg : 0 ≤ b)
    (reaches : 10 ^ Int.log 10 q ≤ b) : OnGrid ((10 : ℚ) ^ ctx.lastPlace q) b := by
  have digits := ctx.positive
  obtain ⟨m, place, few, low, size⟩ := holds
  rw [abs_of_nonneg nonneg] at size
  rcases le_or_gt (ctx.lastPlace q) place with fine | coarse
  · obtain ⟨n, multiple⟩ := power_onGrid fine
    exact ⟨m * n, by rw [size, multiple]; push_cast; ring⟩
  · -- Its digits end before the place does, so it is no more than the power.
    have normal : ctx.lastPlace q = Int.log 10 q + 1 - ctx.precision := by
      rw [lastPlace] at coarse ⊢
      omega
    have few_cast : (m : ℚ) ≤ 10 ^ (ctx.precision : ℤ) := by
      rw [zpow_natCast]
      exact_mod_cast few
    have most : b ≤ 10 ^ Int.log 10 q := by
      calc b = m * 10 ^ place := size
        _ ≤ 10 ^ (ctx.precision : ℤ) * 10 ^ place := mul_le_mul_of_nonneg_right few_cast (unit_pos place).le
        _ = 10 ^ (ctx.precision + place) := (zpow_add₀ (by norm_num) _ _).symm
        _ ≤ 10 ^ Int.log 10 q := power_mono (by omega)
    rw [le_antisymm most reaches]
    exact power_onGrid (by omega)

theorem le_nearest (holds : ctx.Holds b) (nonneg : 0 ≤ b) (positive : 0 < q) (le : b ≤ q) :
    b ≤ ctx.nearest q := by
  rcases le_or_gt ((10 : ℚ) ^ Int.log 10 q) b with reaches | below
  · exact (nearest_respectsGrid q).lower (holds.onGrid nonneg reaches) le
  · rcases le_or_gt (ctx.lastPlace q) (Int.log 10 q) with normal | subnormal
    · exact below.le.trans ((nearest_respectsGrid q).lower (power_onGrid normal) (leading_le positive))
    · -- Below the range of the leading places every value is on the one grid.
      have last : ctx.lastPlace q = ctx.etiny := by
        have digits := ctx.positive
        rw [lastPlace] at subnormal ⊢
        omega
      obtain ⟨m, place, few, low, size⟩ := holds
      obtain ⟨n, multiple⟩ := power_onGrid (last.le.trans low)
      refine (nearest_respectsGrid q).lower ⟨m * n, ?_⟩ le
      rw [← abs_of_nonneg nonneg, size, multiple]
      push_cast
      ring

theorem nearest_le (holds : ctx.Holds b) (positive : 0 < q) (le : q ≤ b) : ctx.nearest q ≤ b :=
  (nearest_respectsGrid q).upper
    (holds.onGrid (positive.le.trans le) ((leading_le positive).trans le)) le

/-- No value of the context is crossed. -/
theorem keep_respects : RespectsGrid ctx.Holds ctx.keep where
  lower := by
    intro b q holds le
    rcases lt_trichotomy q 0 with negative | rfl | positive
    · rw [keep, if_pos negative, le_neg]
      exact nearest_le holds.neg (neg_pos.mpr negative) (neg_le_neg le)
    · rwa [keep_zero]
    · rw [keep_of_nonneg positive.le]
      rcases le_or_gt 0 b with nonneg | below
      · exact le_nearest holds nonneg positive le
      · exact below.le.trans (nearest_nonneg positive)
  upper := by
    intro b q holds le
    rcases lt_trichotomy q 0 with negative | rfl | positive
    · rw [keep, if_pos negative, neg_le]
      rcases le_or_gt b 0 with nonpos | above
      · exact le_nearest holds.neg (neg_nonneg.mpr nonpos) (neg_pos.mpr negative) (neg_le_neg le)
      · exact (neg_lt_zero.mpr above).le.trans (nearest_nonneg (neg_pos.mpr negative))
    · rwa [keep_zero]
    · rw [keep_of_nonneg positive.le]
      exact nearest_le holds positive le

theorem keep_of_holds (holds : ctx.Holds q) : ctx.keep q = q :=
  le_antisymm (keep_respects.upper holds le_rfl) (keep_respects.lower holds le_rfl)

theorem holds_keep_of_pos (positive : 0 < q) : ctx.Holds (ctx.nearest q) := by
  have digits := ctx.positive
  refine ⟨(halfEven (q / 10 ^ ctx.lastPlace q)).toNat, ctx.lastPlace q, ?_, le_max_right _ _, ?_⟩
  · rw [Int.toNat_le]
    apply halfEven_nearest.round_le
    rw [div_le_iff₀ (unit_pos _)]
    have power : (((10 ^ ctx.precision : ℕ) : ℤ) : ℚ) = 10 ^ (ctx.precision : ℤ) := by push_cast; rw [zpow_natCast]
    rw [power, ← zpow_add₀ (by norm_num)]
    exact (lt_next_power positive).le.trans (power_mono (by rw [lastPlace]; omega))
  · rw [units_cast positive, abs_of_nonneg (nearest_nonneg positive), nearest, quantize]

/-- A result is a value of the context. -/
theorem holds_keep (q : ℚ) : ctx.Holds (ctx.keep q) := by
  rcases lt_trichotomy q 0 with negative | rfl | positive
  · rw [keep, if_pos negative]
    exact (holds_keep_of_pos (neg_pos.mpr negative)).neg
  · rw [keep_zero]
    exact holds_zero
  · rw [keep_of_nonneg positive.le]
    exact holds_keep_of_pos positive

@[simp] theorem keep_keep (q : ℚ) : ctx.keep (ctx.keep q) = ctx.keep q := keep_of_holds (holds_keep q)

/-- A result reaches a power of ten from half a unit in the last place below. -/
theorem power_le_keep_iff {j : ℤ} (normal : ctx.emin < j) :
    10 ^ j ≤ |ctx.keep q| ↔ 10 ^ j - 10 ^ (j - ctx.precision) / 2 ≤ |q| := by
  rw [abs_keep, keep_of_nonneg (abs_nonneg q)]
  rcases (abs_nonneg q).eq_or_lt with zero | positive
  · have digits := ctx.positive
    have power := unit_pos j
    have smaller := power_mono (show j - ctx.precision ≤ j by omega)
    rw [← zero, nearest_zero]
    exact iff_of_false power.not_ge (by linarith)
  · exact le_nearest_iff positive normal

/-- Whether a value falls short of the power by so much survives the rounding. -/
theorem keep_short_iff {j : ℤ} (normal : ctx.emin < j) :
    |ctx.keep q| < 10 ^ j - 10 ^ (j - ctx.precision) / 2 ↔ |q| < 10 ^ j - 10 ^ (j - ctx.precision) / 2 := by
  rw [← not_le, ← not_le, ← power_le_keep_iff normal, ← power_le_keep_iff normal, keep_keep]

/-- Rounding keeps the multiples of a power. -/
theorem keep_onGrid {place : ℤ} (grid : OnGrid ((10 : ℚ) ^ place) q) :
    OnGrid ((10 : ℚ) ^ place) (ctx.keep q) := by
  have positive_part {x : ℚ} (positive : 0 < x) (grid : OnGrid ((10 : ℚ) ^ place) x) :
      OnGrid ((10 : ℚ) ^ place) (ctx.nearest x) := by
    rcases le_total place (ctx.lastPlace x) with coarser | finer
    · obtain ⟨n, multiple⟩ := power_onGrid coarser
      obtain ⟨m, rounded⟩ := quantize_onGrid halfEven (10 ^ ctx.lastPlace x) x
      exact ⟨m * n, by rw [nearest, rounded, Int.cast_mul, mul_assoc, ← multiple]⟩
    · obtain ⟨n, multiple⟩ := power_onGrid finer
      obtain ⟨m, count⟩ := grid
      rw [nearest_of_onGrid ⟨m * n, by rw [Int.cast_mul, mul_assoc, ← multiple, ← count]⟩]
      exact ⟨m, count⟩
  rcases lt_trichotomy q 0 with negative | rfl | positive
  · rw [keep, if_pos negative]
    exact (positive_part (neg_pos.mpr negative) grid.neg).neg
  · rwa [keep_zero]
  · rw [keep_of_nonneg positive.le]
    exact positive_part positive grid

/-- A multiple of a power with no more digits than the context has. -/
theorem holds_of_onGrid {place : ℤ} (low : ctx.etiny ≤ place) (grid : OnGrid ((10 : ℚ) ^ place) q)
    (small : |q| ≤ 10 ^ (ctx.precision + place)) : ctx.Holds q := by
  obtain ⟨n, rfl⟩ := grid
  refine ⟨n.natAbs, place, ?_, low, ?_⟩
  · rw [abs_mul, abs_of_pos (unit_pos place), zpow_add₀ (by norm_num), mul_le_mul_iff_of_pos_right (unit_pos place),
      zpow_natCast] at small
    have whole : (n.natAbs : ℚ) ≤ 10 ^ ctx.precision := by rwa [Nat.cast_natAbs, Int.cast_abs]
    exact_mod_cast whole
  · rw [abs_mul, abs_of_pos (unit_pos place), Nat.cast_natAbs, Int.cast_abs]

theorem keep_of_onGrid {place : ℤ} (low : ctx.etiny ≤ place) (grid : OnGrid ((10 : ℚ) ^ place) q)
    (small : |q| ≤ 10 ^ (ctx.precision + place)) : ctx.keep q = q := keep_of_holds (holds_of_onGrid low grid small)

/-- Rounding first to the digits of the context crosses no tie of the coarser
grid that the context can tell from the value. -/
theorem quantize_keep {round : ℚ → ℤ} (nearest : Nearest round) {unit x : ℚ} (positive : 0 < unit)
    (ties : ∀ t, OnGrid (unit / 2) t → |t - x| ≤ unit → ctx.Holds t ∧ (ctx.keep x = t → x = t)) :
    quantize round unit (ctx.keep x) = quantize round unit x := by
  have error := quantize_error nearest positive x
  have point : OnGrid (unit / 2) (quantize round unit x) :=
    (quantize_onGrid round unit x).refine ⟨2, by push_cast; ring⟩
  have half : OnGrid (unit / 2) (unit / 2) := ⟨1, by push_cast; ring⟩
  obtain ⟨low, high⟩ := abs_le.mp error
  obtain ⟨upper_held, upper_tie⟩ := ties _ (point.add half) (abs_le.mpr ⟨by linarith, by linarith⟩)
  obtain ⟨lower_held, lower_tie⟩ := ties _ (point.sub half) (abs_le.mpr ⟨by linarith, by linarith⟩)
  by_cases tie : x = quantize round unit x + unit / 2 ∨ x = quantize round unit x - unit / 2
  · have held : ctx.Holds x := by
      rcases tie with same | same <;> rw [same] <;> assumption
    rw [keep_of_holds held]
  · obtain ⟨not_upper, not_lower⟩ := not_or.mp tie
    apply quantize_eq_of_near nearest positive
    have below : ctx.keep x < quantize round unit x + unit / 2 :=
      lt_of_le_of_ne (keep_respects.upper upper_held (by linarith)) fun same => not_upper (upper_tie same)
    have above : quantize round unit x - unit / 2 < ctx.keep x :=
      lt_of_le_of_ne (keep_respects.lower lower_held (by linarith)) fun same => not_lower (lower_tie same.symm)
    exact abs_lt.mpr ⟨by linarith, by linarith⟩

theorem holds_power {place : ℤ} (low : ctx.etiny ≤ place) : ctx.Holds (10 ^ place) :=
  ⟨1, place, Nat.one_le_pow _ _ (by norm_num), low, by rw [abs_of_pos (unit_pos place), Nat.cast_one, one_mul]⟩

theorem etiny_le_emin : ctx.etiny ≤ ctx.emin := by
  have digits := ctx.positive
  rw [etiny]
  omega

theorem keep_pos (normal : 10 ^ ctx.emin ≤ q) : 0 < ctx.keep q :=
  (unit_pos _).trans_le (keep_respects.lower (holds_power etiny_le_emin) normal)

theorem keep_error_of_pos (normal : 10 ^ ctx.emin ≤ q) : |ctx.keep q - q| ≤ q * 10 ^ (1 - ctx.precision : ℤ) / 2 := by
  have positive : 0 < q := (unit_pos _).trans_le normal
  have digits := ctx.positive
  have leading : ctx.emin ≤ Int.log 10 q :=
    (Int.zpow_le_iff_le_log (b := 10) (by norm_num) positive).mp (by exact_mod_cast normal)
  have last : ctx.lastPlace q = Int.log 10 q + (1 - ctx.precision) := by
    rw [lastPlace, etiny]
    omega
  have error := quantize_error halfEven_nearest (unit_pos (ctx.lastPlace q)) q
  have unit : (10 : ℚ) ^ ctx.lastPlace q ≤ q * 10 ^ (1 - ctx.precision : ℤ) := by
    rw [last, zpow_add₀ (by norm_num)]
    exact mul_le_mul_of_nonneg_right (leading_le positive) (unit_pos _).le
  rw [keep_of_nonneg positive.le, nearest]
  linarith

/-- A result in the range moves by half a unit of its last digit. -/
theorem keep_error (normal : q = 0 ∨ 10 ^ ctx.emin ≤ |q|) :
    |ctx.keep q - q| ≤ |q| * 10 ^ (1 - ctx.precision : ℤ) / 2 := by
  rcases normal with rfl | normal
  · simp
  · rcases le_total 0 q with nonneg | nonpos
    · rw [abs_of_nonneg nonneg] at normal ⊢
      exact keep_error_of_pos normal
    · rw [abs_of_nonpos nonpos] at normal ⊢
      have error := keep_error_of_pos normal
      rwa [keep_neg, ← neg_sub', abs_neg] at error

/-- Any result moves by that and half the least unit at most. -/
theorem keep_error_any (q : ℚ) :
    |ctx.keep q - q| ≤ |q| * 10 ^ (1 - ctx.precision : ℤ) / 2 + 10 ^ ctx.etiny / 2 := by
  have positive_part {x : ℚ} (positive : 0 < x) :
      |ctx.nearest x - x| ≤ x * 10 ^ (1 - ctx.precision : ℤ) / 2 + 10 ^ ctx.etiny / 2 := by
    have error := quantize_error halfEven_nearest (unit_pos (ctx.lastPlace x)) x
    have unit : (10 : ℚ) ^ ctx.lastPlace x ≤ x * 10 ^ (1 - ctx.precision : ℤ) + 10 ^ ctx.etiny := by
      rcases max_choice (Int.log 10 x + 1 - ctx.precision) ctx.etiny with normal | subnormal
      · rw [lastPlace, normal, add_sub_assoc, zpow_add₀ (by norm_num)]
        have leading := mul_le_mul_of_nonneg_right (leading_le positive) (unit_pos (1 - ctx.precision : ℤ)).le
        have least := unit_pos ctx.etiny
        linarith
      · rw [lastPlace, subnormal]
        have size := mul_pos positive (unit_pos (1 - ctx.precision : ℤ))
        linarith
    rw [nearest]
    linarith
  rcases lt_trichotomy q 0 with negative | rfl | positive
  · have error := positive_part (neg_pos.mpr negative)
    rwa [keep, if_pos negative, abs_of_neg negative, ← abs_neg, neg_sub, sub_neg_eq_add, add_comm q,
      ← sub_neg_eq_add]
  · rw [keep_zero, sub_self, abs_zero, zero_mul, zero_div, zero_add]
    exact (half_pos (unit_pos _)).le
  · rw [keep_of_nonneg positive.le, abs_of_pos positive]
    exact positive_part positive

end Rounding

section Operations

variable {ctx : Context} {x y r : Decimal}

theorem finish_value {negative : Bool} {q : ℚ} {ideal : ℤ} (nonneg : 0 ≤ q)
    (returned : ctx.finish negative q ideal = .ok r) :
    r.value = if negative then -ctx.keep q else ctx.keep q := by
  rw [keep_of_nonneg nonneg]
  rcases nonneg.eq_or_lt with rfl | positive
  · rw [finish, if_pos rfl] at returned
    cases returned
    simp [Decimal.value, Decimal.magnitude, nearest_zero]
  · obtain ⟨sign, size⟩ := finish_nearest positive returned
    rw [Decimal.value, sign, size]

/-- What a product is worth is what its exact value keeps. -/
theorem multiply_value (returned : ctx.multiply x y = .ok r) : r.value = ctx.keep (x.value * y.value) := by
  rw [finish_value (mul_nonneg x.magnitude_nonneg y.magnitude_nonneg) returned, Decimal.value, Decimal.value]
  cases x.negative <;> cases y.negative <;> simp

theorem divide_value (returned : ctx.divide x y = .ok r) : r.value = ctx.keep (x.value / y.value) := by
  rw [divide] at returned
  split at returned
  · cases returned
  · rw [finish_value (div_nonneg x.magnitude_nonneg y.magnitude_nonneg) returned, Decimal.value, Decimal.value]
    cases x.negative <;> cases y.negative <;> simp [div_neg, neg_div]

theorem add_value (returned : ctx.add x y = .ok r) : r.value = ctx.keep (x.value + y.value) := by
  rw [finish_value (abs_nonneg _) returned]
  rcases lt_trichotomy (x.value + y.value) 0 with negative | zero | positive
  · rw [abs_of_neg negative, keep_neg]
    simp [negative]
  · simp [zero]
  · simp [positive.not_gt, positive.ne', abs_of_pos positive]

end Operations

end Context
end DecimalArithmetic
