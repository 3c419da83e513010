import CatsPy.DecimalNumbers
import CatsPy.RoundingGrid
import Mathlib.Tactic.NormNum
import Mathlib.Tactic.Positivity

/-!
# Decimal arithmetic in a context

Every operation forms its exact result and finishes it: the result is rounded,
ties to even, to the digits of the context, and takes its ideal exponent where
it has digits enough. The order facts of the rounding decide which exponents
and leading places a finished result can have.
-/
namespace DecimalArithmetic
open RoundingGrid

/-- The digits kept and the range of the leading place. -/
structure Context where
  precision : ℕ
  emin : ℤ
  emax : ℤ
  positive : 0 < precision

inductive Signal where
  | overflow | invalidOperation | divisionByZero | divisionUndefined
  deriving DecidableEq

namespace Context

variable (ctx : Context)

section Operations

def etiny : ℤ := ctx.emin - ctx.precision + 1

/-- The place of the last digit kept of a positive value. -/
def lastPlace (q : ℚ) : ℤ := max (Int.log 10 q + 1 - ctx.precision) ctx.etiny

/-- The number of the context nearest to a positive value. -/
def nearest (q : ℚ) : ℚ := quantize halfEven (10 ^ ctx.lastPlace q) q

/-- It as a number; a carry into one digit more drops the last one. -/
def rounded (negative : Bool) (q : ℚ) : Decimal :=
  let units := (halfEven (q / 10 ^ ctx.lastPlace q)).toNat
  if units = 10 ^ ctx.precision then ⟨negative, 10 ^ (ctx.precision - 1), ctx.lastPlace q + 1⟩
  else ⟨negative, units, ctx.lastPlace q⟩

/-- At most so many zeros dropped from the end of the coefficient. -/
def shedZeros : ℕ → Decimal → Decimal
  | 0, d => d
  | n + 1, d =>
      if d.coefficient % 10 = 0 then
        shedZeros n { d with coefficient := d.coefficient / 10, exponent := d.exponent + 1 }
      else d

/-- The result of an operation with an exact magnitude and an ideal exponent. -/
def finish (negative : Bool) (q : ℚ) (ideal : ℤ) : Except Signal Decimal :=
  if q = 0 then .ok ⟨negative, 0, min (max ideal ctx.etiny) ctx.emax⟩
  else if ctx.emax < Int.log 10 q then .error .overflow
  else if ctx.lastPlace q ≤ ideal ∧ (q / 10 ^ ideal).den = 1 then
    .ok ⟨negative, (q / 10 ^ ideal).num.toNat, ideal⟩
  else if ctx.emax < (ctx.rounded negative q).adjusted then .error .overflow
  else if (ctx.rounded negative q).magnitude = q then
    .ok (shedZeros (ideal - ctx.lastPlace q).toNat (ctx.rounded negative q))
  else .ok (ctx.rounded negative q)

def multiply (x y : Decimal) : Except Signal Decimal :=
  ctx.finish (x.negative != y.negative) (x.magnitude * y.magnitude) (x.exponent + y.exponent)

def divide (x y : Decimal) : Except Signal Decimal :=
  if y.coefficient = 0 then
    .error (if x.coefficient = 0 then .divisionUndefined else .divisionByZero)
  else ctx.finish (x.negative != y.negative) (x.magnitude / y.magnitude) (x.exponent - y.exponent)

def add (x y : Decimal) : Except Signal Decimal :=
  let sum := x.value + y.value
  ctx.finish (sum < 0 ∨ sum = 0 ∧ x.negative ∧ y.negative) |sum| (min x.exponent y.exponent)

def subtract (x y : Decimal) : Except Signal Decimal := ctx.add x { y with negative := !y.negative }

/-- `quantize(Decimal("1"), rounding=ROUND_DOWN)`. -/
def truncate (d : Decimal) : Except Signal Decimal :=
  if 10 ^ ctx.precision ≤ ⌊d.magnitude⌋₊ then .error .invalidOperation
  else .ok ⟨d.negative, ⌊d.magnitude⌋₊, 0⟩

end Operations

section Nearest

variable {ctx} {q : ℚ}

theorem unit_pos (place : ℤ) : (0 : ℚ) < 10 ^ place := zpow_pos (by norm_num) place

theorem power_mono {a b : ℤ} (le : a ≤ b) : (10 : ℚ) ^ a ≤ 10 ^ b := zpow_le_zpow_right₀ (by norm_num) le

theorem leading_le (positive : 0 < q) : (10 : ℚ) ^ Int.log 10 q ≤ q := by
  exact_mod_cast Int.zpow_log_le_self (b := 10) (by norm_num) positive

theorem lt_power_iff (positive : 0 < q) (j : ℤ) : q < 10 ^ j ↔ Int.log 10 q < j := by
  rw [← Int.lt_zpow_iff_log_lt (b := 10) (by norm_num) positive, Nat.cast_ofNat]

theorem lt_next_power (positive : 0 < q) : q < 10 ^ (Int.log 10 q + 1) :=
  (lt_power_iff positive _).mpr (lt_add_one _)

theorem power_onGrid {place power : ℤ} (within : place ≤ power) : OnGrid ((10 : ℚ) ^ place) (10 ^ power) := by
  obtain ⟨k, gap⟩ := Int.eq_ofNat_of_zero_le (sub_nonneg.mpr within)
  refine ⟨10 ^ k, ?_⟩
  rw [Int.cast_pow, Int.cast_ofNat, ← zpow_natCast, ← gap, ← zpow_add₀ (by norm_num), sub_add_cancel]

theorem nearest_respectsGrid (q : ℚ) :
    RespectsGrid (OnGrid ((10 : ℚ) ^ ctx.lastPlace q)) (quantize halfEven (10 ^ ctx.lastPlace q)) :=
  quantize_respectsGrid halfEven_nearest (unit_pos _)

theorem nearest_nonneg (positive : 0 < q) : 0 ≤ ctx.nearest q :=
  (nearest_respectsGrid q).lower (onGrid_zero _) positive.le

/-- A power of ten is reached from half a unit in the last place below. -/
theorem le_nearest_iff (positive : 0 < q) {j : ℤ} (normal : ctx.emin < j) :
    10 ^ j ≤ ctx.nearest q ↔ 10 ^ j - 10 ^ (j - ctx.precision) / 2 ≤ q := by
  have digits := ctx.positive
  have low := leading_le positive
  have high := lt_next_power positive
  have half := unit_pos (j - ctx.precision)
  rcases lt_trichotomy j (Int.log 10 q + 1) with below | here | above
  · -- The value itself has a digit at that place or before it.
    have place : ctx.lastPlace q ≤ Int.log 10 q := by
      rw [lastPlace, etiny]
      omega
    have reached := power_mono (show j ≤ Int.log 10 q by omega)
    have kept := (nearest_respectsGrid q).lower (power_onGrid place) low
    exact iff_of_true (reached.trans kept) (by linarith)
  · -- Only a carry gets there, and the count it takes is even.
    have place : ctx.lastPlace q = j - ctx.precision := by
      rw [lastPlace, etiny]
      omega
    have count : Even ((10 : ℤ) ^ ctx.precision) := (by decide : Even (10 : ℤ)).pow_of_ne_zero digits.ne'
    have power : (10 : ℚ) ^ j = ((10 ^ ctx.precision : ℤ) : ℚ) * 10 ^ (j - ctx.precision) := by
      rw [Int.cast_pow, Int.cast_ofNat, ← zpow_natCast, ← zpow_add₀ (by norm_num), add_sub_cancel]
    rw [nearest, quantize, place, power, mul_le_mul_iff_of_pos_right half, Int.cast_le,
      le_halfEven_iff_of_even count, le_div_iff₀ half, sub_mul, one_div_mul_eq_div]
  · -- The value stays a whole place short of it.
    have place : ctx.lastPlace q ≤ j - 1 := by
      rw [lastPlace, etiny]
      omega
    have short : q ≤ 10 ^ (j - 1) := high.le.trans (power_mono (by omega))
    have kept := (nearest_respectsGrid q).upper (power_onGrid place) short
    have power : (10 : ℚ) ^ j = 10 * 10 ^ (j - 1) := by
      rw [← zpow_one_add₀ (by norm_num), add_sub_cancel]
    have previous := unit_pos (j - 1)
    have smaller := power_mono (show j - ctx.precision ≤ j - 1 by omega)
    refine iff_of_false (not_le.mpr ?_) (not_le.mpr ?_)
    · rw [power]
      exact kept.trans_lt (by linarith)
    · rw [power]
      linarith

/-- Fewer digits than the context has are kept as they are. -/
theorem nearest_of_onGrid (grid : OnGrid ((10 : ℚ) ^ ctx.lastPlace q) q) : ctx.nearest q = q :=
  quantize_of_onGrid halfEven_nearest (unit_pos _) grid

theorem units_cast (positive : 0 < q) (place : ℤ) :
    ((halfEven (q / 10 ^ place)).toNat : ℚ) = halfEven (q / 10 ^ place) := by
  have count : ((0 : ℤ) : ℚ) ≤ q / 10 ^ place := by
    rw [Int.cast_zero]
    exact div_nonneg positive.le (unit_pos place).le
  exact_mod_cast Int.toNat_of_nonneg (halfEven_nearest.le_round count)

@[simp] theorem rounded_negative (negative : Bool) (q : ℚ) : (ctx.rounded negative q).negative = negative := by
  unfold rounded
  dsimp only
  split <;> rfl

theorem rounded_magnitude (negative : Bool) (positive : 0 < q) :
    (ctx.rounded negative q).magnitude = ctx.nearest q := by
  have units := units_cast positive (ctx.lastPlace q)
  unfold rounded
  dsimp only
  split
  next carried =>
    obtain ⟨k, digits⟩ := Nat.exists_eq_succ_of_ne_zero ctx.positive.ne'
    rw [carried, digits, Nat.cast_pow, Nat.cast_ofNat] at units
    rw [Decimal.magnitude, nearest, quantize, ← units, digits]
    push_cast
    rw [zpow_add_one₀ (by norm_num), pow_succ]
    ring
  next => rw [Decimal.magnitude, nearest, quantize, units]

/-- A rounded number has all the digits of the context, or ends where the range does. -/
theorem rounded_digits (negative : Bool) (positive : 0 < q) :
    (ctx.rounded negative q).coefficient < 10 ^ ctx.precision ∧
      (10 ^ (ctx.precision - 1) ≤ (ctx.rounded negative q).coefficient ∨
        (ctx.rounded negative q).exponent = ctx.etiny) := by
  have digits := ctx.positive
  have low := leading_le positive
  have high := lt_next_power positive
  have power (k : ℕ) : ((10 ^ k : ℤ) : ℚ) = (10 : ℚ) ^ (k : ℤ) := by push_cast; rw [zpow_natCast]
  have most : halfEven (q / 10 ^ ctx.lastPlace q) ≤ 10 ^ ctx.precision := by
    apply halfEven_nearest.round_le
    rw [div_le_iff₀ (unit_pos _), power, ← zpow_add₀ (by norm_num)]
    exact high.le.trans (power_mono (by rw [lastPlace]; omega))
  have least (normal : ctx.lastPlace q = Int.log 10 q + 1 - ctx.precision) :
      10 ^ (ctx.precision - 1) ≤ halfEven (q / 10 ^ ctx.lastPlace q) := by
    apply halfEven_nearest.le_round
    rw [le_div_iff₀ (unit_pos _), power, ← zpow_add₀ (by norm_num), normal]
    exact (power_mono (by omega)).trans low
  unfold rounded
  dsimp only
  split
  next carried =>
    exact ⟨Nat.pow_lt_pow_right (by norm_num) (by omega), .inl le_rfl⟩
  next short =>
    have bound : (halfEven (q / 10 ^ ctx.lastPlace q)).toNat ≤ 10 ^ ctx.precision := by
      rw [Int.toNat_le]
      exact_mod_cast most
    refine ⟨lt_of_le_of_ne bound short, ?_⟩
    rcases max_choice (Int.log 10 q + 1 - ctx.precision) ctx.etiny with normal | subnormal
    · left
      have count := Int.toNat_le_toNat (least normal)
      exact_mod_cast count
    · exact .inr subnormal

theorem lastPlace_le_rounded (ctx : Context) (negative : Bool) (q : ℚ) :
    ctx.lastPlace q ≤ (ctx.rounded negative q).exponent := by
  unfold rounded
  dsimp only
  split
  · exact (lt_add_one _).le
  · exact le_rfl

theorem rounded_exponent_iff (low : ctx.emin ≤ 0) (negative : Bool) (positive : 0 < q) :
    (ctx.rounded negative q).exponent ≤ 0 ↔ ctx.nearest q < 10 ^ ctx.precision := by
  have digits := ctx.positive
  obtain ⟨few, enough⟩ := ctx.rounded_digits negative positive
  rw [← ctx.rounded_magnitude negative positive, Decimal.magnitude]
  have few_cast : ((ctx.rounded negative q).coefficient : ℚ) < 10 ^ ctx.precision := by exact_mod_cast few
  constructor
  · intro whole
    have unit : (10 : ℚ) ^ (ctx.rounded negative q).exponent ≤ 1 :=
      zpow_le_one_of_nonpos₀ (by norm_num) whole
    exact (mul_le_of_le_one_right (Nat.cast_nonneg _) unit).trans_lt few_cast
  · intro within
    by_contra coarse
    rcases enough with full | last
    · have unit : (10 : ℚ) ≤ 10 ^ (ctx.rounded negative q).exponent := by
        calc (10 : ℚ) = 10 ^ (1 : ℤ) := (zpow_one _).symm
          _ ≤ 10 ^ (ctx.rounded negative q).exponent := power_mono (by omega)
      have full_cast : (10 : ℚ) ^ (ctx.precision - 1) ≤ (ctx.rounded negative q).coefficient := by
        exact_mod_cast full
      have reached := mul_le_mul full_cast unit (by norm_num) (Nat.cast_nonneg _)
      rw [← pow_succ, Nat.sub_add_cancel digits] at reached
      exact absurd within reached.not_gt
    · rw [last, etiny] at coarse
      omega

end Nearest

section Results

variable {ctx} {q : ℚ} {negative : Bool} {ideal : ℤ} {r : Decimal}

theorem shedZeros_same (n : ℕ) (d : Decimal) :
    (shedZeros n d).negative = d.negative ∧ (shedZeros n d).magnitude = d.magnitude := by
  induction n generalizing d with
  | zero => exact ⟨rfl, rfl⟩
  | succ n ih =>
      unfold shedZeros
      split
      next zero =>
        refine ⟨(ih _).1, (ih _).2.trans ?_⟩
        have tenfold : (d.coefficient : ℚ) = (d.coefficient / 10 : ℕ) * 10 := by
          exact_mod_cast (Nat.div_mul_cancel (Nat.dvd_of_mod_eq_zero zero)).symm
        rw [Decimal.magnitude, Decimal.magnitude, tenfold, zpow_add_one₀ (by norm_num)]
        ring
      next => exact ⟨rfl, rfl⟩

/-- Every way a result that is not zero can come out: exact at its ideal exponent,
or rounded, with zeros dropped when the rounding was exact. -/
theorem finish_cases (positive : 0 < q) (returned : ctx.finish negative q ideal = .ok r) :
    (ctx.lastPlace q ≤ ideal ∧ (q / 10 ^ ideal).den = 1 ∧ r = ⟨negative, (q / 10 ^ ideal).num.toNat, ideal⟩) ∨
    (¬ (ctx.lastPlace q ≤ ideal ∧ (q / 10 ^ ideal).den = 1) ∧
      (r = ctx.rounded negative q ∨
        r = shedZeros (ideal - ctx.lastPlace q).toNat (ctx.rounded negative q))) := by
  rw [finish, if_neg positive.ne'] at returned
  split_ifs at returned with large exact_result larger same
  · cases returned
    exact .inl ⟨exact_result.1, exact_result.2, rfl⟩
  · cases returned
    exact .inr ⟨exact_result, .inr rfl⟩
  · cases returned
    exact .inr ⟨exact_result, .inl rfl⟩

theorem whole_cast {x : ℚ} (nonneg : 0 ≤ x) (whole : x.den = 1) : (x.num.toNat : ℚ) = x := by
  have count : ((x.num.toNat : ℤ) : ℚ) = x.num := by rw [Int.toNat_of_nonneg (Rat.num_nonneg.mpr nonneg)]
  exact_mod_cast count.trans ((Rat.den_eq_one_iff x).mp whole)

/-- A result is the number of the context nearest to the exact one. -/
theorem finish_nearest (positive : 0 < q) (returned : ctx.finish negative q ideal = .ok r) :
    r.negative = negative ∧ r.magnitude = ctx.nearest q := by
  rcases finish_cases positive returned with ⟨place, whole, rfl⟩ | ⟨-, rfl | rfl⟩
  · have count := whole_cast (div_nonneg positive.le (unit_pos ideal).le) whole
    have exact_value : (⟨negative, (q / 10 ^ ideal).num.toNat, ideal⟩ : Decimal).magnitude = q := by
      rw [Decimal.magnitude, count, div_mul_cancel₀ _ (unit_pos ideal).ne']
    obtain ⟨n, multiple⟩ := power_onGrid place
    refine ⟨rfl, exact_value.trans (nearest_of_onGrid ⟨(q / 10 ^ ideal).num * n, ?_⟩).symm⟩
    rw [Int.cast_mul, mul_assoc, ← multiple, (Rat.den_eq_one_iff _).mp whole,
      div_mul_cancel₀ _ (unit_pos ideal).ne']
  · exact ⟨rounded_negative _ _, rounded_magnitude _ positive⟩
  · obtain ⟨sign, size⟩ := shedZeros_same (ideal - ctx.lastPlace q).toNat (ctx.rounded negative q)
    exact ⟨sign.trans (rounded_negative _ _), size.trans (rounded_magnitude _ positive)⟩

/-- A whole multiple of the ideal unit stays as it is or is rounded to a coarser one. -/
theorem finish_whole {m : ℕ} (nonzero : m ≠ 0) (returned : ctx.finish negative (m * 10 ^ ideal) ideal = .ok r) :
    (ctx.lastPlace (m * 10 ^ ideal) ≤ ideal ∧ r = ⟨negative, m, ideal⟩) ∨
    (ideal < ctx.lastPlace (m * 10 ^ ideal) ∧ r = ctx.rounded negative (m * 10 ^ ideal)) := by
  have positive : (0 : ℚ) < m * 10 ^ ideal :=
    mul_pos (Nat.cast_pos.mpr (Nat.pos_of_ne_zero nonzero)) (unit_pos ideal)
  have count : (m * 10 ^ ideal : ℚ) / 10 ^ ideal = m := mul_div_cancel_right₀ _ (unit_pos ideal).ne'
  rcases finish_cases positive returned with ⟨place, -, rfl⟩ | ⟨coarse, rounds⟩
  · left
    rw [count]
    exact ⟨place, rfl⟩
  · right
    rw [count, Rat.den_natCast, and_iff_left rfl, not_le] at coarse
    refine ⟨coarse, ?_⟩
    rcases rounds with rfl | rfl
    · rfl
    · rw [Int.toNat_of_nonpos (by omega)]
      rfl

/-- A whole multiple of its unit is written without an exponent exactly if the unit
is no power above one and the rounded value has its first digit between the sixth
place after the point and the last the context has before it. -/
theorem finish_positional_iff (low : ctx.emin < -6) {m : ℕ} (nonzero : m ≠ 0)
    (returned : ctx.finish negative (m * 10 ^ ideal) ideal = .ok r) :
    r.Positional ↔ ideal ≤ 0 ∧ ctx.nearest (m * 10 ^ ideal) < 10 ^ ctx.precision ∧
      10 ^ (-6 : ℤ) ≤ ctx.nearest (m * 10 ^ ideal) := by
  have positive : (0 : ℚ) < m * 10 ^ ideal :=
    mul_pos (Nat.cast_pos.mpr (Nat.pos_of_ne_zero nonzero)) (unit_pos ideal)
  have digits := ctx.positive
  have size := (finish_nearest positive returned).2
  have exponent : r.exponent ≤ 0 ↔ ideal ≤ 0 ∧ ctx.nearest (m * 10 ^ ideal) < 10 ^ ctx.precision := by
    rcases finish_whole nonzero returned with ⟨place, rfl⟩ | ⟨coarse, rfl⟩
    · refine ⟨fun whole => ⟨whole, ?_⟩, And.left⟩
      rw [← size, Decimal.magnitude, ← zpow_natCast]
      refine (lt_next_power positive).trans_le (power_mono ?_)
      change ideal ≤ 0 at whole
      rw [lastPlace, max_le_iff] at place
      omega
    · have later := ctx.lastPlace_le_rounded negative (m * 10 ^ ideal)
      rw [← rounded_exponent_iff (by omega) negative positive]
      constructor
      · intro whole
        exact ⟨by omega, whole⟩
      · exact And.right
  have leading : -6 ≤ r.adjusted ↔ 10 ^ (-6 : ℤ) ≤ ctx.nearest (m * 10 ^ ideal) := by
    by_cases vanished : r.coefficient = 0
    · -- Nothing is left only of what lies below the whole range.
      have none : r.magnitude = 0 := by rw [Decimal.magnitude, vanished, Nat.cast_zero, zero_mul]
      rw [← size, none]
      have small := unit_pos (-6)
      refine iff_of_false ?_ (not_le.mpr small)
      rcases finish_whole nonzero returned with ⟨-, rfl⟩ | ⟨-, rfl⟩
      · exact absurd vanished nonzero
      · have last : (ctx.rounded negative (m * 10 ^ ideal)).exponent = ctx.etiny := by
          rcases (rounded_digits negative positive).2 with full | last
          · rw [vanished] at full
            exact absurd full (not_le.mpr (pow_pos (by norm_num) _))
          · exact last
        have single : (ctx.rounded negative (m * 10 ^ ideal)).digits.length = 1 := by
          rw [Decimal.digits, vanished]
          rfl
        rw [Decimal.adjusted, last, single, etiny]
        omega
    · rw [Decimal.le_adjusted_iff vanished, size]
  rw [Decimal.Positional, exponent, leading, and_assoc]

/-- A zero keeps its exponent, as far as the range goes. -/
theorem finish_zero_positional_iff (low : ctx.emin < -6) (high : 0 < ctx.emax)
    (returned : ctx.finish negative 0 ideal = .ok r) : r.Positional ↔ ideal ≤ 0 ∧ -6 ≤ ideal := by
  have digits := ctx.positive
  rw [finish, if_pos rfl] at returned
  cases returned
  have single : (⟨negative, 0, min (max ideal ctx.etiny) ctx.emax⟩ : Decimal).digits.length = 1 := by
    simp [Decimal.digits]
  rw [Decimal.Positional, Decimal.adjusted, single, etiny]
  dsimp only
  omega

end Results

end Context

end DecimalArithmetic
