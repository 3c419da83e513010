import Mathlib.Algebra.Order.Floor.Ring
import Mathlib.Algebra.Order.Archimedean.Basic
import Mathlib.Data.Rat.Floor
import Mathlib.Tactic.Linarith
import Mathlib.Tactic.Ring
import Mathlib.Tactic.FieldSimp

/-!
# Rounding to a decimal grid

The two tie rules of decimal arithmetic over any ordered field with floors,
and quantization to the multiples of a unit. `Nearest` is the whole contract
a rounder owes its callers; the error and fixed-point facts use nothing else.
-/
namespace RoundingGrid

section Rounders

variable {K : Type*} [Field K] [LinearOrder K] [IsStrictOrderedRing K] [FloorRing K]

/-- Nearest integer, ties away from zero. -/
def halfUp (x : K) : ℤ := if 0 ≤ x then ⌊x + 1 / 2⌋ else -⌊-x + 1 / 2⌋

/-- Nearest integer, ties to the even neighbour. -/
def halfEven (x : K) : ℤ :=
  if Int.fract x < 1 / 2 then ⌊x⌋
  else if 1 / 2 < Int.fract x then ⌊x⌋ + 1
  else if Even ⌊x⌋ then ⌊x⌋ else ⌊x⌋ + 1

/-- A rounder fixes the integers and moves nothing by more than one half. -/
structure Nearest (round : K → ℤ) : Prop where
  fixes : ∀ n : ℤ, round n = n
  close : ∀ x, |(round x : K) - x| ≤ 1 / 2

theorem floor_half_close (x : K) : |(⌊x + 1 / 2⌋ : K) - x| ≤ 1 / 2 := by
  have lower := Int.lt_floor_add_one (x + 1 / 2)
  have upper := Int.floor_le (x + 1 / 2)
  rw [abs_le]
  constructor <;> linarith

theorem floor_half_int (n : ℤ) : ⌊(n : K) + 1 / 2⌋ = n := by
  rw [Int.floor_eq_iff]
  constructor <;> linarith

theorem halfUp_nearest : Nearest (halfUp : K → ℤ) := by
  constructor
  · intro n
    unfold halfUp
    split
    · exact floor_half_int n
    · have h := floor_half_int (K := K) (-n)
      push_cast at h
      rw [h, neg_neg]
  · intro x
    unfold halfUp
    split
    · exact floor_half_close x
    · have h := floor_half_close (-x)
      rw [← abs_neg] at h
      push_cast
      convert h using 2
      ring

omit [FloorRing K] in
/-- No rounder moves a value across an integer. -/
theorem Nearest.le_round {round : K → ℤ} (nearest : Nearest round) {n : ℤ} {x : K} (above : (n : K) ≤ x) :
    n ≤ round x := by
  have close := (abs_le.mp (nearest.close x)).1
  have reached : (n : K) < round x + 1 := by linarith
  exact Int.lt_add_one_iff.mp (by exact_mod_cast reached)

omit [FloorRing K] in
theorem Nearest.round_le {round : K → ℤ} (nearest : Nearest round) {n : ℤ} {x : K} (below : x ≤ (n : K)) :
    round x ≤ n := by
  have close := (abs_le.mp (nearest.close x)).2
  have reached : (round x : K) < n + 1 := by linarith
  exact Int.lt_add_one_iff.mp (by exact_mod_cast reached)

omit [FloorRing K] in
theorem Nearest.mono {round : K → ℤ} (nearest : Nearest round) {x y : K} (le : x ≤ y) : round x ≤ round y := by
  by_contra crossed
  have gap : (round y : K) + 1 ≤ round x := by exact_mod_cast Int.add_one_le_of_lt (not_le.mp crossed)
  have above := (abs_le.mp (nearest.close x)).2
  have below := (abs_le.mp (nearest.close y)).1
  -- Both bounds are met only at the midpoint between the two.
  have same : x = y := by linarith
  rw [same] at crossed
  exact crossed le_rfl

/-- Away from zero and on one side of it, whole numbers pass through. -/
theorem halfUp_sub_int {x : K} {n : ℤ} (nonneg : 0 ≤ x) (left : 0 ≤ x - n) : halfUp (x - n) = halfUp x - n := by
  rw [halfUp, if_pos left, halfUp, if_pos nonneg, sub_add_eq_add_sub, Int.floor_sub_intCast]

/-- Ties to even is decided by the distance alone, except at the midpoint. -/
theorem halfEven_eq_iff (x : K) (n : ℤ) :
    halfEven x = n ↔ |x - n| < 1 / 2 ∨ (|x - n| = 1 / 2 ∧ Even n) := by
  have split_x := Int.floor_add_fract x
  have low := Int.fract_nonneg x
  have high := Int.fract_lt_one x
  have cast_le : ∀ a b : ℤ, (a : K) < b + 1 → a ≤ b := by
    intro a b h
    exact Int.lt_add_one_iff.mp (by exact_mod_cast h)
  constructor
  · intro h
    unfold halfEven at h
    split_ifs at h with small large even <;> subst h
    · left; rw [abs_lt]; constructor <;> linarith
    · left; push_cast; rw [abs_lt]; constructor <;> linarith
    · right
      refine ⟨?_, even⟩
      rw [abs_of_nonneg (by linarith)]; linarith
    · right
      refine ⟨?_, by rcases Int.even_or_odd ⌊x⌋ with e | o; exacts [absurd e even, o.add_one]⟩
      push_cast
      rw [abs_of_nonpos (by linarith)]; linarith
  · intro h
    rcases h with near | ⟨tie, even⟩
    · rw [abs_lt] at near
      unfold halfEven
      split_ifs with small large <;> apply le_antisymm <;> apply cast_le <;> push_cast <;> linarith
    · have sides : x - n = 1 / 2 ∨ x - n = -(1 / 2) := by
        rcases abs_choice (x - n) with h | h
        · left; rw [← h, tie]
        · right; linarith
      rcases sides with above | below
      · have floor_eq : ⌊x⌋ = n := by rw [Int.floor_eq_iff]; constructor <;> linarith
        have fract_eq : Int.fract x = 1 / 2 := by rw [Int.fract, floor_eq]; linarith
        simp [halfEven, fract_eq, floor_eq, even]
      · have floor_eq : ⌊x⌋ = n - 1 := by
          rw [Int.floor_eq_iff]; push_cast; constructor <;> linarith
        have fract_eq : Int.fract x = 1 / 2 := by
          rw [Int.fract, floor_eq]; push_cast; linarith
        have odd : ¬ Even (n - 1) := by
          rw [Int.not_even_iff_odd]; exact even.sub_odd odd_one
        simp only [halfEven, fract_eq, floor_eq, lt_irrefl, if_false, odd]
        ring

theorem halfEven_nearest : Nearest (halfEven : K → ℤ) := by
  constructor
  · intro n
    exact (halfEven_eq_iff _ n).mpr (.inl (by simp))
  · intro x
    rw [abs_sub_comm]
    rcases (halfEven_eq_iff x (halfEven x)).mp rfl with closer | ⟨tie, -⟩
    · exact closer.le
    · exact tie.le

/-- An even number is reached from half a unit below, the tie included. -/
theorem le_halfEven_iff_of_even {n : ℤ} (even : Even n) (x : K) : n ≤ halfEven x ↔ (n : K) - 1 / 2 ≤ x := by
  constructor
  · intro reached
    have close := (abs_le.mp (halfEven_nearest.close x)).2
    have above : (n : K) ≤ halfEven x := by exact_mod_cast reached
    linarith
  · intro reached
    rcases le_or_gt (n : K) x with above | below
    · exact halfEven_nearest.le_round above
    · apply ((halfEven_eq_iff x n).mpr _).ge
      rw [abs_of_neg (by linarith), ← le_iff_lt_or_eq.trans (or_congr_right (and_iff_left even).symm)]
      linarith

/-- A positive number is reached from half a unit below, the tie included. -/
theorem le_halfUp_iff {n : ℤ} (positive : 0 < n) (x : K) : n ≤ halfUp x ↔ (n : K) - 1 / 2 ≤ x := by
  have counted : (1 : K) ≤ n := by exact_mod_cast positive
  by_cases nonneg : 0 ≤ x
  · rw [halfUp, if_pos nonneg, Int.le_floor]
    constructor <;> intro reached <;> linarith
  · have least : 0 ≤ ⌊-x + 1 / 2⌋ := Int.floor_nonneg.mpr (by linarith)
    rw [halfUp, if_neg nonneg]
    exact iff_of_false (by omega) (by linarith)

theorem halfUp_neg (x : K) : halfUp (-x) = -halfUp x := by
  rcases lt_trichotomy x 0 with negative | rfl | positive
  · rw [halfUp, if_pos (by linarith), halfUp, if_neg negative.not_ge, neg_neg]
  · have zero := halfUp_nearest.fixes (K := K) 0
    rw [Int.cast_zero] at zero
    rw [neg_zero, zero, neg_zero]
  · rw [halfUp, if_neg (by linarith), halfUp, if_pos positive.le, neg_neg]

theorem halfEven_neg (x : K) : halfEven (-x) = -halfEven x := by
  have mirrored : |-x - (-halfEven x : ℤ)| = |x - halfEven x| := by
    rw [Int.cast_neg, ← abs_neg]
    ring_nf
  rw [halfEven_eq_iff, mirrored, even_neg, ← halfEven_eq_iff]

/-- A whole count valued at `p` and bought back at `k` rounds to itself exactly
when the price gap moves it by less than half a unit. -/
theorem halfEven_rescaled_iff {n : ℤ} (nonneg : 0 ≤ n) (p : K) {k : K} (positive : 0 < k) :
    halfEven (n * p / k) = n ↔ 2 * n * |p - k| < k ∨ (2 * n * |p - k| = k ∧ Even n) := by
  have moved : |n * p / k - n| = n * |p - k| / k := by
    have difference : n * p / k - n = n * (p - k) / k := by field_simp
    rw [difference, abs_div, abs_mul, abs_of_pos positive, abs_of_nonneg (Int.cast_nonneg nonneg)]
  rw [halfEven_eq_iff, moved, div_lt_iff₀ positive, div_eq_iff positive.ne']
  constructor
  · rintro (near | ⟨tie, even⟩)
    · left; linarith
    · right; exact ⟨by linarith, even⟩
  · rintro (near | ⟨tie, even⟩)
    · left; linarith
    · right; exact ⟨by linarith, even⟩

end Rounders

section Grid

variable {K : Type*} [Field K]

/-- `Decimal.quantize`: round the number of units, then scale back. -/
def quantize (round : K → ℤ) (unit x : K) : K := round (x / unit) * unit

/-- The multiples of the unit. -/
def OnGrid (unit x : K) : Prop := ∃ n : ℤ, x = n * unit

theorem quantize_onGrid (round : K → ℤ) (unit x : K) : OnGrid unit (quantize round unit x) :=
  ⟨round (x / unit), rfl⟩

theorem onGrid_zero (unit : K) : OnGrid unit 0 := ⟨0, by simp⟩

theorem OnGrid.add {unit x y : K} (hx : OnGrid unit x) (hy : OnGrid unit y) :
    OnGrid unit (x + y) := by
  obtain ⟨m, rfl⟩ := hx
  obtain ⟨n, rfl⟩ := hy
  exact ⟨m + n, by push_cast; ring⟩

theorem OnGrid.neg {unit x : K} (hx : OnGrid unit x) : OnGrid unit (-x) := by
  obtain ⟨m, rfl⟩ := hx
  exact ⟨-m, by push_cast; ring⟩

theorem OnGrid.sub {unit x y : K} (hx : OnGrid unit x) (hy : OnGrid unit y) : OnGrid unit (x - y) := by
  rw [sub_eq_add_neg]
  exact hx.add hy.neg

theorem OnGrid.mul {unit other x y : K} (hx : OnGrid unit x) (hy : OnGrid other y) :
    OnGrid (unit * other) (x * y) := by
  obtain ⟨m, rfl⟩ := hx
  obtain ⟨n, rfl⟩ := hy
  exact ⟨m * n, by push_cast; ring⟩

/-- The multiples of a multiple are multiples. -/
theorem OnGrid.refine {unit finer x : K} (hx : OnGrid unit x) (fine : OnGrid finer unit) : OnGrid finer x := by
  obtain ⟨m, rfl⟩ := hx
  obtain ⟨n, rfl⟩ := fine
  exact ⟨m * n, by push_cast; ring⟩

theorem OnGrid.abs [LinearOrder K] {unit x : K} (hx : OnGrid unit x) : OnGrid unit |x| := by
  rcases abs_choice x with same | turned
  · rwa [same]
  · rw [turned]
    exact hx.neg

/-- Nothing lies strictly between zero and the unit. -/
theorem OnGrid.eq_zero_of_small [LinearOrder K] [IsStrictOrderedRing K] {unit x : K} (hx : OnGrid unit x)
    (positive : 0 < unit) (small : |x| < unit) : x = 0 := by
  obtain ⟨n, rfl⟩ := hx
  rw [abs_mul, abs_of_pos positive, mul_lt_iff_lt_one_left positive] at small
  have none : |n| < 1 := by exact_mod_cast small
  rw [Int.abs_lt_one_iff.mp none, Int.cast_zero, zero_mul]

/-- Half a unit is the least value that rounds up to something. -/
theorem quantize_halfUp_pos_iff [LinearOrder K] [IsStrictOrderedRing K] [FloorRing K] {unit : K}
    (positive : 0 < unit) (x : K) : 0 < quantize halfUp unit x ↔ unit / 2 ≤ x := by
  have reaches : 0 < halfUp (x / unit) ↔ 1 / 2 ≤ x / unit := by
    have first := le_halfUp_iff one_pos (x / unit)
    rwa [Int.cast_one, sub_half] at first
  rw [quantize, mul_pos_iff_of_pos_right positive, Int.cast_pos, reaches, le_div_iff₀ positive,
    one_div_mul_eq_div]

/-- At most half a unit rounds to nothing, the tie included. -/
theorem quantize_halfEven_eq_zero_iff [LinearOrder K] [IsStrictOrderedRing K] [FloorRing K] {unit : K}
    (positive : 0 < unit) (x : K) : quantize halfEven unit x = 0 ↔ |x| ≤ unit / 2 := by
  have none_left : halfEven (x / unit) = 0 ↔ |x / unit| ≤ 1 / 2 := by
    rw [halfEven_eq_iff, Int.cast_zero, sub_zero, le_iff_lt_or_eq]
    simp
  rw [quantize, mul_eq_zero_iff_right positive.ne', Int.cast_eq_zero, none_left, abs_div,
    abs_of_pos positive, div_le_iff₀ positive, one_div_mul_eq_div]

theorem quantize_of_onGrid [LinearOrder K] {round : K → ℤ} (nearest : Nearest round) {unit x : K}
    (positive : 0 < unit) (grid : OnGrid unit x) : quantize round unit x = x := by
  obtain ⟨n, rfl⟩ := grid
  rw [quantize, mul_div_assoc, div_self positive.ne', mul_one, nearest.fixes]

theorem quantize_error [LinearOrder K] [IsStrictOrderedRing K] {round : K → ℤ}
    (nearest : Nearest round) {unit : K} (positive : 0 < unit) (x : K) :
    |quantize round unit x - x| ≤ unit / 2 := by
  have scaled : quantize round unit x - x = (round (x / unit) - x / unit) * unit := by
    rw [quantize, sub_mul, div_mul_cancel₀ x positive.ne']
  rw [scaled, abs_mul, abs_of_pos positive]
  have close := mul_le_mul_of_nonneg_right (nearest.close (x / unit)) positive.le
  linarith

theorem quantize_neg {round : K → ℤ} (odd : ∀ x, round (-x) = -round x) (unit x : K) :
    quantize round unit (-x) = -quantize round unit x := by
  rw [quantize, neg_div, odd, Int.cast_neg, neg_mul, quantize]

theorem quantize_mono [LinearOrder K] [IsStrictOrderedRing K] {round : K → ℤ} (nearest : Nearest round)
    {unit x y : K} (positive : 0 < unit) (le : x ≤ y) : quantize round unit x ≤ quantize round unit y := by
  have counted := nearest.mono (div_le_div_of_nonneg_right le positive.le)
  exact mul_le_mul_of_nonneg_right (Int.cast_le.mpr counted) positive.le

theorem quantize_nonneg [LinearOrder K] [IsStrictOrderedRing K] {round : K → ℤ} (nearest : Nearest round)
    {unit x : K} (positive : 0 < unit) (nonneg : 0 ≤ x) : 0 ≤ quantize round unit x := by
  have kept := quantize_mono nearest positive nonneg
  rwa [quantize_of_onGrid nearest positive (onGrid_zero unit)] at kept

theorem abs_quantize [LinearOrder K] [IsStrictOrderedRing K] {round : K → ℤ} (nearest : Nearest round)
    (odd : ∀ x, round (-x) = -round x) {unit : K} (positive : 0 < unit) (x : K) :
    |quantize round unit x| = quantize round unit |x| := by
  rcases le_total 0 x with nonneg | nonpos
  · rw [abs_of_nonneg nonneg, abs_of_nonneg (quantize_nonneg nearest positive nonneg)]
  · have mirrored := quantize_nonneg nearest positive (neg_nonneg.mpr nonpos)
    rw [quantize_neg odd] at mirrored
    rw [abs_of_nonpos nonpos, quantize_neg odd, abs_of_nonpos (neg_nonneg.mp mirrored)]

/-- What is on the grid may be taken off before rounding or after, above zero. -/
theorem quantize_halfUp_sub [LinearOrder K] [IsStrictOrderedRing K] [FloorRing K] {unit x y : K}
    (positive : 0 < unit) (grid : OnGrid unit y) (nonneg : 0 ≤ x) (left : 0 ≤ x - y) :
    quantize halfUp unit (x - y) = quantize halfUp unit x - y := by
  obtain ⟨n, rfl⟩ := grid
  have units : (x - n * unit) / unit = x / unit - n := by
    rw [sub_div, mul_div_cancel_right₀ _ positive.ne']
  have kept : 0 ≤ x / unit - n := units ▸ div_nonneg left positive.le
  rw [quantize, units, halfUp_sub_int (div_nonneg nonneg positive.le) kept, quantize]
  push_cast
  ring

/-- The size of a rounded value reaches a count from half a unit below. -/
theorem le_abs_quantize_iff [LinearOrder K] [IsStrictOrderedRing K] {round : K → ℤ} (nearest : Nearest round)
    (odd : ∀ x, round (-x) = -round x) {n : ℤ} (reaches : ∀ x, n ≤ round x ↔ (n : K) - 1 / 2 ≤ x) {unit : K}
    (positive : 0 < unit) (x : K) : n * unit ≤ |quantize round unit x| ↔ n * unit - unit / 2 ≤ |x| := by
  have counted (y : K) (nonneg : 0 ≤ y) : n * unit ≤ |quantize round unit y| ↔ n * unit - unit / 2 ≤ y := by
    have kept : (0 : ℤ) ≤ round (y / unit) :=
      nearest.le_round (by rw [Int.cast_zero]; exact div_nonneg nonneg positive.le)
    rw [quantize, abs_of_nonneg (mul_nonneg (Int.cast_nonneg kept) positive.le),
      mul_le_mul_iff_of_pos_right positive, Int.cast_le, reaches, le_div_iff₀ positive, sub_mul,
      one_div_mul_eq_div]
  rcases le_total 0 x with nonneg | nonpos
  · rw [counted x nonneg, abs_of_nonneg nonneg]
  · rw [abs_of_nonpos nonpos, ← counted (-x) (neg_nonneg.mpr nonpos), quantize_neg odd, abs_neg]

/-- Whatever lies halfway between two points of the grid has the two values on one side. -/
def SameTies [LinearOrder K] (unit x y : K) : Prop :=
  ∀ n : ℤ, (x < (n + 1 / 2) * unit → y < (n + 1 / 2) * unit) ∧ ((n + 1 / 2) * unit < x → (n + 1 / 2) * unit ≤ y)

theorem sameTies_self [LinearOrder K] (unit x : K) : SameTies unit x x := fun _ => ⟨id, le_of_lt⟩

/-- A value rounded for another lands within half a unit of it exactly when no
midpoint comes between the two. -/
theorem quantize_halfUp_near_iff [LinearOrder K] [IsStrictOrderedRing K] [FloorRing K] {unit x y : K}
    (positive : 0 < unit) (nonneg : 0 ≤ y) :
    |quantize halfUp unit y - x| ≤ unit / 2 ↔ SameTies unit x y := by
  have low : ((halfUp (y / unit) : K) - 1 / 2) * unit ≤ y := by
    rw [← le_div_iff₀ positive, halfUp, if_pos (div_nonneg nonneg positive.le)]
    linarith [Int.floor_le (y / unit + 1 / 2)]
  have high : y < (halfUp (y / unit) + 1 / 2) * unit := by
    rw [← div_lt_iff₀ positive, halfUp, if_pos (div_nonneg nonneg positive.le)]
    linarith [Int.lt_floor_add_one (y / unit + 1 / 2)]
  have near : |quantize halfUp unit y - x| ≤ unit / 2 ↔
      ((halfUp (y / unit) : K) - 1 / 2) * unit ≤ x ∧ x ≤ (halfUp (y / unit) + 1 / 2) * unit := by
    rw [quantize, abs_sub_le_iff]
    constructor <;> rintro ⟨above, below⟩ <;> constructor <;> linarith
  rw [near]
  generalize halfUp (y / unit) = n at low high
  constructor
  · rintro ⟨above, below⟩ m
    constructor
    · intro beyond
      by_contra short
      have count : (m : K) < n := by
        have ordered := (not_lt.mp short).trans_lt high
        rw [mul_lt_mul_iff_of_pos_right positive] at ordered
        linarith
      have step : (m : K) ≤ n - 1 := by
        have whole : m ≤ n - 1 := by
          have strict : m < n := by exact_mod_cast count
          omega
        exact_mod_cast whole
      have ordered : (m + 1 / 2 : K) * unit ≤ (n - 1 / 2) * unit :=
        mul_le_mul_of_nonneg_right (by linarith) positive.le
      linarith
    · intro beyond
      have ordered := beyond.trans_le below
      rw [mul_lt_mul_iff_of_pos_right positive] at ordered
      have step : (m : K) ≤ n - 1 := by
        have strict : m < n := by
          have count : (m : K) < n := by linarith
          exact_mod_cast count
        have whole : m ≤ n - 1 := by omega
        exact_mod_cast whole
      have kept : (m + 1 / 2 : K) * unit ≤ (n - 1 / 2) * unit :=
        mul_le_mul_of_nonneg_right (by linarith) positive.le
      exact kept.trans low
  · intro same
    constructor
    · by_contra below
      have crossed := (same (n - 1)).1 (by push_cast; linarith)
      push_cast at crossed
      linarith
    · by_contra above
      exact absurd ((same n).2 (not_le.mp above)) high.not_ge

/-- A rounder that moves nothing across a point of the grid. -/
structure RespectsGrid [LE K] (grid : K → Prop) (round : K → K) : Prop where
  lower : ∀ {bound x}, grid bound → bound ≤ x → bound ≤ round x
  upper : ∀ {bound x}, grid bound → x ≤ bound → round x ≤ bound

theorem quantize_respectsGrid [LinearOrder K] [IsStrictOrderedRing K] {round : K → ℤ}
    (nearest : Nearest round) {unit : K} (positive : 0 < unit) :
    RespectsGrid (OnGrid unit) (quantize round unit) where
  lower := by
    rintro _ x ⟨n, rfl⟩ above
    rw [quantize, mul_le_mul_iff_of_pos_right positive, Int.cast_le]
    exact nearest.le_round ((le_div_iff₀ positive).mpr above)
  upper := by
    rintro _ x ⟨n, rfl⟩ below
    rw [quantize, mul_le_mul_iff_of_pos_right positive, Int.cast_le]
    exact nearest.round_le ((div_le_iff₀ positive).mpr below)

/-- A value less than half a unit off a bound of the grid is rounded to its side. -/
theorem le_quantize_of_near [LinearOrder K] [IsStrictOrderedRing K] {round : K → ℤ} (nearest : Nearest round)
    {unit bound x : K} (positive : 0 < unit) (grid : OnGrid unit bound) (near : bound - unit / 2 < x) :
    bound ≤ quantize round unit x := by
  obtain ⟨n, rfl⟩ := grid
  have ratio : (n : K) - 1 / 2 < x / unit := by
    rw [lt_div_iff₀ positive, sub_mul, one_div_mul_eq_div]
    exact near
  have close := (abs_le.mp (nearest.close (x / unit))).1
  have reached : (n : K) < round (x / unit) + 1 := by linarith
  rw [quantize, mul_le_mul_iff_of_pos_right positive, Int.cast_le]
  exact Int.lt_add_one_iff.mp (by exact_mod_cast reached)

theorem quantize_le_of_near [LinearOrder K] [IsStrictOrderedRing K] {round : K → ℤ} (nearest : Nearest round)
    {unit bound x : K} (positive : 0 < unit) (grid : OnGrid unit bound) (near : x < bound + unit / 2) :
    quantize round unit x ≤ bound := by
  obtain ⟨n, rfl⟩ := grid
  have ratio : x / unit < (n : K) + 1 / 2 := by
    rw [div_lt_iff₀ positive, add_mul, one_div_mul_eq_div]
    exact near
  have close := (abs_le.mp (nearest.close (x / unit))).2
  have reached : (round (x / unit) : K) < n + 1 := by linarith
  rw [quantize, mul_le_mul_iff_of_pos_right positive, Int.cast_le]
  exact Int.lt_add_one_iff.mp (by exact_mod_cast reached)

/-- What lies within half a unit of a rounded value, strictly, rounds to it too. -/
theorem quantize_eq_of_near [LinearOrder K] [IsStrictOrderedRing K] {round : K → ℤ} (nearest : Nearest round)
    {unit x y : K} (positive : 0 < unit) (near : |y - quantize round unit x| < unit / 2) :
    quantize round unit y = quantize round unit x := by
  obtain ⟨above, below⟩ := abs_lt.mp near
  exact le_antisymm
    (quantize_le_of_near nearest positive (quantize_onGrid round unit x) (by linarith))
    (le_quantize_of_near nearest positive (quantize_onGrid round unit x) (by linarith))

section Floors

variable [LinearOrder K] [IsStrictOrderedRing K] [FloorRing K] {unit : K}

/-- Rounding down gives the last multiple at or below the value. -/
theorem le_quantize_floor_iff (positive : 0 < unit) (x : K) (n : ℤ) :
    n * unit ≤ quantize Int.floor unit x ↔ n * unit ≤ x := by
  rw [quantize, mul_le_mul_iff_of_pos_right positive, Int.cast_le, Int.le_floor, le_div_iff₀ positive]

/-- It is the greatest multiple not above the value. -/
theorem quantize_floor_isGreatest (positive : 0 < unit) (x : K) :
    IsGreatest {m | OnGrid unit m ∧ m ≤ x} (quantize Int.floor unit x) := by
  refine ⟨⟨quantize_onGrid _ _ _, (le_quantize_floor_iff positive x ⌊x / unit⌋).mp le_rfl⟩, ?_⟩
  rintro _ ⟨⟨n, rfl⟩, below⟩
  exact (le_quantize_floor_iff positive x n).mpr below

theorem quantize_floor_le (positive : 0 < unit) (x : K) : quantize Int.floor unit x ≤ x :=
  (quantize_floor_isGreatest positive x).1.2

/-- It stays above a bound exactly when some multiple lies between the two. -/
theorem lt_quantize_floor_iff (positive : 0 < unit) (bound x : K) :
    bound < quantize Int.floor unit x ↔ ∃ n : ℤ, bound < n * unit ∧ n * unit ≤ x := by
  constructor
  · intro above
    exact ⟨⌊x / unit⌋, above, quantize_floor_le positive x⟩
  · rintro ⟨n, above, below⟩
    exact above.trans_le ((le_quantize_floor_iff positive x n).mpr below)

/-- It is positive exactly from one unit on. -/
theorem quantize_floor_pos_iff (positive : 0 < unit) (x : K) :
    0 < quantize Int.floor unit x ↔ unit ≤ x := by
  rw [lt_quantize_floor_iff positive]
  constructor
  · rintro ⟨n, above, below⟩
    have counted : (0 : K) < n := pos_of_mul_pos_left above positive.le
    have one : (1 : K) ≤ n := by exact_mod_cast Int.cast_pos.mp counted
    calc unit = 1 * unit := (one_mul unit).symm
      _ ≤ n * unit := by gcongr
      _ ≤ x := below
  · intro reaches
    exact ⟨1, by simpa using positive, by simpa using reaches⟩

end Floors

end Grid

end RoundingGrid
