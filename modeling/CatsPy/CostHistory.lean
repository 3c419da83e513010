import CatsPy.AverageCost
import CatsPy.RoundingGrid
import Mathlib.Data.List.Induction
import Mathlib.Data.Set.Finite.List
import Mathlib.Data.Set.Finite.Lemmas
import Mathlib.Order.Bounds.Basic

/-!
# Cost histories

A holding built up fill by fill, and the part of its history that explains its
cost: the fills since the quantity last took its side. Sizes and averages may be
rounded at every fill; as long as the rounded sizes keep their signs and no
average is moved across a bound both of its prices respect, the cost stays
between the lowest and the highest price paid on that side.
-/
namespace AverageCost
open RoundingGrid

section Accounting

variable {K : Type*} [Field K] [LinearOrder K]

/-- What a fill makes of the size, and what it makes of the cost when it opens a
holding or adds to it. -/
structure Accounting (K : Type*) where
  add : K → K → K
  average : Holding K → K → K → K

/-- Exact sizes and a rounded average. -/
def roundedBy (round : K → K) : Accounting K where
  add := (· + ·)
  average := averageCost round

def Accounting.apply (accounting : Accounting K) (h : Holding K) (fill price : K) : Holding K where
  quantity := accounting.add h.quantity fill
  cost := if h.quantity = 0 ∨ 0 < h.quantity * fill then accounting.average h fill price
    else reducedCost h fill price

theorem applyFill_eq_apply (round : K → K) (h : Holding K) (fill price : K) :
    (applyFill round h fill price).1 = (roundedBy round).apply h fill price := by
  unfold applyFill Accounting.apply
  split <;> rfl

variable [IsStrictOrderedRing K] {accounting : Accounting K}

/-- What a fill can do to a holding that it leaves open: open it or turn it round,
add to it, or take from it. -/
theorem apply_cases (accounting : Accounting K) (h : Holding K) (fill price : K)
    (opened : h.quantity + fill ≠ 0) :
    (h.quantity = 0 ∧ (accounting.apply h fill price).cost = accounting.average h fill price) ∨
    (h.quantity * (h.quantity + fill) < 0 ∧ (accounting.apply h fill price).cost = price) ∨
    (0 < h.quantity * (h.quantity + fill) ∧ 0 < h.quantity * fill ∧
      (accounting.apply h fill price).cost = accounting.average h fill price) ∨
    (0 < h.quantity * (h.quantity + fill) ∧ ¬ 0 < h.quantity * fill ∧
      (accounting.apply h fill price).cost = h.cost) := by
  by_cases flat : h.quantity = 0
  · exact .inl ⟨flat, by simp [Accounting.apply, flat]⟩
  by_cases adds : 0 < h.quantity * fill
  · refine .inr (.inr (.inl ⟨?_, adds, by simp [Accounting.apply, adds]⟩))
    rw [mul_add]
    exact add_pos (mul_self_pos.mpr flat) adds
  have closing : ¬ (h.quantity = 0 ∨ 0 < h.quantity * fill) := not_or.mpr ⟨flat, adds⟩
  have cost : (accounting.apply h fill price).cost = reducedCost h fill price := if_neg closing
  -- Against the holding, the smaller of the two sizes decides the side.
  rcases lt_trichotomy |fill| |h.quantity| with part | whole | beyond
  · refine .inr (.inr (.inr ⟨?_, adds, by rw [cost, reducedCost, if_pos part]⟩))
    have smaller := mul_lt_mul_of_pos_left part (abs_pos.mpr flat)
    rw [← abs_mul, abs_mul_abs_self] at smaller
    rw [mul_add]
    linarith [neg_abs_le (h.quantity * fill)]
  · rcases abs_eq_abs.mp whole with same | opposite
    · rw [same] at adds
      exact absurd (mul_self_pos.mpr flat) adds
    · exact absurd (by rw [opposite, add_neg_cancel]) opened
  · refine .inr (.inl ⟨?_, by rw [cost, reducedCost, if_neg beyond.not_gt, if_neg beyond.ne']⟩)
    have larger := mul_lt_mul_of_pos_left beyond (abs_pos.mpr flat)
    rw [abs_mul_abs_self, ← abs_mul, abs_of_nonpos (not_lt.mp adds)] at larger
    rw [mul_add]
    linarith

theorem sized_of_stays {quantity fill : K} (stays : quantity + fill ≠ 0) : |quantity| + |fill| ≠ 0 := by
  intro nothing
  have sizes := (add_eq_zero_iff_of_nonneg (abs_nonneg _) (abs_nonneg _)).mp nothing
  rw [abs_eq_zero.mp sizes.1, abs_eq_zero.mp sizes.2] at stays
  exact stays (add_zero 0)

/-- Fills at a bound or above keep the cost of what stays open there, if averages do. -/
theorem apply_lower {h : Holding K} {fill price bound : K} (average : bound ≤ accounting.average h fill price)
    (held : h.quantity ≠ 0 → bound ≤ h.cost) (below : bound ≤ price) (stays : h.quantity + fill ≠ 0) :
    bound ≤ (accounting.apply h fill price).cost := by
  rcases apply_cases accounting h fill price stays with
    ⟨-, cost⟩ | ⟨-, cost⟩ | ⟨-, -, cost⟩ | ⟨same, -, cost⟩ <;> rw [cost]
  · exact average
  · exact below
  · exact average
  · exact held (left_ne_zero_of_mul same.ne')

theorem weighted_le {weight x y : K} (nonneg : 0 ≤ weight) (le : weight ≠ 0 → x ≤ y) :
    weight * x ≤ weight * y := by
  rcases eq_or_ne weight 0 with none | some
  · rw [none, zero_mul, zero_mul]
  · exact mul_le_mul_of_nonneg_left (le some) nonneg

theorem sizes_pos {quantity fill : K} (sized : |quantity| + |fill| ≠ 0) : 0 < |quantity| + |fill| :=
  lt_of_le_of_ne (add_nonneg (abs_nonneg _) (abs_nonneg _)) (Ne.symm sized)

theorem averageCost_lower {round : K → K} {grid : K → Prop} (respects : RespectsGrid grid round)
    {h : Holding K} {fill price bound : K} (point : grid bound) (held : h.quantity ≠ 0 → bound ≤ h.cost)
    (below : bound ≤ price) (sized : |h.quantity| + |fill| ≠ 0) :
    bound ≤ averageCost round h fill price := by
  have held_part := weighted_le (abs_nonneg h.quantity) fun some => held (abs_ne_zero.mp some)
  have fill_part := mul_le_mul_of_nonneg_left below (abs_nonneg fill)
  rw [averageCost, if_neg sized]
  apply respects.lower point
  rw [le_div_iff₀ (sizes_pos sized)]
  linarith

theorem applyFill_lower {round : K → K} {grid : K → Prop} (respects : RespectsGrid grid round) {h : Holding K}
    {fill price bound : K} (point : grid bound) (held : h.quantity ≠ 0 → bound ≤ h.cost) (below : bound ≤ price)
    (stays : h.quantity + fill ≠ 0) : bound ≤ (applyFill round h fill price).1.cost := by
  rw [applyFill_eq_apply]
  exact apply_lower (averageCost_lower respects point held below (sized_of_stays stays)) held below stays

end Accounting

section Soundness

variable {K : Type*} [Field K] [LinearOrder K]

/-- Rounded sizes keep their signs, and averages of costs on the grid stay there, on
the side of every bound of the grid that both costs are on. -/
structure Accounting.Sound (accounting : Accounting K) (size grid : K → Prop) : Prop where
  zero : size 0 ∧ grid 0
  add : ∀ {q f}, size q → size f → size (accounting.add q f)
  positive : ∀ {q f}, size q → size f → (0 < accounting.add q f ↔ 0 < q + f)
  negative : ∀ {q f}, size q → size f → (accounting.add q f < 0 ↔ q + f < 0)
  average : ∀ {h fill price}, size h.quantity → size fill → grid h.cost → grid price →
    grid (accounting.average h fill price)
  lower : ∀ {h fill price}, size h.quantity → size fill → grid h.cost → grid price →
    |h.quantity| + |fill| ≠ 0 → ∀ bound, grid bound → (h.quantity ≠ 0 → bound ≤ h.cost) → bound ≤ price →
    bound ≤ accounting.average h fill price
  upper : ∀ {h fill price}, size h.quantity → size fill → grid h.cost → grid price →
    |h.quantity| + |fill| ≠ 0 → ∀ bound, grid bound → (h.quantity ≠ 0 → h.cost ≤ bound) → price ≤ bound →
    accounting.average h fill price ≤ bound

variable {accounting : Accounting K} {size grid : K → Prop}

theorem Accounting.Sound.apply (sound : accounting.Sound size grid) {h : Holding K} {fill price : K}
    (held : size h.quantity ∧ grid h.cost) (filled : size fill ∧ grid price) :
    size (accounting.apply h fill price).quantity ∧ grid (accounting.apply h fill price).cost := by
  refine ⟨sound.add held.1 filled.1, ?_⟩
  unfold Accounting.apply reducedCost
  dsimp only
  split_ifs
  · exact sound.average held.1 filled.1 held.2 filled.2
  · exact held.2
  · exact sound.zero.2
  · exact filled.2

theorem Accounting.Sound.add_ne_zero_iff (sound : accounting.Sound size grid) {q f : K} (held : size q)
    (filled : size f) : accounting.add q f ≠ 0 ↔ q + f ≠ 0 := by
  rw [ne_iff_lt_or_gt, ne_iff_lt_or_gt, sound.negative held filled]
  exact or_congr_right (sound.positive held filled)

variable [IsStrictOrderedRing K]

/-- A rounded size is on the side its exact value is on. -/
theorem Accounting.Sound.same_side_iff (sound : accounting.Sound size grid) {q f : K} (held : size q)
    (filled : size f) (x : K) : 0 < x * accounting.add q f ↔ 0 < x * (q + f) := by
  rw [mul_pos_iff, mul_pos_iff, sound.positive held filled, sound.negative held filled]

end Soundness

section Histories

/-- A signed quantity filled at a price. -/
structure Fill (K : Type*) where
  quantity : K
  price : K

section Net

variable {K : Type*} [Field K] [LinearOrder K] (accounting : Accounting K)

def netQuantity (fills : List (Fill K)) : K := fills.foldl (fun q fill => accounting.add q fill.quantity) 0

omit [LinearOrder K] in
theorem netQuantity_append (fills : List (Fill K)) (fill : Fill K) :
    netQuantity accounting (fills ++ [fill]) = accounting.add (netQuantity accounting fills) fill.quantity := by
  simp [netQuantity]

/-- Every grid point below all prices is below the cost, every one above them above it. -/
structure CostInside (grid : K → Prop) (prices : List K) (cost : K) : Prop where
  lower : ∀ {bound}, grid bound → (∀ price ∈ prices, bound ≤ price) → bound ≤ cost
  upper : ∀ {bound}, grid bound → (∀ price ∈ prices, price ≤ bound) → cost ≤ bound

/-- The holding a list of fills makes of another. -/
def applyFills (h : Holding K) (fills : List (Fill K)) : Holding K :=
  fills.foldl (fun h fill => accounting.apply h fill.quantity fill.price) h

/-- The opening fill takes the quantity to the side it is on at the end, and the
later ones leave it there. -/
structure Stint (earlier : List (Fill K)) (opening : Fill K) (later : List (Fill K)) : Prop where
  entered : ¬ 0 < netQuantity accounting earlier * netQuantity accounting (earlier ++ opening :: later)
  stayed : ∀ part, part <+: later → 0 < netQuantity accounting (earlier ++ opening :: part) *
    netQuantity accounting (earlier ++ opening :: later)

/-- The prices of the fills that opened a holding or added to it. -/
def entryPrices (quantity : K) (opening : Fill K) (later : List (Fill K)) : List K :=
  opening.price :: (later.filter fun fill => 0 < quantity * fill.quantity).map Fill.price

/-- The cost lies between the lowest and the highest price of the fills that
opened the holding or added to it since it took its side. -/
def CostWithinEntries (fills : List (Fill K)) (cost : K) : Prop :=
  ∃ earlier opening later, fills = earlier ++ opening :: later ∧ Stint accounting earlier opening later ∧
    ∃ low high, IsLeast {price | price ∈ entryPrices (netQuantity accounting fills) opening later} low ∧
      IsGreatest {price | price ∈ entryPrices (netQuantity accounting fills) opening later} high ∧
      low ≤ cost ∧ cost ≤ high

theorem applyFills_append (h : Holding K) (fills : List (Fill K)) (fill : Fill K) :
    applyFills accounting h (fills ++ [fill]) =
      accounting.apply (applyFills accounting h fills) fill.quantity fill.price := by
  simp [applyFills]

theorem applyFills_quantity (fills : List (Fill K)) :
    (applyFills accounting ⟨0, 0⟩ fills).quantity = netQuantity accounting fills := by
  induction fills using List.reverseRecOn with
  | nil => simp [applyFills, netQuantity]
  | append_singleton fills fill ih =>
      rw [applyFills_append, netQuantity_append, ← ih]
      rfl

end Net

variable {K : Type*} [Field K] [LinearOrder K] {accounting : Accounting K} {size grid : K → Prop}

theorem applyFills_sound (sound : accounting.Sound size grid) (fills : List (Fill K))
    (filled : ∀ fill ∈ fills, size fill.quantity ∧ grid fill.price) :
    size (netQuantity accounting fills) ∧ grid (applyFills accounting ⟨0, 0⟩ fills).cost := by
  induction fills using List.reverseRecOn with
  | nil => exact sound.zero
  | append_singleton fills fill ih =>
      obtain ⟨before, last⟩ := List.forall_mem_append.mp filled
      have held := ih before
      rw [← applyFills_quantity] at held
      have kept := sound.apply held (last fill List.mem_cons_self)
      rwa [← applyFills_append, applyFills_quantity] at kept

variable [IsStrictOrderedRing K]

/-- Two quantities on one side agree on what else is on it. -/
theorem same_side {quantity after : K} (same : 0 < quantity * after) (x : K) :
    0 < x * after ↔ 0 < x * quantity := by
  have square : 0 < after * after := mul_self_pos.mpr (right_ne_zero_of_mul same.ne')
  calc 0 < x * after ↔ 0 < x * after * (quantity * after) := (mul_pos_iff_of_pos_right same).symm
    _ ↔ 0 < x * quantity * (after * after) := by rw [mul_mul_mul_comm]
    _ ↔ 0 < x * quantity := mul_pos_iff_of_pos_right square

theorem Stint.extend {earlier later : List (Fill K)} {opening fill : Fill K}
    (stint : Stint accounting earlier opening later)
    (same : 0 < netQuantity accounting (earlier ++ opening :: later) *
      netQuantity accounting (earlier ++ opening :: (later ++ [fill]))) :
    Stint accounting earlier opening (later ++ [fill]) where
  entered := by
    rw [same_side same]
    exact stint.entered
  stayed := by
    intro part within
    rcases List.prefix_concat_iff.mp within with rfl | inside
    · exact mul_self_pos.mpr (right_ne_zero_of_mul same.ne')
    · rw [same_side same]
      exact stint.stayed part inside

theorem stint_singleton {earlier : List (Fill K)} {opening : Fill K}
    (opened : netQuantity accounting (earlier ++ [opening]) ≠ 0)
    (entered : ¬ 0 < netQuantity accounting earlier * netQuantity accounting (earlier ++ [opening])) :
    Stint accounting earlier opening [] where
  entered := entered
  stayed := by
    intro part within
    rw [List.prefix_nil.mp within]
    exact mul_self_pos.mpr opened

/-- The prices a longer stint adds up are those of its fills on the same side. -/
theorem entryPrices_append {quantity after : K} (same : 0 < quantity * after) (opening : Fill K)
    (later : List (Fill K)) (fill : Fill K) :
    entryPrices after opening (later ++ [fill]) = entryPrices quantity opening later ++
      if 0 < quantity * fill.quantity then [fill.price] else [] := by
  have side (other : Fill K) : 0 < after * other.quantity ↔ 0 < quantity * other.quantity := by
    rw [mul_comm, same_side same, mul_comm]
  have filtered (fills : List (Fill K)) : (fills.filter fun other => 0 < after * other.quantity) =
      fills.filter fun other => 0 < quantity * other.quantity :=
    List.filter_congr fun other _ => by simp only [side]
  rw [entryPrices, filtered, List.filter_append, List.map_append]
  split_ifs with adds <;> simp [entryPrices, adds]

/-- Over every history the cost of an open holding stays inside the prices of its
stint. -/
theorem applyFills_inside (sound : accounting.Sound size grid) (fills : List (Fill K))
    (filled : ∀ fill ∈ fills, size fill.quantity ∧ grid fill.price)
    (opened : netQuantity accounting fills ≠ 0) :
    ∃ earlier opening later, fills = earlier ++ opening :: later ∧ Stint accounting earlier opening later ∧
      CostInside grid (entryPrices (netQuantity accounting fills) opening later)
        (applyFills accounting ⟨0, 0⟩ fills).cost := by
  induction fills using List.reverseRecOn with
  | nil => exact absurd rfl opened
  | append_singleton fills fill ih =>
      obtain ⟨before, last⟩ := List.forall_mem_append.mp filled
      obtain ⟨fill_size, fill_grid⟩ := last fill List.mem_cons_self
      obtain ⟨held_size, held_grid⟩ := applyFills_sound sound fills before
      have net := netQuantity_append accounting fills fill
      have stays : netQuantity accounting fills + fill.quantity ≠ 0 := by
        rwa [net, sound.add_ne_zero_iff held_size fill_size] at opened
      have side (x : K) : 0 < x * netQuantity accounting (fills ++ [fill]) ↔
          0 < x * (netQuantity accounting fills + fill.quantity) := by
        rw [net]
        exact sound.same_side_iff held_size fill_size x
      have sized := sized_of_stays stays
      have quantity := applyFills_quantity accounting fills
      rw [applyFills_append]
      rw [← quantity] at stays held_size sized
      have lower := sound.lower held_size fill_size held_grid fill_grid sized
      have upper := sound.upper held_size fill_size held_grid fill_grid sized
      rcases apply_cases accounting (applyFills accounting ⟨0, 0⟩ fills) fill.quantity fill.price stays with
        ⟨flat, cost⟩ | ⟨turned, cost⟩ | ⟨same, adds, cost⟩ | ⟨same, takes, cost⟩
      · refine ⟨fills, fill, [], rfl, stint_singleton opened (by rw [← quantity, flat]; simp), ?_⟩
        rw [cost]
        constructor
        · intro bound point below
          exact lower bound point (fun nonzero => absurd flat nonzero) (below fill.price List.mem_cons_self)
        · intro bound point above
          exact upper bound point (fun nonzero => absurd flat nonzero) (above fill.price List.mem_cons_self)
      · rw [quantity] at turned
        refine ⟨fills, fill, [], rfl, stint_singleton opened ((side _).not.mpr turned.not_gt), ?_⟩
        rw [cost]
        exact ⟨fun _ below => below fill.price List.mem_cons_self,
          fun _ above => above fill.price List.mem_cons_self⟩
      · rw [quantity, ← side] at same
        obtain ⟨earlier, opening, later, shape, stint, inside⟩ := ih before (left_ne_zero_of_mul same.ne')
        have longer : fills ++ [fill] = earlier ++ opening :: (later ++ [fill]) := by simp [shape]
        refine ⟨earlier, opening, later ++ [fill], longer, stint.extend ?_, ?_⟩
        · rwa [← shape, ← longer]
        rw [quantity] at adds
        rw [cost, entryPrices_append same, if_pos adds]
        constructor
        · intro bound point below
          obtain ⟨earliest, latest⟩ := List.forall_mem_append.mp below
          exact lower bound point (fun _ => inside.lower point earliest) (latest fill.price List.mem_cons_self)
        · intro bound point above
          obtain ⟨earliest, latest⟩ := List.forall_mem_append.mp above
          exact upper bound point (fun _ => inside.upper point earliest) (latest fill.price List.mem_cons_self)
      · rw [quantity, ← side] at same
        obtain ⟨earlier, opening, later, shape, stint, inside⟩ := ih before (left_ne_zero_of_mul same.ne')
        have longer : fills ++ [fill] = earlier ++ opening :: (later ++ [fill]) := by simp [shape]
        refine ⟨earlier, opening, later ++ [fill], longer, stint.extend ?_, ?_⟩
        · rwa [← shape, ← longer]
        rw [quantity] at takes
        rw [cost, entryPrices_append same, if_neg takes, List.append_nil]
        exact inside

/-- With all prices on the grid, the cost lies between the extreme entry prices. -/
theorem costWithinEntries (sound : accounting.Sound size grid) {fills : List (Fill K)}
    (filled : ∀ fill ∈ fills, size fill.quantity ∧ grid fill.price)
    (opened : netQuantity accounting fills ≠ 0) :
    CostWithinEntries accounting fills (applyFills accounting ⟨0, 0⟩ fills).cost := by
  obtain ⟨earlier, opening, later, shape, stint, inside⟩ := applyFills_inside sound fills filled opened
  have points : ∀ price ∈ entryPrices (netQuantity accounting fills) opening later, grid price := by
    intro price entered
    rcases List.mem_cons.mp entered with rfl | added
    · exact (filled opening (by simp [shape])).2
    · obtain ⟨fill, listed, rfl⟩ := List.mem_map.mp added
      exact (filled fill (by simp [shape, List.mem_of_mem_filter listed])).2
  have finite := List.finite_toSet (entryPrices (netQuantity accounting fills) opening later)
  have nonempty : {price | price ∈ entryPrices (netQuantity accounting fills) opening later}.Nonempty :=
    ⟨opening.price, List.mem_cons_self⟩
  obtain ⟨low, low_mem, least⟩ := Set.exists_min_image _ id finite nonempty
  obtain ⟨high, high_mem, greatest⟩ := Set.exists_max_image _ id finite nonempty
  exact ⟨earlier, opening, later, shape, stint, low, high, ⟨low_mem, least⟩, ⟨high_mem, greatest⟩,
    inside.lower (points low low_mem) least, inside.upper (points high high_mem) greatest⟩

end Histories

end AverageCost
