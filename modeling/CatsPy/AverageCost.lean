import Mathlib.Algebra.Order.Field.Basic
import Mathlib.Algebra.Order.AbsoluteValue.Basic
import Mathlib.Tactic.Linarith
import Mathlib.Tactic.Ring
import Mathlib.Tactic.FieldSimp

/-!
# Average-cost accounting

A signed holding with one average cost, over any ordered field. A fill opens,
adds to, reduces, closes or reverses the holding. The average is rounded by an
arbitrary function; conservation then holds up to the rounding of an addition
and exactly in every other case.
-/
namespace AverageCost

variable {K : Type*} [Field K] [LinearOrder K]

structure Holding (K : Type*) where
  quantity : K
  cost : K

def Holding.book (h : Holding K) : K := h.quantity * h.cost

/-- The fill has the direction of a holding that is already open. -/
def Adds (quantity fill : K) : Prop := quantity ≠ 0 ∧ 0 < quantity * fill

instance (quantity fill : K) : Decidable (Adds quantity fill) := by unfold Adds; infer_instance

def signOf (x : K) : K := if 0 < x then 1 else if x < 0 then -1 else 0

def averageCost (round : K → K) (h : Holding K) (fill price : K) : K :=
  if |h.quantity| + |fill| = 0 then 0
  else round ((|h.quantity| * h.cost + |fill| * price) / (|h.quantity| + |fill|))

/-- The cost after a fill against the holding: kept, cleared or restarted. -/
def reducedCost (h : Holding K) (fill price : K) : K :=
  if |fill| < |h.quantity| then h.cost else if |fill| = |h.quantity| then 0 else price

/-- The holding after a fill and the profit the fill realizes. -/
def applyFill (round : K → K) (h : Holding K) (fill price : K) : Holding K × K :=
  if h.quantity = 0 ∨ 0 < h.quantity * fill then
    (⟨h.quantity + fill, averageCost round h fill price⟩, 0)
  else
    (⟨h.quantity + fill, reducedCost h fill price⟩,
      (price - h.cost) * min |h.quantity| |fill| * signOf h.quantity)

theorem applyFill_quantity (round : K → K) (h : Holding K) (fill price : K) :
    (applyFill round h fill price).1.quantity = h.quantity + fill := by
  unfold applyFill
  split <;> rfl

/-- What a fill creates or destroys: profit plus book change plus cash spent. -/
def imbalance (round : K → K) (h : Holding K) (fill price : K) : K :=
  let after := applyFill round h fill price
  after.2 - (after.1.book - h.book) + fill * price

variable [IsStrictOrderedRing K]

theorem imbalance_open (round : K → K) (h : Holding K) (fill price : K) (flat : h.quantity = 0)
    (fixed : round price = price) : imbalance round h fill price = 0 := by
  by_cases nothing : fill = 0
  · simp [imbalance, applyFill, Holding.book, flat, nothing]
  · have size : |fill| ≠ 0 := abs_ne_zero.mpr nothing
    have average : averageCost round h fill price = price := by
      simp [averageCost, flat, nothing, mul_div_cancel_left₀, fixed]
    simp [imbalance, applyFill, Holding.book, flat, average]

theorem imbalance_reduce (round : K → K) (h : Holding K) (fill price : K) (nonzero : h.quantity ≠ 0)
    (against : ¬ 0 < h.quantity * fill) : imbalance round h fill price = 0 := by
  have closing : ¬ (h.quantity = 0 ∨ 0 < h.quantity * fill) := by tauto
  rcases lt_or_gt_of_ne nonzero with short | long
  · have buys : 0 ≤ fill := by
      by_contra sells
      exact against (mul_pos_of_neg_of_neg short (lt_of_not_ge sells))
    simp only [imbalance, applyFill, if_neg closing, reducedCost, Holding.book, signOf,
      abs_of_neg short, abs_of_nonneg buys, if_neg short.not_gt, if_pos short]
    split_ifs with part whole
    · rw [min_eq_right part.le]; ring
    · rw [whole, min_self]; ring
    · rw [min_eq_left (not_lt.mp part)]; ring
  · have sells : fill ≤ 0 := by
      by_contra buys
      exact against (mul_pos long (lt_of_not_ge buys))
    simp only [imbalance, applyFill, if_neg closing, reducedCost, Holding.book, signOf,
      abs_of_pos long, abs_of_nonpos sells, if_pos long]
    split_ifs with part whole
    · rw [min_eq_right part.le]; ring
    · rw [whole, min_self]; rw [neg_eq_iff_eq_neg.mp whole]; ring
    · rw [min_eq_left (not_lt.mp part)]; ring

/-- An addition loses exactly what rounding moves the average, on the whole
resulting holding. -/
theorem imbalance_add (round : K → K) (h : Holding K) (fill price ε : K)
    (adds : Adds h.quantity fill) (close : ∀ x, |round x - x| ≤ ε) :
    |imbalance round h fill price| ≤ ε * |h.quantity + fill| := by
  obtain ⟨nonzero, same⟩ := adds
  have total : |h.quantity| + |fill| = |h.quantity + fill| := by
    rcases pos_and_pos_or_neg_and_neg_of_mul_pos same with ⟨a, b⟩ | ⟨a, b⟩
    · rw [abs_of_pos a, abs_of_pos b, abs_of_pos (add_pos a b)]
    · rw [abs_of_neg a, abs_of_neg b, abs_of_neg (add_neg a b)]; ring
  have positive : 0 < |h.quantity| + |fill| :=
    add_pos_of_pos_of_nonneg (abs_pos.mpr nonzero) (abs_nonneg fill)
  have exact_average : (h.quantity + fill) *
      ((|h.quantity| * h.cost + |fill| * price) / (|h.quantity| + |fill|)) =
      h.quantity * h.cost + fill * price := by
    rw [mul_div_assoc', div_eq_iff positive.ne']
    rcases pos_and_pos_or_neg_and_neg_of_mul_pos same with ⟨a, b⟩ | ⟨a, b⟩
    · rw [abs_of_pos a, abs_of_pos b]; ring
    · rw [abs_of_neg a, abs_of_neg b]; ring
  have split_error : imbalance round h fill price = -((h.quantity + fill) *
      (round ((|h.quantity| * h.cost + |fill| * price) / (|h.quantity| + |fill|)) -
        (|h.quantity| * h.cost + |fill| * price) / (|h.quantity| + |fill|))) := by
    simp only [imbalance, applyFill, if_pos (Or.inr same), averageCost, if_neg positive.ne',
      Holding.book]
    rw [mul_sub, exact_average]
    ring
  rw [split_error, abs_neg, abs_mul, mul_comm]
  exact mul_le_mul_of_nonneg_right (close _) (abs_nonneg _)

/-- Conservation of one fill, in all four cases. -/
theorem imbalance_bound (round : K → K) (h : Holding K) (fill price ε : K)
    (fixed : round price = price) (close : ∀ x, |round x - x| ≤ ε) :
    |imbalance round h fill price| ≤
      if Adds h.quantity fill then ε * |h.quantity + fill| else 0 := by
  split
  next adds => exact imbalance_add round h fill price ε adds close
  next other =>
    by_cases flat : h.quantity = 0
    · rw [imbalance_open round h fill price flat fixed, abs_zero]
    · have against : ¬ 0 < h.quantity * fill := fun same => other ⟨flat, same⟩
      rw [imbalance_reduce round h fill price flat against, abs_zero]

end AverageCost
