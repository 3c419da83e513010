import CatsPy.CostHistory
import CatsPy.DecimalAccounts
import CatsPy.PaperConservation

/-!
# Entry prices of paper positions

The position of a symbol is the average-cost holding of that symbol's own
fills, whatever happens to the others and however often it is marked. In
twenty-eight digits sizes and averages are rounded at every fill; with prices up
to two times ten to the eighteenth the roundings of an average stay below half a
tick, so the entry price stays between the prices of the fills behind the position.
-/
namespace CatsPy
open PythonValues RoundingGrid DecimalArithmetic StateRuns
open AverageCost (Fill Holding Accounting applyFill applyFills CostWithinEntries)

namespace PaperExecutionService

section Holdings

/-- Quantity and entry price stored of a symbol. -/
def holdingOf (svc : PaperExecutionService) (symbol : String) : Holding ℚ where
  quantity := svc.heldQuantity symbol
  cost := (svc.positionFor symbol 0).entryPrice

variable {svc : PaperExecutionService}

theorem holdingOf_of_get? {symbol : String} {position : PositionState}
    (stored : svc.state.positions.get? (symbol, paperPositionSide) = some position) :
    svc.holdingOf symbol = ⟨position.quantity, position.entryPrice⟩ := by
  simp [holdingOf, heldQuantity, positionFor, OrderedDict.getD, stored]

theorem holdingOf_of_missing {symbol : String}
    (missing : svc.state.positions.get? (symbol, paperPositionSide) = none) :
    svc.holdingOf symbol = ⟨0, 0⟩ := by
  simp [holdingOf, heldQuantity, positionFor, OrderedDict.getD, missing]

theorem holdingOf_eq (svc : PaperExecutionService) (symbol : String) (ts : Datetime) :
    svc.holdingOf symbol =
      ⟨(svc.positionFor symbol ts).quantity, (svc.positionFor symbol ts).entryPrice⟩ := by
  cases found : svc.state.positions.get? (symbol, paperPositionSide) with
  | none => simp [holdingOf_of_missing found, positionFor, OrderedDict.getD, found]
  | some position => simp [holdingOf_of_get? found, positionFor, OrderedDict.getD, found]

theorem holdingOf_congr {after : PaperExecutionService} {symbol : String}
    (same : after.state.positions.get? (symbol, paperPositionSide) =
      svc.state.positions.get? (symbol, paperPositionSide)) :
    after.holdingOf symbol = svc.holdingOf symbol := by
  simp only [holdingOf, heldQuantity, positionFor, OrderedDict.getD, same]

theorem holdingOf_markToMarket (svc : PaperExecutionService) (features : OrderedDict String FeatureVector)
    (cycleId : String) (ts : Datetime) (symbol : String) :
    (svc.markToMarket features cycleId ts).holdingOf symbol = svc.holdingOf symbol := by
  have marked : (svc.markToMarket features cycleId ts).state.positions.get? (symbol, paperPositionSide) =
      (svc.state.positions.get? (symbol, paperPositionSide)).map (markedUnder features ts) := by
    rw [markToMarket_positions, OrderedDict.get?_mapValues]
  cases found : svc.state.positions.get? (symbol, paperPositionSide) with
  | none =>
      rw [found] at marked
      rw [holdingOf_of_missing found, holdingOf_of_missing marked]
  | some position =>
      rw [found] at marked
      rw [holdingOf_of_get? found, holdingOf_of_get? marked]
      rcases markedUnder_cases features ts position with same | ⟨mark, marks⟩
      · rw [same]
      · rw [marks]
        rfl

/-- A fill is one step of average-cost accounting on the holding of its symbol. -/
theorem holdingOf_bookFill (sound : svc.PositionsSound) (decision : TradeDecision) (side : Side)
    (risk : RiskDecision) (price : ℚ) (cycleId : String) (ts : Datetime) (symbol : String) :
    (svc.bookFill decision side risk price cycleId ts).1.holdingOf symbol =
      if decision.symbol = symbol then
        (applyFill quantizeHalfUp (svc.holdingOf symbol) (signedQuantity side risk price) price).1
      else svc.holdingOf symbol := by
  have key := (positionAfter_sound sound decision ts side risk price).1
  have stored (other : String) :=
    OrderedDict.get?_set svc.state.positions (decision.symbol, paperPositionSide) (other, paperPositionSide)
      (positionAfter svc decision ts side risk price)
  split
  next own =>
    subst own
    have written := stored decision.symbol
    rw [if_pos rfl, ← key, ← bookFill_positions svc decision cycleId ts side risk price, key] at written
    rw [holdingOf_of_get? written, holdingOf_eq svc decision.symbol ts]
    simp only [positionAfter, filledPosition, settle_eq_applyFill]
    rw [← AverageCost.applyFill_quantity quantizeHalfUp
      ⟨(svc.positionFor decision.symbol ts).quantity, (svc.positionFor decision.symbol ts).entryPrice⟩]
  next other =>
    apply holdingOf_congr
    rw [bookFill_positions, key, stored, if_neg fun same => other (Prod.mk.inj same).1.symm]

end Holdings

end PaperExecutionService

namespace PaperArithmetic
open PaperExecutionService

section Digits

variable {q f c p : ℚ}

/-- Half a unit of the last of twenty-eight digits, relative to the number. -/
def roundoff : ℚ := 10 ^ (-27 : ℤ) / 2

/-- The prices whose averages are rounded by less than half a tick. -/
def priceRange : ℚ := 2 * 10 ^ 18

/-- A price of eight decimals in the range. -/
def Priced (price : ℚ) : Prop := OnGrid decimalPlaces price ∧ |price| ≤ priceRange

theorem keep_roundoff (grid : OnGrid ((10 : ℚ) ^ (-16 : ℤ)) q) : |decimal.keep q - q| ≤ |q| * roundoff := by
  have error := Context.keep_error (normal_of_onGrid grid)
  have unit : |q| * 10 ^ (1 - defaultContext.precision : ℤ) / 2 = |q| * roundoff := by
    rw [roundoff, mul_div_assoc]
    rfl
  rwa [unit] at error

/-- The exact average of two prices weighted by sizes. -/
def exactAverage (q c f p : ℚ) : ℚ := (|q| * c + |f| * p) / (|q| + |f|)

/-- Notional and size of an addition, each within its roundings. -/
theorem weighted_parts (held : OnGrid decimalPlaces q) (filled : OnGrid decimalPlaces f) (cost : Priced c)
    (price : Priced p) :
    let notional := decimal.keep (decimal.keep (|q| * c) + decimal.keep (|f| * p))
    |notional - (|q| * c + |f| * p)| ≤ 11 / 5 * roundoff * (priceRange * (|q| + |f|)) ∧
      |notional| ≤ 11 / 10 * (priceRange * (|q| + |f|)) ∧
      |decimal.keep (|q| + |f|) - (|q| + |f|)| ≤ roundoff * (|q| + |f|) := by
  have held_notional := product_onGrid held.abs cost.1
  have fill_notional := product_onGrid filled.abs price.1
  have kept : OnGrid ((10 : ℚ) ^ (-16 : ℤ)) (decimal.keep (|q| * c) + decimal.keep (|f| * p)) :=
    OnGrid.add (Context.keep_onGrid held_notional) (Context.keep_onGrid fill_notional)
  have first := keep_roundoff held_notional
  have second := keep_roundoff fill_notional
  have sum := keep_roundoff kept
  have sizes := keep_roundoff (coarser_onGrid (held.abs.add filled.abs))
  have held_size : |(|q| * c)| ≤ priceRange * |q| := by
    rw [abs_mul, abs_abs, mul_comm]
    exact mul_le_mul_of_nonneg_right cost.2 (abs_nonneg q)
  have fill_size : |(|f| * p)| ≤ priceRange * |f| := by
    rw [abs_mul, abs_abs, mul_comm]
    exact mul_le_mul_of_nonneg_right price.2 (abs_nonneg f)
  rw [abs_of_nonneg (add_nonneg (abs_nonneg q) (abs_nonneg f)), mul_comm] at sizes
  dsimp only
  generalize decimal.keep (|q| * c) = x at *
  generalize decimal.keep (|f| * p) = y at *
  generalize decimal.keep (x + y) = notional at *
  rw [roundoff] at *
  have parts : |x + y - (|q| * c + |f| * p)| ≤ priceRange * (|q| + |f|) * (10 ^ (-27 : ℤ) / 2) := by
    have apart := abs_add_le (x - |q| * c) (y - |f| * p)
    rw [show x - |q| * c + (y - |f| * p) = x + y - (|q| * c + |f| * p) by ring] at apart
    linarith
  have size : |x + y| ≤ priceRange * (|q| + |f|) * (1 + 10 ^ (-27 : ℤ) / 2) := by
    have apart := abs_add_le (x + y - (|q| * c + |f| * p)) (|q| * c + |f| * p)
    have exact_size := abs_add_le (|q| * c) (|f| * p)
    rw [sub_add_cancel] at apart
    linarith
  have total : 0 ≤ priceRange * (|q| + |f|) :=
    mul_nonneg (by norm_num [priceRange]) (add_nonneg (abs_nonneg q) (abs_nonneg f))
  norm_num at *
  refine ⟨?_, ?_, sizes⟩
  · have apart := abs_sub_le notional (x + y) (|q| * c + |f| * p)
    linarith
  · have apart := abs_add_le (notional - (x + y)) (x + y)
    rw [sub_add_cancel] at apart
    linarith

theorem notional_le (cost : Priced c) (price : Priced p) : |(|q| * c + |f| * p)| ≤ priceRange * (|q| + |f|) := by
  have held := mul_le_mul_of_nonneg_left cost.2 (abs_nonneg q)
  have filled := mul_le_mul_of_nonneg_left price.2 (abs_nonneg f)
  have sum := abs_add_le (|q| * c) (|f| * p)
  rw [abs_mul, abs_mul, abs_abs, abs_abs] at sum
  linarith

/-- Five roundings move an average in the range by less than half a tick. -/
theorem averagePrice_near (held : OnGrid decimalPlaces q) (filled : OnGrid decimalPlaces f) (cost : Priced c)
    (price : Priced p) (sized : |q| + |f| ≠ 0) :
    |decimal.averagePrice q c f p - exactAverage q c f p| < decimalPlaces / 2 := by
  obtain ⟨apart, size, sizes⟩ := weighted_parts held filled cost price
  have whole := notional_le (q := q) (f := f) cost price
  have total := AverageCost.sizes_pos sized
  rw [averagePrice, exactAverage]
  generalize decimal.keep (decimal.keep (|q| * c) + decimal.keep (|f| * p)) = notional at *
  generalize |q| * c + |f| * p = exact_notional at *
  generalize decimal.keep (|q| + |f|) = kept at *
  generalize |q| + |f| = exact_size at *
  have shrunk : exact_size ≤ 21 / 20 * kept := by
    have low := (abs_le.mp sizes).1
    norm_num [roundoff] at low
    linarith
  have positive : 0 < kept := by linarith
  -- The quotient is off by the error of its numerator and the one of its divisor.
  have split_error : notional / kept - exact_notional / exact_size =
      (notional - exact_notional) / kept + exact_notional / exact_size * ((exact_size - kept) / kept) := by
    field_simp
    ring
  have numerator : |(notional - exact_notional) / kept| ≤ 231 / 100 * roundoff * priceRange := by
    rw [abs_div, abs_of_pos positive, div_le_iff₀ positive]
    norm_num [roundoff, priceRange] at apart ⊢
    linarith
  have quotient : |exact_notional / exact_size| ≤ priceRange := by
    rwa [abs_div, abs_of_pos total, div_le_iff₀ total]
  have divisor : |(exact_size - kept) / kept| ≤ 21 / 20 * roundoff := by
    rw [abs_div, abs_of_pos positive, div_le_iff₀ positive, abs_sub_comm]
    norm_num [roundoff] at sizes ⊢
    linarith
  have product := mul_le_mul quotient divisor (abs_nonneg _) (by norm_num [priceRange])
  rw [← abs_mul] at product
  have ratio : |notional / kept| ≤ 6 / 5 * priceRange := by
    rw [abs_div, abs_of_pos positive, div_le_iff₀ positive]
    norm_num [priceRange] at size ⊢
    linarith
  have last : |decimal.keep (notional / kept) - notional / kept| ≤
      |notional / kept| * 10 ^ (1 - defaultContext.precision : ℤ) / 2 + 10 ^ defaultContext.etiny / 2 :=
    Context.keep_error_any _
  have least : (10 : ℚ) ^ defaultContext.etiny ≤ 10 ^ (-20 : ℤ) := Context.power_mono (by decide)
  have digits : (1 - defaultContext.precision : ℤ) = -27 := by decide
  have away := abs_sub_le (decimal.keep (notional / kept)) (notional / kept) (exact_notional / exact_size)
  have moved := abs_add_le ((notional - exact_notional) / kept)
    (exact_notional / exact_size * ((exact_size - kept) / kept))
  rw [split_error] at away
  rw [digits] at last
  generalize (10 : ℚ) ^ defaultContext.etiny = tiny at *
  norm_num [roundoff, priceRange, decimalPlaces] at *
  linarith

end Digits

section Accounts

/-- Sizes and averages of the paper account. -/
def decimalAccounting : Accounting ℚ where
  add q f := decimal.keep (q + f)
  average h fill price := if decimal.keep (|h.quantity| + |fill|) = 0 then 0
    else quantizeHalfUp (decimal.averagePrice h.quantity h.cost fill price)

variable {h : Holding ℚ} {fill price : ℚ}

theorem sizes_ne_zero_iff (held : OnGrid decimalPlaces h.quantity) (filled : OnGrid decimalPlaces fill) :
    decimal.keep (|h.quantity| + |fill|) ≠ 0 ↔ |h.quantity| + |fill| ≠ 0 := by
  have grid := coarser_onGrid (held.abs.add filled.abs)
  rw [ne_iff_lt_or_gt, ne_iff_lt_or_gt, keep_neg_iff grid]
  exact or_congr_right (keep_pos_iff grid)

theorem average_lower (held : OnGrid decimalPlaces h.quantity) (filled : OnGrid decimalPlaces fill)
    (cost : Priced h.cost) (priced : Priced price) (sized : |h.quantity| + |fill| ≠ 0) (bound : ℚ)
    (point : OnGrid decimalPlaces bound) (above : h.quantity ≠ 0 → bound ≤ h.cost) (below : bound ≤ price) :
    bound ≤ decimalAccounting.average h fill price := by
  have near := (abs_lt.mp (averagePrice_near held filled cost priced sized)).1
  have held_part := AverageCost.weighted_le (abs_nonneg h.quantity) fun some => above (abs_ne_zero.mp some)
  have fill_part := mul_le_mul_of_nonneg_left below (abs_nonneg fill)
  have inside : bound ≤ exactAverage h.quantity h.cost fill price := by
    rw [exactAverage, le_div_iff₀ (AverageCost.sizes_pos sized)]
    linarith
  refine le_of_le_of_eq ?_ (if_neg ((sizes_ne_zero_iff held filled).mpr sized)).symm
  exact le_quantize_of_near halfUp_nearest decimalPlaces_pos point (by linarith)

theorem average_upper (held : OnGrid decimalPlaces h.quantity) (filled : OnGrid decimalPlaces fill)
    (cost : Priced h.cost) (priced : Priced price) (sized : |h.quantity| + |fill| ≠ 0) (bound : ℚ)
    (point : OnGrid decimalPlaces bound) (below : h.quantity ≠ 0 → h.cost ≤ bound) (above : price ≤ bound) :
    decimalAccounting.average h fill price ≤ bound := by
  have near := (abs_lt.mp (averagePrice_near held filled cost priced sized)).2
  have held_part := AverageCost.weighted_le (abs_nonneg h.quantity) fun some => below (abs_ne_zero.mp some)
  have fill_part := mul_le_mul_of_nonneg_left above (abs_nonneg fill)
  have inside : exactAverage h.quantity h.cost fill price ≤ bound := by
    rw [exactAverage, div_le_iff₀ (AverageCost.sizes_pos sized)]
    linarith
  refine le_of_eq_of_le (if_neg ((sizes_ne_zero_iff held filled).mpr sized)) ?_
  exact quantize_le_of_near halfUp_nearest decimalPlaces_pos point (by linarith)

theorem average_priced (held : OnGrid decimalPlaces h.quantity) (filled : OnGrid decimalPlaces fill)
    (cost : Priced h.cost) (priced : Priced price) : Priced (decimalAccounting.average h fill price) := by
  by_cases nothing : decimal.keep (|h.quantity| + |fill|) = 0
  · have zero : decimalAccounting.average h fill price = 0 := if_pos nothing
    rw [zero]
    exact ⟨onGrid_zero _, by norm_num [priceRange]⟩
  · have sized := (sizes_ne_zero_iff held filled).mp nothing
    have grid : OnGrid decimalPlaces (decimalAccounting.average h fill price) := by
      rw [show decimalAccounting.average h fill price = _ from if_neg nothing]
      exact quantize_onGrid _ _ _
    have limit : OnGrid decimalPlaces priceRange := ⟨2 * 10 ^ 26, by norm_num [priceRange, decimalPlaces]⟩
    refine ⟨grid, abs_le.mpr ⟨?_, ?_⟩⟩
    · exact average_lower held filled cost priced sized _ limit.neg (fun _ => (abs_le.mp cost.2).1)
        (abs_le.mp priced.2).1
    · exact average_upper held filled cost priced sized _ limit (fun _ => (abs_le.mp cost.2).2)
        (abs_le.mp priced.2).2

theorem decimalAccounting_sound : decimalAccounting.Sound (OnGrid decimalPlaces) Priced where
  zero := ⟨onGrid_zero _, onGrid_zero _, by norm_num [priceRange]⟩
  add held filled := keep_onGrid (held.add filled)
  positive held filled := keep_pos_iff (coarser_onGrid (held.add filled))
  negative held filled := keep_neg_iff (coarser_onGrid (held.add filled))
  average := average_priced
  lower held filled cost priced sized bound point := average_lower held filled cost priced sized bound point.1
  upper held filled cost priced sized bound point := average_upper held filled cost priced sized bound point.1

end Accounts

section Runs

/-- What one operation fills of a symbol, whether or not the wallet fits afterwards. -/
def fillsIn (symbol : String) (svc : PaperExecutionService) : PaperOp → List (Fill ℚ)
  | .applyDecision decision feature _ ts =>
      if decision.symbol = symbol then
        ((decimal.orderFigures svc decision feature ts).map fun figures =>
          (⟨figures.signedFillQuantity, figures.fillPrice⟩ : Fill ℚ)).toList
      else []
  | _ => []

/-- The fills of a symbol over a run. -/
abbrev symbolFills (svc : PaperExecutionService) (symbol : String) (ops : List PaperOp) : List (Fill ℚ) :=
  trace decimal.step (fillsIn symbol) svc ops

variable {svc : PaperExecutionService}

/-- The figures of a fill are one step of the account on the holding of its symbol. -/
theorem figures_eq_apply (svc : PaperExecutionService) (position : PositionState) (side : Side) (risk : RiskDecision)
    (price : ℚ) (held : OnGrid decimalPlaces position.quantity) :
    let figures := figures svc position side risk price
    OnGrid decimalPlaces figures.signedFillQuantity ∧ OnGrid decimalPlaces figures.fillPrice ∧
      (⟨figures.newQuantity, figures.newEntryPrice⟩ : Holding ℚ) =
        decimalAccounting.apply ⟨position.quantity, position.entryPrice⟩ figures.signedFillQuantity
          figures.fillPrice := by
  have signed : OnGrid decimalPlaces (figures svc position side risk price).signedFillQuantity := by
    simp only [figures]
    split
    · exact quantize_onGrid _ _ _
    · exact (quantize_onGrid _ _ _).neg
  refine ⟨signed, quantize_onGrid _ _ _, ?_⟩
  have adds := keep_pos_iff (product_onGrid held signed)
  have entry : (figures svc position side risk price).newEntryPrice = (settled position.quantity
      position.entryPrice (figures svc position side risk price).signedFillQuantity
      (figures svc position side risk price).fillPrice).1 := rfl
  have quantity : (figures svc position side risk price).newQuantity =
      decimal.keep (position.quantity + (figures svc position side risk price).signedFillQuantity) := rfl
  rw [entry, quantity]
  unfold settled reduced Accounting.apply decimalAccounting AverageCost.reducedCost
  dsimp only
  simp only [adds]
  congr 1
  split_ifs <;> rfl

/-- Every stored size has eight decimals. -/
def SizesOnGrid (svc : PaperExecutionService) : Prop := ∀ symbol, OnGrid decimalPlaces (svc.holdingOf symbol).quantity

theorem SameHoldings.holdingOf {before after : PaperExecutionService} (same : SameHoldings before after)
    (symbol : String) : after.holdingOf symbol = before.holdingOf symbol := by
  have alike := same (symbol, paperPositionSide)
  cases found : before.state.positions.get? (symbol, paperPositionSide) with
  | none =>
      rw [found, Option.map_none, Option.map_eq_none_iff] at alike
      rw [holdingOf_of_missing found, holdingOf_of_missing alike]
  | some position =>
      rw [found, Option.map_some, Option.map_eq_some_iff] at alike
      obtain ⟨other, stored, holding⟩ := alike
      have quantity : other.quantity = position.quantity := congrArg (fun holding => holding.2.1) holding
      have entry : other.entryPrice = position.entryPrice := congrArg (fun holding => holding.2.2) holding
      rw [holdingOf_of_get? found, holdingOf_of_get? stored, quantity, entry]

/-- A fill moves the holding of its symbol and no other. -/
theorem holdingOf_written {after : PaperExecutionService} {decision : TradeDecision} {figures : FillFigures}
    {risk : RiskDecision} {ts : Datetime} (filed : PositionsFiled svc)
    (written : after.state.positions = svc.state.positions.set
      (decimal.writtenPosition svc decision.symbol figures risk ts).key
      (decimal.writtenPosition svc decision.symbol figures risk ts)) (symbol : String) :
    after.holdingOf symbol = if decision.symbol = symbol then ⟨figures.newQuantity, figures.newEntryPrice⟩
      else svc.holdingOf symbol := by
  have own : (decimal.writtenPosition svc decision.symbol figures risk ts).key =
      (decision.symbol, paperPositionSide) := positionFor_filed filed decision.symbol ts
  have stored := OrderedDict.get?_set svc.state.positions (decision.symbol, paperPositionSide)
    (symbol, paperPositionSide) (decimal.writtenPosition svc decision.symbol figures risk ts)
  rw [← own, ← written, own] at stored
  split
  next same =>
    subst same
    rw [if_pos rfl] at stored
    rw [holdingOf_of_get? stored]
    rfl
  next other =>
    rw [if_neg fun same => other (Prod.mk.inj same).1.symm] at stored
    exact holdingOf_congr stored

/-- Every operation moves the holding of a symbol by the fills it makes of it. -/
theorem holdingOf_step (symbol : String) (svc : PaperExecutionService) (op : PaperOp)
    (kept : PositionsFiled svc ∧ SizesOnGrid svc) : (decimal.step svc op).holdingOf symbol =
      applyFills decimalAccounting (svc.holdingOf symbol) (fillsIn symbol svc op) := by
  obtain ⟨filed, sizes⟩ := kept
  cases op with
  | accountState now => rfl
  | markToMarket features cycleId ts => exact (markToMarket_holdings decimal svc features ts).holdingOf symbol
  | applyDecision decision feature cycleId ts =>
      rcases applyDecision_cases decimal svc decision feature ts with
        ⟨unfilled, same⟩ | ⟨side, risk, figures, filled, worked, written⟩
      · simp only [step, operate, same, fillsIn, unfilled]
        split <;> rfl
      · obtain ⟨-, rfl⟩ := (fillFigures_eq_ok_iff figures).mp worked
        have held := sizes decision.symbol
        rw [holdingOf_eq svc decision.symbol ts] at held
        have applied := (figures_eq_apply svc (svc.positionFor decision.symbol ts) side risk
          feature.referencePrice held).2.2
        rw [step, operate, holdingOf_written filed written, fillsIn, filled]
        split
        next same =>
          subst same
          rw [applied, holdingOf_eq svc decision.symbol ts]
          rfl
        next other => rfl

/-- Every fill is of a size and at a price of eight decimals. -/
theorem fillsIn_onGrid (symbol : String) (svc : PaperExecutionService) (op : PaperOp)
    (kept : PositionsFiled svc ∧ SizesOnGrid svc) :
    ∀ fill ∈ fillsIn symbol svc op, OnGrid decimalPlaces fill.quantity ∧ OnGrid decimalPlaces fill.price := by
  intro fill listed
  cases op with
  | accountState now => cases listed
  | markToMarket features cycleId ts => cases listed
  | applyDecision decision feature cycleId ts =>
      rcases applyDecision_cases decimal svc decision feature ts with
        ⟨unfilled, -⟩ | ⟨side, risk, figures, filled, worked, -⟩
      · simp [fillsIn, unfilled] at listed
      · obtain ⟨-, rfl⟩ := (fillFigures_eq_ok_iff figures).mp worked
        have held := kept.2 decision.symbol
        rw [holdingOf_eq svc decision.symbol ts] at held
        obtain ⟨size, price, -⟩ := figures_eq_apply svc (svc.positionFor decision.symbol ts) side risk
          feature.referencePrice held
        rw [fillsIn, filled] at listed
        split at listed
        · rw [Option.map_some, Option.toList_some, List.mem_singleton] at listed
          rw [listed]
          exact ⟨size, price⟩
        · cases listed

theorem step_sizes (svc : PaperExecutionService) (op : PaperOp) (kept : PositionsFiled svc ∧ SizesOnGrid svc) :
    PositionsFiled (decimal.step svc op) ∧ SizesOnGrid (decimal.step svc op) := by
  refine ⟨step_filed svc op kept.1, fun symbol => ?_⟩
  have moved (h : Holding ℚ) (held : OnGrid decimalPlaces h.quantity) (fills : List (Fill ℚ))
      (filled : ∀ fill ∈ fills, OnGrid decimalPlaces fill.quantity) :
      OnGrid decimalPlaces (applyFills decimalAccounting h fills).quantity := by
    induction fills generalizing h with
    | nil => exact held
    | cons fill rest ih =>
        exact ih _ (keep_onGrid (held.add (filled fill List.mem_cons_self)))
          fun other listed => filled other (List.mem_cons_of_mem _ listed)
  rw [holdingOf_step symbol svc op kept]
  exact moved _ (kept.2 symbol) _ fun fill listed => (fillsIn_onGrid symbol svc op kept fill listed).1

theorem init_sizes (config : PaperConfig) : PositionsFiled (init config) ∧ SizesOnGrid (init config) := by
  refine ⟨init_filed config, fun symbol => ?_⟩
  rw [holdingOf_of_missing (by simp [init, AccountState.upsertBalance])]
  exact onGrid_zero _

theorem holdingOf_run (config : PaperConfig) (ops : List PaperOp) (symbol : String) :
    (decimal.run (init config) ops).holdingOf symbol =
      applyFills decimalAccounting ⟨0, 0⟩ (symbolFills (init config) symbol ops) := by
  have nothing : (init config).holdingOf symbol = ⟨0, 0⟩ :=
    holdingOf_of_missing (by simp [init, AccountState.upsertBalance])
  rw [← nothing]
  exact run_view decimal.step (fillsIn symbol) (holdingOf · symbol)
    (fun h fill => decimalAccounting.apply h fill.quantity fill.price)
    (fun svc => PositionsFiled svc ∧ SizesOnGrid svc) step_sizes (holdingOf_step symbol) (init config) ops
    (init_sizes config)

theorem symbolFills_onGrid (config : PaperConfig) (symbol : String) (ops : List PaperOp) :
    ∀ fill ∈ symbolFills (init config) symbol ops,
      OnGrid decimalPlaces fill.quantity ∧ OnGrid decimalPlaces fill.price := by
  have always : Along decimal.step (fun _ _ => True) (init config) ops :=
    along_of_forall decimal.step (fun _ _ => trivial) (init config)
  exact trace_forall decimal.step (fillsIn symbol) (fun svc => PositionsFiled svc ∧ SizesOnGrid svc)
    (fun _ _ => True) _ (fun svc op _ => step_sizes svc op) (fun svc op _ => fillsIn_onGrid symbol svc op)
    (init config) ops (init_sizes config) always

/-- In every reachable state the entry price of an open position lies between the
lowest and the highest price of the fills that opened it or added to it since it
took its side, as long as the prices are in the range. -/
theorem entry_within_fills (config : PaperConfig) (ops : List PaperOp) (key : String × String)
    (position : PositionState)
    (stored : (decimal.run (init config) ops).state.positions.get? key = some position)
    (opened : position.isOpen = true)
    (range : ∀ fill ∈ symbolFills (init config) position.symbol ops, |fill.price| ≤ priceRange) :
    CostWithinEntries decimalAccounting (symbolFills (init config) position.symbol ops) position.entryPrice := by
  obtain ⟨own, side⟩ := run_filed config ops key position stored
  have same_key : key = (position.symbol, paperPositionSide) := by rw [← own, PositionState.key, side]
  rw [same_key] at stored
  have holding := holdingOf_run config ops position.symbol
  rw [holdingOf_of_get? stored] at holding
  have quantity : position.quantity = AverageCost.netQuantity decimalAccounting
      (symbolFills (init config) position.symbol ops) :=
    (congrArg Holding.quantity holding).trans (AverageCost.applyFills_quantity decimalAccounting _)
  have cost : position.entryPrice =
      (applyFills decimalAccounting ⟨0, 0⟩ (symbolFills (init config) position.symbol ops)).cost :=
    congrArg Holding.cost holding
  have filled : ∀ fill ∈ symbolFills (init config) position.symbol ops,
      OnGrid decimalPlaces fill.quantity ∧ Priced fill.price := by
    intro fill listed
    obtain ⟨size, price⟩ := symbolFills_onGrid config position.symbol ops fill listed
    exact ⟨size, price, range fill listed⟩
  rw [cost]
  apply AverageCost.costWithinEntries decimalAccounting_sound filled
  rw [← quantity]
  simpa [PositionState.isOpen] using opened

/-- A short turned into a long, which is added to at another price and cut back. -/
def turnedAndScaled : List PaperOp :=
  [.applyDecision (marketOrder .sell 1000) (quoted 120) "open" 0,
    .applyDecision (marketOrder .buy 2000) (quoted 101) "turn" 60000000,
    .markToMarket (.ofList [("BTCUSDT", quoted 104)]) "mark" 120000000,
    .applyDecision (marketOrder .buy 700) (quoted 103) "add" 180000000,
    .applyDecision (marketOrder .sell 300) (quoted 99) "cut" 240000000]

theorem entry_within_fills_scaled : ∃ position,
    (decimal.run (init {}) turnedAndScaled).state.positions.get? ("BTCUSDT", paperPositionSide) = some position ∧
      (symbolFills (init {}) position.symbol turnedAndScaled).length = 4 ∧
      CostWithinEntries decimalAccounting (symbolFills (init {}) position.symbol turnedAndScaled)
        position.entryPrice := by
  have held : ((decimal.run (init {}) turnedAndScaled).state.positions.get? ("BTCUSDT", paperPositionSide)).any
      (fun position => position.isOpen ∧
        (symbolFills (init {}) position.symbol turnedAndScaled).length = 4 ∧
        ∀ fill ∈ symbolFills (init {}) position.symbol turnedAndScaled, |fill.price| ≤ priceRange) = true := by
    decide +kernel
  obtain ⟨position, stored, holds⟩ := (Option.any_eq_true _ _).mp held
  obtain ⟨opened, count, range⟩ := of_decide_eq_true holds
  exact ⟨position, stored, count, entry_within_fills {} turnedAndScaled _ position stored opened range⟩

/-- One order beyond the range, at a price of seventeen digits. -/
def farOrder : List PaperOp :=
  [.applyDecision (marketOrder .buy 10172267799138642000) (quoted 10222554057294475000) "open" 0]

/-- The entry price of its position is one tick below its only fill. -/
theorem entry_below_only_fill : ∃ position,
    (decimal.run (init {}) farOrder).state.positions.get? ("BTCUSDT", paperPositionSide) = some position ∧
      position.isOpen = true ∧
      (symbolFills (init {}) position.symbol farOrder).map Fill.price = [position.entryPrice + decimalPlaces] ∧
      ¬ CostWithinEntries decimalAccounting (symbolFills (init {}) position.symbol farOrder)
        position.entryPrice := by
  have held : ((decimal.run (init {}) farOrder).state.positions.get? ("BTCUSDT", paperPositionSide)).any
      (fun position => position.isOpen ∧
        (symbolFills (init {}) position.symbol farOrder).map Fill.price =
          [position.entryPrice + decimalPlaces]) = true := by
    decide +kernel
  obtain ⟨position, stored, holds⟩ := (Option.any_eq_true _ _).mp held
  obtain ⟨opened, prices⟩ := of_decide_eq_true holds
  refine ⟨position, stored, opened, prices, ?_⟩
  rintro ⟨earlier, opening, later, shape, -, low, high, ⟨low_mem, -⟩, -, inside, -⟩
  -- The only price listed is the one of the fill.
  have above : ∀ price ∈ AverageCost.entryPrices (AverageCost.netQuantity decimalAccounting
      (symbolFills (init {}) position.symbol farOrder)) opening later, price = position.entryPrice + decimalPlaces := by
    intro price listed
    have source : price ∈ (symbolFills (init {}) position.symbol farOrder).map Fill.price := by
      rcases List.mem_cons.mp listed with rfl | added
      · exact List.mem_map.mpr ⟨opening, by simp [shape], rfl⟩
      · obtain ⟨fill, member, rfl⟩ := List.mem_map.mp added
        exact List.mem_map.mpr ⟨fill, by simp [shape, List.mem_of_mem_filter member], rfl⟩
    rw [prices, List.mem_singleton] at source
    exact source
  have lowest := above low low_mem
  have tick := decimalPlaces_pos
  linarith

end Runs

end PaperArithmetic

end CatsPy
