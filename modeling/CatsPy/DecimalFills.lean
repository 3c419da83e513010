import CatsPy.PaperDecimals

/-!
# Fills in decimals

The figures of a fill when none of its numbers is refused, and the bounds on them
under which none is. An order the price guard admits is filled near its quote
exactly within those bounds, at a price worth half a tick, and where the rounding
to twenty-eight digits crosses no tie.
-/
namespace CatsPy
open PythonValues RoundingGrid DecimalArithmetic StateRuns

namespace PaperArithmetic
open PaperExecutionService

section Digits

/-- Rounded to eight places the value has no more than twenty-eight digits. -/
def Fits (q : ℚ) : Prop := |q| < 10 ^ 20 - decimalPlaces / 2

instance (q : ℚ) : Decidable (Fits q) := by unfold Fits; infer_instance

theorem decimalPlaces_eq : decimalPlaces = 10 ^ (-8 : ℤ) := by norm_num [decimalPlaces]

theorem onGrid_iff {q : ℚ} : OnGrid decimalPlaces q ↔ OnGrid ((10 : ℚ) ^ (-8 : ℤ)) q := by rw [decimalPlaces_eq]

theorem keep_onGrid {q : ℚ} (grid : OnGrid decimalPlaces q) : OnGrid decimalPlaces (decimal.keep q) :=
  onGrid_iff.mpr (Context.keep_onGrid (onGrid_iff.mp grid))

/-- Products of two numbers of eight decimals. -/
theorem product_onGrid {q c : ℚ} (left : OnGrid decimalPlaces q) (right : OnGrid decimalPlaces c) :
    OnGrid ((10 : ℚ) ^ (-16 : ℤ)) (q * c) := (left.mul right).refine ⟨1, by norm_num [decimalPlaces]⟩

theorem coarser_onGrid {q : ℚ} (grid : OnGrid decimalPlaces q) : OnGrid ((10 : ℚ) ^ (-16 : ℤ)) q :=
  grid.refine ⟨10 ^ 8, by norm_num [decimalPlaces]⟩

/-- Nothing that ends within sixteen decimals is lost in the range of the context. -/
theorem normal_of_onGrid {q : ℚ} (grid : OnGrid ((10 : ℚ) ^ (-16 : ℤ)) q) :
    q = 0 ∨ 10 ^ defaultContext.emin ≤ |q| := by
  refine or_iff_not_imp_left.mpr fun some => (Context.power_mono (show defaultContext.emin ≤ -16 by decide)).trans ?_
  by_contra below
  exact some (grid.eq_zero_of_small (Context.unit_pos _) (not_le.mp below))

theorem keep_pos_iff {q : ℚ} (grid : OnGrid ((10 : ℚ) ^ (-16 : ℤ)) q) : 0 < decimal.keep q ↔ 0 < q := by
  constructor
  · intro kept
    by_contra nonpos
    exact kept.not_ge (Context.keep_respects.upper Context.holds_zero (not_lt.mp nonpos))
  · intro positive
    rcases normal_of_onGrid grid with zero | normal
    · exact absurd zero positive.ne'
    · rw [abs_of_pos positive] at normal
      exact Context.keep_pos normal

theorem keep_neg_iff {q : ℚ} (grid : OnGrid ((10 : ℚ) ^ (-16 : ℤ)) q) : decimal.keep q < 0 ↔ q < 0 := by
  have mirrored := keep_pos_iff grid.neg
  have turned : decimal.keep (-q) = -decimal.keep q := Context.keep_neg q
  rwa [turned, neg_pos, neg_pos] at mirrored

theorem fits_bound : (10 : ℚ) ^ 20 - decimalPlaces / 2 =
    10 ^ (20 : ℤ) - 10 ^ (20 - defaultContext.precision : ℤ) / 2 := by
  norm_num [decimalPlaces, defaultContext]

@[simp] theorem fits_keep_iff (q : ℚ) : Fits (decimal.keep q) ↔ Fits q := by
  rw [Fits, Fits, fits_bound]
  exact Context.keep_short_iff (by decide)

/-- The rounders of the paper account treat both signs alike and reach the first
number that does not fit from half a tick below. -/
structure Rounds (round : ℚ → ℤ) : Prop where
  nearest : Nearest round
  odd : ∀ x, round (-x) = -round x
  reaches : ∀ x, 10 ^ 28 ≤ round x ↔ ((10 ^ 28 : ℤ) : ℚ) - 1 / 2 ≤ x

theorem halfUp_rounds : Rounds halfUp := ⟨halfUp_nearest, halfUp_neg, le_halfUp_iff (by norm_num)⟩

theorem halfEven_rounds : Rounds halfEven :=
  ⟨halfEven_nearest, halfEven_neg, le_halfEven_iff_of_even (by decide)⟩

theorem Rounds.fits_iff {round : ℚ → ℤ} (rounds : Rounds round) (q : ℚ) :
    Fits q ↔ ¬ 10 ^ 20 ≤ |quantize round decimalPlaces q| := by
  have reached := le_abs_quantize_iff rounds.nearest rounds.odd rounds.reaches decimalPlaces_pos q
  have power : ((10 ^ 28 : ℤ) : ℚ) * decimalPlaces = 10 ^ 20 := by norm_num [decimalPlaces]
  rw [power] at reached
  rw [reached, not_le, Fits]

/-- A number is refused exactly if it does not fit. -/
theorem Rounds.quantized {round : ℚ → ℤ} (rounds : Rounds round) (q : ℚ) :
    decimal.quantized round q = if Fits q then .ok (quantize round decimalPlaces q)
      else .error ⟨.invalidOperation, "[<class 'decimal.InvalidOperation'>]"⟩ := by
  have large : decimal.limit.any (· ≤ |quantize round decimalPlaces q|) = true ↔ ¬ Fits q := by
    rw [rounds.fits_iff, not_not, decimal, Option.any_some, decide_eq_true_iff]
  rw [PaperArithmetic.quantized]
  by_cases fits : Fits q
  · rw [if_neg (large.not.mpr (not_not.mpr fits)), if_pos fits]
  · rw [if_pos (large.mpr fits), if_neg fits]

/-- It is `quantize` of the context. -/
theorem quantizeTo_returns_iff {round : ℚ → ℤ} (rounds : Rounds round) (q : ℚ) :
    (∃ r, defaultContext.quantizeTo round (-8) q = .ok r) ↔ ∃ r, decimal.quantized round q = .ok r := by
  have limit : (10 : ℚ) ^ (defaultContext.precision + -8 : ℤ) = 10 ^ 20 := by norm_num [defaultContext]
  rw [rounds.quantized, Context.quantizeTo, limit, ← decimalPlaces_eq]
  by_cases fits : Fits q
  · rw [if_neg ((rounds.fits_iff q).mp fits), if_pos fits]
    simp
  · rw [if_pos (not_not.mp (fun within => fits ((rounds.fits_iff q).mpr within))), if_neg fits]
    simp

theorem Rounds.quantized_eq_ok_iff {round : ℚ → ℤ} (rounds : Rounds round) (q r : ℚ) :
    decimal.quantized round q = .ok r ↔ Fits q ∧ r = quantize round decimalPlaces q := by
  rw [rounds.quantized]
  by_cases fits : Fits q <;> simp [fits, eq_comm]

end Digits

section Figures

variable (svc : PaperExecutionService) (position : PositionState) (side : Side) (risk : RiskDecision)
  (referencePrice : ℚ)

/-- The slipped price in twenty-eight digits. -/
def slipped : ℚ := decimal.keep (referencePrice * decimal.slippageMultiplier svc.slippageBps side)

/-- The notional and the size the average price of an addition is their quotient of. -/
def weighted (oldQuantity oldEntryPrice fillQuantity fillPrice : ℚ) : ℚ :=
  decimal.keep (decimal.keep (|oldQuantity| * oldEntryPrice) + decimal.keep (|fillQuantity| * fillPrice)) /
    decimal.keep (|oldQuantity| + |fillQuantity|)

/-- What a fill settles if the average price fits. -/
def settled (oldQuantity oldEntryPrice signedFillQuantity fillPrice : ℚ) : ℚ × ℚ :=
  if oldQuantity = 0 ∨ 0 < decimal.keep (oldQuantity * signedFillQuantity) then
    (if decimal.keep (|oldQuantity| + |signedFillQuantity|) = 0 then 0 else
      quantizeHalfUp (decimal.averagePrice oldQuantity oldEntryPrice signedFillQuantity fillPrice), 0)
  else decimal.reduced oldQuantity oldEntryPrice signedFillQuantity fillPrice

/-- The figures of a fill with nothing refused. -/
def figures : FillFigures :=
  let fillPrice := quantizeHalfUp (slipped svc side referencePrice)
  let fillQuantity := quantizeHalfEven (decimal.keep (risk.approvedNotional / fillPrice))
  let signedFillQuantity := if side = .buy then fillQuantity else -fillQuantity
  let turnoverDelta := |decimal.keep (fillQuantity * fillPrice)|
  let result := settled position.quantity position.entryPrice signedFillQuantity fillPrice
  { fillPrice, fillQuantity, signedFillQuantity, turnoverDelta
    feeDelta := quantizeHalfUp (decimal.keep (decimal.keep (turnoverDelta * svc.takerFeeBps) / 10000))
    newQuantity := decimal.keep (position.quantity + signedFillQuantity)
    newEntryPrice := result.1, realizedDelta := result.2 }

/-- The bounds on what a fill works out before it writes anything: a price that is
not zero, and price, size, fee and, of an addition, the average price in
twenty-eight digits. -/
@[mk_iff] structure FillFits : Prop where
  nonzero : decimalPlaces / 2 ≤ |slipped svc side referencePrice|
  price : Fits (slipped svc side referencePrice)
  quantity : Fits (risk.approvedNotional / quantizeHalfUp (slipped svc side referencePrice))
  fee : Fits (decimal.keep ((figures svc position side risk referencePrice).turnoverDelta * svc.takerFeeBps) /
    10000)
  entry : position.quantity = 0 ∨
      0 < decimal.keep (position.quantity * (figures svc position side risk referencePrice).signedFillQuantity) →
    Fits (weighted position.quantity position.entryPrice
      (figures svc position side risk referencePrice).signedFillQuantity
      (figures svc position side risk referencePrice).fillPrice)

variable {svc position side risk referencePrice}

theorem quantizeHalfUp_eq_zero_iff (q : ℚ) : quantizeHalfUp q = 0 ↔ |q| < decimalPlaces / 2 := by
  have positive (x : ℚ) : 0 < quantizeHalfUp x ↔ decimalPlaces / 2 ≤ x := quantize_halfUp_pos_iff decimalPlaces_pos x
  have mirrored : quantizeHalfUp (-q) = -quantizeHalfUp q := quantize_neg halfUp_neg _ _
  rw [abs_lt, ← not_le (a := decimalPlaces / 2), ← positive, neg_lt, ← not_le (a := decimalPlaces / 2), ← positive,
    mirrored, Left.neg_pos_iff, not_lt, not_lt, and_comm, antisymm_iff]

theorem applySlippage_eq_ok_iff (price : ℚ) :
    decimal.applySlippage svc referencePrice side = .ok price ↔
      Fits (slipped svc side referencePrice) ∧ price = quantizeHalfUp (slipped svc side referencePrice) :=
  halfUp_rounds.quantized_eq_ok_iff _ _

theorem divided_eq_ok_iff (x y r : ℚ) : decimal.divided x y = .ok r ↔ y ≠ 0 ∧ r = decimal.keep (x / y) := by
  rw [divided]
  by_cases zero : y = 0 <;> simp [zero, eq_comm]

/-- An average of nothing is nothing. -/
theorem settle_eq_ok_iff (oldQuantity oldEntryPrice signedFillQuantity fillPrice : ℚ) (result : ℚ × ℚ) :
    decimal.settle oldQuantity oldEntryPrice signedFillQuantity fillPrice = .ok result ↔
      (oldQuantity = 0 ∨ 0 < decimal.keep (oldQuantity * signedFillQuantity) →
        Fits (weighted oldQuantity oldEntryPrice signedFillQuantity fillPrice)) ∧
      result = settled oldQuantity oldEntryPrice signedFillQuantity fillPrice := by
  rw [settle, settled]
  by_cases adds : oldQuantity = 0 ∨ 0 < decimal.keep (oldQuantity * signedFillQuantity)
  · by_cases nothing : decimal.keep (|oldQuantity| + |signedFillQuantity|) = 0
    · have none : Fits (weighted oldQuantity oldEntryPrice signedFillQuantity fillPrice) := by
        rw [weighted, nothing, div_zero]
        norm_num [Fits, decimalPlaces]
      simp [adds, weightedEntryPrice, nothing, none, eq_comm, Except.map]
    · rw [if_pos adds, if_pos adds, weightedEntryPrice, if_neg nothing, if_neg nothing]
      have average := halfUp_rounds.quantized_eq_ok_iff
        (decimal.averagePrice oldQuantity oldEntryPrice signedFillQuantity fillPrice)
      have fits : Fits (decimal.averagePrice oldQuantity oldEntryPrice signedFillQuantity fillPrice) ↔
        Fits (weighted oldQuantity oldEntryPrice signedFillQuantity fillPrice) := fits_keep_iff _
      rw [map_eq_ok_iff]
      simp only [average, fits, adds, true_imp_iff]
      constructor
      · rintro ⟨_, ⟨short, rfl⟩, rfl⟩
        exact ⟨short, rfl⟩
      · rintro ⟨short, rfl⟩
        exact ⟨_, ⟨short, rfl⟩, rfl⟩
  · rw [if_neg adds, if_neg adds, Except.ok.injEq]
    exact ⟨fun same => ⟨fun other => absurd other adds, same.symm⟩, fun bounds => bounds.2.symm⟩

/-- The figures are worked out exactly within the bounds. -/
theorem fillFigures_eq_ok_iff (result : FillFigures) :
    decimal.fillFigures svc position side risk referencePrice = .ok result ↔
      FillFits svc position side risk referencePrice ∧ result = figures svc position side risk referencePrice := by
  have free : quantizeHalfUp (slipped svc side referencePrice) ≠ 0 ↔
      decimalPlaces / 2 ≤ |slipped svc side referencePrice| := by
    rw [ne_eq, quantizeHalfUp_eq_zero_iff, not_lt]
  simp only [fillFigures, bind_eq_ok_iff, applySlippage_eq_ok_iff, divided_eq_ok_iff,
    halfEven_rounds.quantized_eq_ok_iff, halfUp_rounds.quantized_eq_ok_iff, settle_eq_ok_iff, fits_keep_iff]
  constructor
  · rintro ⟨_, ⟨price, rfl⟩, _, ⟨nonzero, rfl⟩, _, ⟨quantity, rfl⟩, _, ⟨fee, rfl⟩, _, ⟨entry, rfl⟩, returned⟩
    rw [fits_keep_iff] at quantity
    cases returned
    exact ⟨⟨free.mp nonzero, price, quantity, fee, entry⟩, rfl⟩
  · rintro ⟨⟨nonzero, price, quantity, fee, entry⟩, rfl⟩
    exact ⟨_, ⟨price, rfl⟩, _, ⟨free.mpr nonzero, rfl⟩, _, ⟨(fits_keep_iff _).mpr quantity, rfl⟩, _, ⟨fee, rfl⟩,
      _, ⟨entry, rfl⟩, rfl⟩

end Figures

section Filling

variable {svc : PaperExecutionService} {decision : TradeDecision} {feature : FeatureVector} {side : Side}
  {risk : RiskDecision} {ts : Datetime}

theorem syncBalance_eq_ok_iff (svc synced : PaperExecutionService) : decimal.syncBalance svc = .ok synced ↔
    Fits (decimal.walletTotal svc) ∧
      synced = { svc with state := walletState svc (quantizeHalfUp (decimal.walletTotal svc)) } := by
  rw [syncBalance, map_eq_ok_iff]
  simp only [halfUp_rounds.quantized_eq_ok_iff]
  constructor
  · rintro ⟨_, ⟨fits, rfl⟩, rfl⟩
    exact ⟨fits, rfl⟩
  · rintro ⟨fits, rfl⟩
    exact ⟨_, ⟨fits, rfl⟩, rfl⟩

/-- The bounds on an order: those on its figures, and a wallet that fits with the
fill counted. -/
@[mk_iff] structure OrderFits (svc : PaperExecutionService) (decision : TradeDecision) (feature : FeatureVector)
    (side : Side) (risk : RiskDecision) (ts : Datetime) : Prop where
  fill : FillFits svc (svc.positionFor decision.symbol ts) side risk feature.referencePrice
  wallet : Fits (decimal.walletTotal (decimal.booked svc decision risk
    (figures svc (svc.positionFor decision.symbol ts) side risk feature.referencePrice) ts))

/-- Account and result of a fill within the bounds. -/
def filledOutcome (svc : PaperExecutionService) (decision : TradeDecision) (feature : FeatureVector)
    (side : Side) (risk : RiskDecision) (ts : Datetime) : PaperExecutionService × Option PaperFillResult :=
  let figures := figures svc (svc.positionFor decision.symbol ts) side risk feature.referencePrice
  let filled := decimal.booked svc decision risk figures ts
  let synced := { filled with state := walletState filled (quantizeHalfUp (decimal.walletTotal filled)) }
  (decimal.accountState synced ts, some
    { symbol := decision.symbol, fillPrice := figures.fillPrice, fillQuantity := figures.fillQuantity
      realizedPnlDelta := figures.realizedDelta, resultingQuantity := figures.newQuantity })

/-- An order past the guards is filled exactly within the bounds, and raises outside them. -/
theorem applyDecision_eq_ok_iff (svc : PaperExecutionService) (ts : Datetime)
    (executes : decision.status = .execute) (sided : decision.side = some side)
    (sized : decision.risk = some risk) (priced : 0 < feature.referencePrice)
    (outcome : PaperExecutionService × Option PaperFillResult) :
    decimal.applyDecision svc decision feature ts = .ok outcome ↔
      OrderFits svc decision feature side risk ts ∧ outcome = filledOutcome svc decision feature side risk ts := by
  simp only [applyDecision, executes, sided, sized, if_neg priced.not_ge]
  cases worked : decimal.fillFigures svc (svc.positionFor decision.symbol ts) side risk feature.referencePrice with
  | error error =>
      have unfit : ¬ OrderFits svc decision feature side risk ts := fun fits => by
        rw [(fillFigures_eq_ok_iff _).mpr ⟨fits.fill, rfl⟩] at worked
        cases worked
      simp [unfit]
  | ok result =>
      obtain ⟨fill, rfl⟩ := (fillFigures_eq_ok_iff result).mp worked
      cases synced : decimal.syncBalance (decimal.booked svc decision risk
          (figures svc (svc.positionFor decision.symbol ts) side risk feature.referencePrice) ts) with
      | error error =>
          have unfit : ¬ OrderFits svc decision feature side risk ts := fun fits => by
            rw [(syncBalance_eq_ok_iff _ _).mpr ⟨fits.wallet, rfl⟩] at synced
            cases synced
          simp [synced, unfit]
      | ok wallet =>
          obtain ⟨fits, rfl⟩ := (syncBalance_eq_ok_iff _ _).mp synced
          simp only [synced, Except.ok.injEq]
          exact ⟨fun same => ⟨⟨fill, fits⟩, same.symm⟩, fun bounds => bounds.2.symm⟩

/-- The order is filled, at a positive price half a tick at most from the exact
slipped one. -/
def FillsNearQuote (svc : PaperExecutionService) (decision : TradeDecision) (feature : FeatureVector)
    (side : Side) (ts : Datetime) : Prop :=
  ∃ after result, decimal.applyDecision svc decision feature ts = .ok (after, some result) ∧
    0 < result.fillPrice ∧
    |result.fillPrice - feature.referencePrice * PaperExecutionService.slippageMultiplier svc.slippageBps side| ≤
      decimalPlaces / 2

/-- An order that passes the guard on the price is filled near its quote exactly if
its slipped price is worth half a tick, its numbers fit, and rounding the slipped
price to twenty-eight digits crosses no tie. -/
theorem admitted_price_fills_iff (executes : decision.status = .execute) (sided : decision.side = some side)
    (sized : decision.risk = some risk) (priced : 0 < feature.referencePrice) :
    FillsNearQuote svc decision feature side ts ↔
      decimalPlaces / 2 ≤ slipped svc side feature.referencePrice ∧
        OrderFits svc decision feature side risk ts ∧
        SameTies decimalPlaces (feature.referencePrice *
            PaperExecutionService.slippageMultiplier svc.slippageBps side)
          (slipped svc side feature.referencePrice) := by
  have positive : 0 < quantizeHalfUp (slipped svc side feature.referencePrice) ↔
      decimalPlaces / 2 ≤ slipped svc side feature.referencePrice := quantize_halfUp_pos_iff decimalPlaces_pos _
  have filled := applyDecision_eq_ok_iff svc ts executes sided sized priced
  constructor
  · rintro ⟨after, result, returned, above, near⟩
    obtain ⟨fits, same⟩ := (filled _).mp returned
    obtain ⟨rfl, rfl⟩ : after = _ ∧ result = _ := by simpa [filledOutcome] using same
    have reaches := positive.mp above
    have nonneg : 0 ≤ slipped svc side feature.referencePrice := (half_pos decimalPlaces_pos).le.trans reaches
    exact ⟨reaches, fits, (quantize_halfUp_near_iff decimalPlaces_pos nonneg).mp near⟩
  · rintro ⟨reaches, fits, same⟩
    have nonneg : 0 ≤ slipped svc side feature.referencePrice := (half_pos decimalPlaces_pos).le.trans reaches
    exact ⟨_, _, (filled _).mpr ⟨fits, rfl⟩, positive.mpr reaches,
      (quantize_halfUp_near_iff decimalPlaces_pos nonneg).mpr same⟩

theorem sell_near_quote : FillsNearQuote (init {}) (marketOrder .sell 100) (quoted 90) .sell 0 := by
  refine (admitted_price_fills_iff rfl rfl rfl (by norm_num [quoted])).mpr ⟨by decide +kernel, ⟨?_, ?_⟩, ?_⟩
  · exact ⟨by decide +kernel, by decide +kernel, by decide +kernel, by decide +kernel, fun _ => by decide +kernel⟩
  · decide +kernel
  · -- The slipped price has five decimals.
    have short : slipped (init {}) .sell (quoted 90).referencePrice = (quoted 90).referencePrice *
        PaperExecutionService.slippageMultiplier (init {}).slippageBps .sell := by
      decide +kernel
    rw [short]
    exact sameTies_self _ _

/-- Nothing but the price is wrong with the order, and its division raises. -/
theorem sell_below_half_tick_raises :
    0 < (quoted (4 / 1000000000)).referencePrice ∧
      decimal.applySlippage (init {}) (quoted (4 / 1000000000)).referencePrice .sell = .ok 0 ∧
      (∃ raised, decimal.applyDecision (init {}) (marketOrder .sell 100) (quoted (4 / 1000000000)) 0 =
        .error raised) ∧
      ¬ FillsNearQuote (init {}) (marketOrder .sell 100) (quoted (4 / 1000000000)) .sell 0 := by
  have raises : (decimal.applyDecision (init {}) (marketOrder .sell 100) (quoted (4 / 1000000000)) 0).isOk =
      false := by
    decide +kernel
  refine ⟨by norm_num [quoted], by decide +kernel, ?_, fun ⟨after, result, filled, _⟩ => ?_⟩
  · cases outcome : decimal.applyDecision (init {}) (marketOrder .sell 100) (quoted (4 / 1000000000)) 0 with
    | error raised => exact ⟨raised, rfl⟩
    | ok result =>
        rw [outcome] at raises
        cases raises
  · rw [filled] at raises
    cases raises

end Filling

end PaperArithmetic

end CatsPy
