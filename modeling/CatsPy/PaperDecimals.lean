import CatsPy.ContextValues
import CatsPy.DecimalOrders
import CatsPy.PaperFills

/-!
# Paper execution in decimals

The same account with every result kept in 28 digits, and with the numbers of
eight places that do not fit them refused. The arithmetic is a parameter: exact,
it is the paper account of the other modules, whose journal is left out here.
Comparisons, negation and absolute values round nothing.
-/
namespace CatsPy
open PythonValues RoundingGrid DecimalArithmetic

/-- What a result keeps of its exact value, and the size from which a number of
eight places is refused. -/
structure PaperArithmetic where
  keep : ℚ → ℚ
  limit : Option ℚ := none

namespace PaperArithmetic

def exact : PaperArithmetic where
  keep := id

/-- `Decimal` in the default context. -/
def decimal : PaperArithmetic where
  keep := defaultContext.keep
  limit := some (10 ^ 20)

section Figures

variable (arithmetic : PaperArithmetic)

/-- `quantize(DECIMAL_PLACES)`. -/
def quantized (round : ℚ → ℤ) (q : ℚ) : Except PyError ℚ :=
  if arithmetic.limit.any (· ≤ |quantize round decimalPlaces q|) then
    .error ⟨.invalidOperation, "[<class 'decimal.InvalidOperation'>]"⟩
  else .ok (quantize round decimalPlaces q)

def divided (x y : ℚ) : Except PyError ℚ :=
  if y = 0 then .error (PaperExecutionService.divisionError x) else .ok (arithmetic.keep (x / y))

def slippageMultiplier (slippageBps : ℚ) (side : Side) : ℚ :=
  if side = .sell then arithmetic.keep (1 - arithmetic.keep (slippageBps / 10000))
  else arithmetic.keep (1 + arithmetic.keep (slippageBps / 10000))

def applySlippage (svc : PaperExecutionService) (price : ℚ) (side : Side) : Except PyError ℚ :=
  arithmetic.quantized halfUp (arithmetic.keep (price * arithmetic.slippageMultiplier svc.slippageBps side))

/-- The average before it is quantized. -/
def averagePrice (oldQuantity oldEntryPrice fillQuantity fillPrice : ℚ) : ℚ :=
  let weightedNotional := arithmetic.keep
    (arithmetic.keep (|oldQuantity| * oldEntryPrice) + arithmetic.keep (|fillQuantity| * fillPrice))
  arithmetic.keep (weightedNotional / arithmetic.keep (|oldQuantity| + |fillQuantity|))

def weightedEntryPrice (oldQuantity oldEntryPrice fillQuantity fillPrice : ℚ) : Except PyError ℚ :=
  if arithmetic.keep (|oldQuantity| + |fillQuantity|) = 0 then .ok 0
  else arithmetic.quantized halfUp (arithmetic.averagePrice oldQuantity oldEntryPrice fillQuantity fillPrice)

/-- Entry price and realized profit of a fill against the position. -/
def reduced (oldQuantity oldEntryPrice signedFillQuantity fillPrice : ℚ) : ℚ × ℚ :=
  let closedQuantity := min |oldQuantity| |signedFillQuantity|
  let realizedDelta := arithmetic.keep
    (arithmetic.keep (arithmetic.keep (fillPrice - oldEntryPrice) * closedQuantity) *
      PaperExecutionService.quantitySign oldQuantity)
  if |signedFillQuantity| < |oldQuantity| then (oldEntryPrice, realizedDelta)
  else if |signedFillQuantity| = |oldQuantity| then (0, realizedDelta)
  else (fillPrice, realizedDelta)

/-- The new entry price and the realized profit of a fill. -/
def settle (oldQuantity oldEntryPrice signedFillQuantity fillPrice : ℚ) : Except PyError (ℚ × ℚ) :=
  if oldQuantity = 0 ∨ 0 < arithmetic.keep (oldQuantity * signedFillQuantity) then
    (arithmetic.weightedEntryPrice oldQuantity oldEntryPrice signedFillQuantity fillPrice).map (·, 0)
  else .ok (arithmetic.reduced oldQuantity oldEntryPrice signedFillQuantity fillPrice)

structure FillFigures where
  fillPrice : ℚ
  fillQuantity : ℚ
  signedFillQuantity : ℚ
  turnoverDelta : ℚ
  feeDelta : ℚ
  newQuantity : ℚ
  newEntryPrice : ℚ
  realizedDelta : ℚ

/-- All that `apply_decision` works out before it writes anything. -/
def fillFigures (svc : PaperExecutionService) (position : PositionState) (side : Side) (risk : RiskDecision)
    (referencePrice : ℚ) : Except PyError FillFigures := do
  let fillPrice ← arithmetic.applySlippage svc referencePrice side
  let quotient ← arithmetic.divided risk.approvedNotional fillPrice
  let fillQuantity ← arithmetic.quantized halfEven quotient
  let signedFillQuantity := if side = .buy then fillQuantity else -fillQuantity
  let turnoverDelta := |arithmetic.keep (fillQuantity * fillPrice)|
  let feeDelta ← arithmetic.quantized halfUp
    (arithmetic.keep (arithmetic.keep (turnoverDelta * svc.takerFeeBps) / 10000))
  let newQuantity := arithmetic.keep (position.quantity + signedFillQuantity)
  let (newEntryPrice, realizedDelta) ←
    arithmetic.settle position.quantity position.entryPrice signedFillQuantity fillPrice
  return { fillPrice, fillQuantity, signedFillQuantity, turnoverDelta, feeDelta, newQuantity, newEntryPrice
           realizedDelta }

end Figures

section Account

variable (arithmetic : PaperArithmetic)

def sum (values : List ℚ) : ℚ := values.foldl (fun total value => arithmetic.keep (total + value)) 0

def totalEquity (state : AccountState) : ℚ :=
  arithmetic.keep (arithmetic.sum (state.balances.values.map BalanceState.walletBalance) +
    arithmetic.sum ((state.positions.values.filter PositionState.isOpen).map PositionState.unrealizedPnl))

def accountState (svc : PaperExecutionService) (now : Datetime) : PaperExecutionService :=
  { svc with
    state := (svc.state.recordUserStreamEvent now).markReconciled now
    sessionHighEquity := max (arithmetic.totalEquity svc.state) svc.sessionHighEquity }

/-- What the wallet is synced to, before it is quantized. -/
def walletTotal (svc : PaperExecutionService) : ℚ :=
  arithmetic.keep
    (arithmetic.keep (arithmetic.keep (svc.initialBalance + svc.realizedPnl) + svc.fundingPnl) - svc.feesPaid)

def walletState (svc : PaperExecutionService) (wallet : ℚ) : AccountState :=
  let state := { svc.state with
    balances := svc.state.balances.set usdt { svc.usdtBalance with
      walletBalance := wallet, availableBalance := wallet, crossWalletBalance := wallet } }
  if wallet ≤ 0 ∧ svc.state.killSwitchActive = false then
    state.activateKillSwitch "paper equity depleted"
  else state

def syncBalance (svc : PaperExecutionService) : Except PyError PaperExecutionService :=
  (arithmetic.quantized halfUp (arithmetic.walletTotal svc)).map fun wallet =>
    { svc with state := walletState svc wallet }

end Account

section Filling

variable (arithmetic : PaperArithmetic)

def filledPosition (position : PositionState) (figures : FillFigures) (approvedLeverage : ℚ) (ts : Datetime) :
    PositionState :=
  { position with
    quantity := figures.newQuantity
    entryPrice := figures.newEntryPrice
    markPrice := figures.fillPrice
    notional := arithmetic.keep (figures.newQuantity * figures.fillPrice)
    unrealizedPnl := if figures.newQuantity ≠ 0 then
      arithmetic.keep (arithmetic.keep (figures.fillPrice - figures.newEntryPrice) * figures.newQuantity) else 0
    direction := PaperExecutionService.directionForQuantity figures.newQuantity
    leverage := max (halfEven approvedLeverage) 1
    updatedAt := ts }

/-- What a fill writes before the wallet is synced. -/
def booked (svc : PaperExecutionService) (decision : TradeDecision) (risk : RiskDecision)
    (figures : FillFigures) (ts : Datetime) : PaperExecutionService :=
  let position := svc.positionFor decision.symbol ts
  { svc with
    state := svc.state.upsertPosition
      (arithmetic.filledPosition position figures risk.approvedLeverage ts)
    positionMetadata :=
      svc.filledMetadata decision position.quantity figures.newQuantity figures.fillPrice ts
    lastExitTime := svc.filledExitTime decision.symbol figures.newQuantity ts
    realizedPnl := arithmetic.keep (svc.realizedPnl + figures.realizedDelta)
    feesPaid := arithmetic.keep (svc.feesPaid + figures.feeDelta)
    turnoverNotional := arithmetic.keep (svc.turnoverNotional + figures.turnoverDelta) }

/-- A wallet that does not fit raises when the fill is booked. -/
def applyDecision (svc : PaperExecutionService) (decision : TradeDecision) (feature : FeatureVector)
    (ts : Datetime) :
    Except (PaperExecutionService × PyError) (PaperExecutionService × Option PaperFillResult) :=
  match decision.status, decision.side, decision.risk with
  | .execute, some side, some risk =>
      if feature.referencePrice ≤ 0 then .ok (svc, none)
      else
        match arithmetic.fillFigures svc (svc.positionFor decision.symbol ts) side risk
          feature.referencePrice with
        | .error error => .error (svc, error)
        | .ok figures =>
            let filled := arithmetic.booked svc decision risk figures ts
            match arithmetic.syncBalance filled with
            | .error error => .error (filled, error)
            | .ok synced => .ok (arithmetic.accountState synced ts, some
                { symbol := decision.symbol, fillPrice := figures.fillPrice
                  fillQuantity := figures.fillQuantity, realizedPnlDelta := figures.realizedDelta
                  resultingQuantity := figures.newQuantity })
  | _, _, _ => .ok (svc, none)

end Filling

section Marking

variable (arithmetic : PaperArithmetic)

def maybeApplyFunding (svc : PaperExecutionService) (position : PositionState) (feature : FeatureVector)
    (ts : Datetime) : Except (PaperExecutionService × PyError) (PaperExecutionService × ℚ) :=
  if feature.fundingRate = 0 then .ok (svc, 0)
  else
    let restarted := { svc with
      lastFundingAppliedAt := svc.lastFundingAppliedAt.set position.symbol ts }
    let notional := |arithmetic.keep (position.quantity * feature.referencePrice)|
    let charged := if notional = 0 then .ok (restarted, 0) else
      match arithmetic.quantized halfUp (-(arithmetic.keep (arithmetic.keep (notional * feature.fundingRate) *
        PaperExecutionService.quantitySign position.quantity))) with
      | .error error => .error (restarted, error)
      | .ok amount => .ok (restarted, amount)
    if 0 < svc.fundingIntervalHours then
      match svc.lastFundingAppliedAt.get? position.symbol with
      | none => .ok (restarted, 0)
      | some lastAppliedAt =>
          if totalSeconds ts lastAppliedAt / 3600 < svc.fundingIntervalHours then .ok (svc, 0)
          else charged
    else charged

def markedPosition (position : PositionState) (markPrice : ℚ) (ts : Datetime) : PositionState :=
  { position with
    markPrice := markPrice
    notional := arithmetic.keep (position.quantity * markPrice)
    unrealizedPnl := arithmetic.keep (arithmetic.keep (markPrice - position.entryPrice) * position.quantity)
    updatedAt := ts }

def markStep (features : OrderedDict String FeatureVector) (ts : Datetime)
    (acc : PaperExecutionService × ℚ) (entry : (String × String) × PositionState) :
    Except ((PaperExecutionService × ℚ) × PyError) (PaperExecutionService × ℚ) :=
  if !entry.2.isOpen then .ok acc
  else match features.get? entry.2.symbol with
    | none => .ok acc
    | some feature =>
        if feature.referencePrice ≤ 0 then .ok acc
        else
          match arithmetic.maybeApplyFunding acc.1 entry.2 feature ts with
          | .error (raised, error) => .error ((raised, acc.2), error)
          | .ok (svc, fundingDelta) =>
              let marked := arithmetic.markedPosition entry.2 feature.referencePrice ts
              .ok ({ svc with
                  state := { svc.state with positions := svc.state.positions.set entry.1 marked }
                  positionMetadata :=
                    PaperExecutionService.markMetadata svc.positionMetadata entry.2 feature.referencePrice },
                arithmetic.keep (acc.2 + fundingDelta))

def markToMarket (svc : PaperExecutionService) (features : OrderedDict String FeatureVector) (ts : Datetime) :
    Except (PaperExecutionService × PyError) PaperExecutionService :=
  match svc.state.positions.entries.foldlM (arithmetic.markStep features ts) (svc, 0) with
  | .error ((raised, _), error) => .error (raised, error)
  | .ok (marked, fundingDelta) =>
      if fundingDelta ≠ 0 then
        let funded := { marked with fundingPnl := arithmetic.keep (marked.fundingPnl + fundingDelta) }
        match arithmetic.syncBalance funded with
        | .error error => .error (funded, error)
        | .ok synced => .ok (arithmetic.accountState synced ts)
      else .ok (arithmetic.accountState marked ts)

end Marking

section Exact
open PaperExecutionService

variable {svc : PaperExecutionService}

theorem exact_quantized (round : ℚ → ℤ) (q : ℚ) :
    exact.quantized round q = .ok (quantize round decimalPlaces q) :=
  rfl

theorem exact_applySlippage (svc : PaperExecutionService) (price : ℚ) (side : Side) :
    exact.applySlippage svc price side = .ok (svc.applySlippage price side) :=
  rfl

theorem exact_weightedEntryPrice (oldQuantity oldEntryPrice fillQuantity fillPrice : ℚ) :
    exact.weightedEntryPrice oldQuantity oldEntryPrice fillQuantity fillPrice =
      .ok (PaperExecutionService.weightedEntryPrice oldQuantity oldEntryPrice fillQuantity fillPrice) :=
  (apply_ite Except.ok (|oldQuantity| + |fillQuantity| = 0) 0 _).symm

theorem exact_settle (oldQuantity oldEntryPrice signedFillQuantity fillPrice : ℚ) :
    exact.settle oldQuantity oldEntryPrice signedFillQuantity fillPrice =
      .ok (PaperExecutionService.settle oldQuantity oldEntryPrice signedFillQuantity fillPrice) := by
  rw [settle, PaperExecutionService.settle, exact_weightedEntryPrice, reduced]
  simp only [exact, id_eq, apply_ite Except.ok]
  rfl

theorem exact_sum (values : List ℚ) : exact.sum values = values.sum := by
  rw [List.sum_eq_foldl]
  rfl

theorem exact_totalEquity (state : AccountState) : exact.totalEquity state = state.totalEquity := by
  have unrealized (positions : List PositionState) :
      ((positions.filter PositionState.isOpen).map PositionState.unrealizedPnl).sum =
        (positions.map fun position => if position.isOpen then position.unrealizedPnl else 0).sum := by
    induction positions with
    | nil => rfl
    | cons position rest ih => cases opened : position.isOpen <;> simp [opened, ih]
  rw [totalEquity, exact_sum, exact_sum, unrealized]
  rfl

theorem exact_syncBalance (svc : PaperExecutionService) : exact.syncBalance svc = .ok svc.syncBalance := rfl

theorem exact_accountState (svc : PaperExecutionService) (now : Datetime) :
    exact.accountState svc now = svc.accountState now := by
  rw [accountState, exact_totalEquity]
  rfl

/-- The figures of a fill at a price that is not zero. -/
theorem exact_fillFigures (position : PositionState) (side : Side) (risk : RiskDecision) (referencePrice : ℚ) :
    exact.fillFigures svc position side risk referencePrice =
      let fillPrice := svc.applySlippage referencePrice side
      if fillPrice = 0 then .error (divisionError risk.approvedNotional)
      else
        let fillQuantity := quantizeHalfEven (risk.approvedNotional / fillPrice)
        let signedFillQuantity := signedQuantity side risk fillPrice
        let settled := PaperExecutionService.settle position.quantity position.entryPrice signedFillQuantity fillPrice
        .ok { fillPrice, fillQuantity, signedFillQuantity
              turnoverDelta := |fillQuantity * fillPrice|
              feeDelta := quantizeHalfUp (|fillQuantity * fillPrice| * svc.takerFeeBps / 10000)
              newQuantity := position.quantity + signedFillQuantity
              newEntryPrice := settled.1, realizedDelta := settled.2 } := by
  rw [fillFigures, exact_applySlippage]
  by_cases free : svc.applySlippage referencePrice side = 0
  · have quotient : exact.divided risk.approvedNotional (svc.applySlippage referencePrice side) =
        .error (divisionError risk.approvedNotional) := if_pos free
    simp only [bind, Except.bind, quotient, if_pos free]
  · have quotient : exact.divided risk.approvedNotional (svc.applySlippage referencePrice side) =
        .ok (risk.approvedNotional / svc.applySlippage referencePrice side) := if_neg free
    simp only [bind, Except.bind, quotient, exact_quantized, exact_settle, if_neg free]
    rfl

/-- In exact arithmetic the fill is that of the paper account, its journal aside. -/
theorem exact_applyDecision (svc : PaperExecutionService) (decision : TradeDecision) (feature : FeatureVector)
    (cycleId : String) (ts : Datetime) : exact.applyDecision svc decision feature ts =
      ((svc.applyDecision decision feature cycleId ts).map fun outcome =>
        ({ outcome.1 with journal := svc.journal }, outcome.2)).mapError fun error => (svc, error) := by
  rw [applyDecision, PaperExecutionService.applyDecision]
  cases decision.status with
  | noTrade => rfl
  | execute =>
      cases decision.side with
      | none => rfl
      | some side =>
          cases decision.risk with
          | none => rfl
          | some risk =>
              by_cases unpriced : feature.referencePrice ≤ 0
              · simp only [unpriced, if_true]
                rfl
              · by_cases free : svc.applySlippage feature.referencePrice side = 0
                · simp only [unpriced, if_false, exact_fillFigures, free, if_true]
                  rfl
                · simp only [unpriced, if_false, exact_fillFigures, free, exact_syncBalance, exact_accountState]
                  rfl

theorem exact_maybeApplyFunding (svc : PaperExecutionService) (position : PositionState) (feature : FeatureVector)
    (ts : Datetime) : exact.maybeApplyFunding svc position feature ts =
      .ok (svc.maybeApplyFunding position feature ts) := by
  simp only [maybeApplyFunding, PaperExecutionService.maybeApplyFunding, exact_quantized]
  by_cases free : feature.fundingRate = 0
  · simp only [free, if_true]
  · by_cases still : |exact.keep (position.quantity * feature.referencePrice)| = 0
    · have same : |position.quantity * feature.referencePrice| = 0 := still
      simp only [free, if_false, still, same, if_true]
      cases svc.lastFundingAppliedAt.get? position.symbol <;> simp only [apply_ite Except.ok]
    · have same : ¬ |position.quantity * feature.referencePrice| = 0 := still
      simp only [free, if_false, still, same]
      cases svc.lastFundingAppliedAt.get? position.symbol <;> simp only [apply_ite Except.ok] <;> rfl

theorem exact_markStep (features : OrderedDict String FeatureVector) (ts : Datetime)
    (acc : PaperExecutionService × ℚ) (entry : (String × String) × PositionState) :
    exact.markStep features ts acc entry = .ok (PaperExecutionService.markStep features ts acc entry) := by
  rw [markStep, PaperExecutionService.markStep]
  cases entry.2.isOpen with
  | false => rfl
  | true =>
      cases features.get? entry.2.symbol with
      | none => rfl
      | some feature =>
          by_cases unpriced : feature.referencePrice ≤ 0
          · simp only [unpriced, if_true]
            rfl
          · simp only [unpriced, exact_maybeApplyFunding]
            rfl

theorem exact_markToMarket (svc : PaperExecutionService) (features : OrderedDict String FeatureVector)
    (cycleId : String) (ts : Datetime) : exact.markToMarket svc features ts =
      .ok { svc.markToMarket features cycleId ts with journal := svc.journal } := by
  have loop : svc.state.positions.entries.foldlM (exact.markStep features ts) (svc, 0) =
      .ok (svc.state.positions.entries.foldl (PaperExecutionService.markStep features ts) (svc, 0)) := by
    have pure_step : exact.markStep features ts = fun acc entry =>
        pure (PaperExecutionService.markStep features ts acc entry) := by
      funext acc entry
      exact exact_markStep features ts acc entry
    rw [pure_step, List.foldlM_pure]
    rfl
  obtain ⟨positions, clock, metadata, frame⟩ := markLoop_frame features ts svc.state.positions.entries (svc, 0)
  rw [markToMarket, loop, PaperExecutionService.markToMarket]
  generalize svc.state.positions.entries.foldl (PaperExecutionService.markStep features ts) (svc, 0) = outcome at frame
  obtain ⟨marked, fundingDelta⟩ := outcome
  simp only at frame
  subst frame
  by_cases charged : fundingDelta = 0
  · simp only [charged, exact_accountState, ne_eq, not_true_eq_false, if_false]
    rfl
  · simp only [charged, exact_syncBalance, exact_accountState, ne_eq, not_false_eq_true, if_true]
    rfl

end Exact

end PaperArithmetic

end CatsPy
