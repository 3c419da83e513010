import CatsPy.DomainModels

/-!
# Paper execution

The simulated account: slipped fills, position bookkeeping, funding, the wallet
balance and the journal records each operation writes. Decimal operations are
exact, which twenty-eight digits are in the range of `PaperArithmetic.ShortFill`;
every `quantize` rounds to eight places as coded.
-/
namespace CatsPy
open PythonValues RoundingGrid

section Journal

/-- One list of records per stream; appending and reading back are faithful. -/
abbrev JsonlStorage := OrderedDict String (List PyValue)

def JsonlStorage.readStream (storage : JsonlStorage) (stream : String) : List PyValue :=
  storage.getD stream []

def JsonlStorage.record (storage : JsonlStorage) (stream : String) (payload : PyValue) : JsonlStorage :=
  storage.set stream (storage.readStream stream ++ [payload])

end Journal

def usdt : String := "USDT"
def paperPositionSide : String := "BOTH"
def decimalPlaces : ℚ := 1 / 100000000

/-- `quantize(DECIMAL_PLACES, rounding=ROUND_HALF_UP)`. -/
def quantizeHalfUp (x : ℚ) : ℚ := quantize halfUp decimalPlaces x

/-- `quantize(DECIMAL_PLACES)`: the default context rounds ties to even. -/
def quantizeHalfEven (x : ℚ) : ℚ := quantize halfEven decimalPlaces x

structure PositionEntryMeta where
  entryTime : Datetime
  peakPrice : ℚ
  strategyName : String
  deriving DecidableEq

structure PaperFillResult where
  symbol : String
  fillPrice : ℚ
  fillQuantity : ℚ
  realizedPnlDelta : ℚ
  resultingQuantity : ℚ
  deriving DecidableEq

structure PaperExecutionService where
  journal : JsonlStorage := .empty
  slippageBps : ℚ
  takerFeeBps : ℚ
  fundingIntervalHours : ℚ
  realizedPnl : ℚ := 0
  feesPaid : ℚ := 0
  fundingPnl : ℚ := 0
  turnoverNotional : ℚ := 0
  initialBalance : ℚ
  lastFundingAppliedAt : OrderedDict String Datetime := .empty
  positionMetadata : OrderedDict String PositionEntryMeta := .empty
  lastExitTime : OrderedDict String Datetime := .empty
  sessionHighEquity : ℚ
  state : AccountState

/-- Constructor arguments, with the journal and the clock reading. -/
structure PaperConfig where
  journal : JsonlStorage := .empty
  startingBalance : ℚ := 10000
  slippageBps : ℚ := 1
  takerFeeBps : ℚ := 4
  fundingIntervalHours : ℚ := 8
  createdAt : Datetime := 0

namespace PaperExecutionService

def init (config : PaperConfig) : PaperExecutionService where
  journal := config.journal
  slippageBps := config.slippageBps
  takerFeeBps := config.takerFeeBps
  fundingIntervalHours := config.fundingIntervalHours
  initialBalance := config.startingBalance
  sessionHighEquity := config.startingBalance
  state := AccountState.upsertBalance {}
    { asset := usdt, walletBalance := config.startingBalance,
      availableBalance := config.startingBalance, crossWalletBalance := config.startingBalance,
      updatedAt := config.createdAt }

section Accessors

/-- `account_state(now=now)`: stamps the state and raises the high-water mark. -/
def accountState (svc : PaperExecutionService) (now : Datetime) : PaperExecutionService :=
  { svc with
    state := (svc.state.recordUserStreamEvent now).markReconciled now
    sessionHighEquity := max svc.state.totalEquity svc.sessionHighEquity }

def drawdownPct (svc : PaperExecutionService) : ℚ :=
  if svc.sessionHighEquity ≤ 0 then 0
  else (svc.state.totalEquity - svc.sessionHighEquity) / svc.sessionHighEquity * 100

def isInCooldown (svc : PaperExecutionService) (symbol : String) (now : Datetime)
    (cooldownMinutes : ℚ) : Bool :=
  match svc.lastExitTime.get? symbol with
  | none => false
  | some exitTime => totalSeconds now exitTime / 60 < cooldownMinutes

/-- The constructor installs the balance and nothing removes it. -/
def usdtBalance (svc : PaperExecutionService) : BalanceState :=
  svc.state.balances.getD usdt { asset := usdt, updatedAt := 0 }

def syncedWallet (svc : PaperExecutionService) : ℚ :=
  quantizeHalfUp (svc.initialBalance + svc.realizedPnl + svc.fundingPnl - svc.feesPaid)

def syncedState (svc : PaperExecutionService) : AccountState :=
  let wallet := svc.syncedWallet
  let state := { svc.state with
    balances := svc.state.balances.set usdt { svc.usdtBalance with
      walletBalance := wallet, availableBalance := wallet, crossWalletBalance := wallet } }
  if wallet ≤ 0 ∧ svc.state.killSwitchActive = false then
    state.activateKillSwitch "paper equity depleted"
  else state

def syncBalance (svc : PaperExecutionService) : PaperExecutionService :=
  { svc with state := svc.syncedState }

end Accessors

section Arithmetic

def quantitySign (quantity : ℚ) : ℚ :=
  if 0 < quantity then 1 else if quantity < 0 then -1 else 0

def directionForQuantity (quantity : ℚ) : PositionDirection :=
  if 0 < quantity then .long else if quantity < 0 then .short else .flat

def slippageMultiplier (slippageBps : ℚ) (side : Side) : ℚ :=
  if side = .sell then 1 - slippageBps / 10000 else 1 + slippageBps / 10000

def applySlippage (svc : PaperExecutionService) (price : ℚ) (side : Side) : ℚ :=
  quantizeHalfUp (price * slippageMultiplier svc.slippageBps side)

def weightedEntryPrice (oldQuantity oldEntryPrice fillQuantity fillPrice : ℚ) : ℚ :=
  let totalQuantity := |oldQuantity| + |fillQuantity|
  if totalQuantity = 0 then 0
  else
    let weightedNotional := |oldQuantity| * oldEntryPrice + |fillQuantity| * fillPrice
    quantizeHalfUp (weightedNotional / totalQuantity)

/-- The new entry price and the realized profit of a fill. -/
def settle (oldQuantity oldEntryPrice signedFillQuantity fillPrice : ℚ) : ℚ × ℚ :=
  if oldQuantity = 0 ∨ 0 < oldQuantity * signedFillQuantity then
    (weightedEntryPrice oldQuantity oldEntryPrice signedFillQuantity fillPrice, 0)
  else
    let closedQuantity := min |oldQuantity| |signedFillQuantity|
    let realizedDelta := (fillPrice - oldEntryPrice) * closedQuantity * quantitySign oldQuantity
    if |signedFillQuantity| < |oldQuantity| then (oldEntryPrice, realizedDelta)
    else if |signedFillQuantity| = |oldQuantity| then (0, realizedDelta)
    else (fillPrice, realizedDelta)

end Arithmetic

section Records

def positionRecord (position : PositionState) : PyValue :=
  .dict [("symbol", .str position.symbol), ("quantity", .float position.quantity),
    ("entry_price", .float position.entryPrice), ("mark_price", .float position.markPrice),
    ("unrealized_pnl", .float position.unrealizedPnl)]

def pnlRecord (svc : PaperExecutionService) (cycleId : String) (ts : Datetime)
    (fundingPnlDelta feePaidDelta turnoverNotionalDelta : ℚ) : PyValue :=
  .dict [("ts", .str (isoformat ts)), ("cycle_id", .str cycleId),
    ("wallet_balance", .float svc.usdtBalance.walletBalance),
    ("realized_pnl", .float svc.realizedPnl), ("funding_pnl", .float svc.fundingPnl),
    ("funding_pnl_delta", .float fundingPnlDelta), ("fees_paid", .float svc.feesPaid),
    ("fee_paid_delta", .float feePaidDelta), ("turnover_notional", .float svc.turnoverNotional),
    ("turnover_notional_delta", .float turnoverNotionalDelta),
    ("unrealized_pnl", .float svc.state.totalUnrealizedPnl),
    ("equity", .float svc.state.totalEquity),
    ("gross_exposure", .float (svc.state.toSnapshot ts).grossExposure),
    ("open_positions", .int svc.state.openPositionCount),
    ("positions", .list ((svc.state.positions.values.filter PositionState.isOpen).map positionRecord))]

def recordPnlSnapshot (svc : PaperExecutionService) (cycleId : String) (ts : Datetime)
    (fundingPnlDelta feePaidDelta turnoverNotionalDelta : ℚ) : PaperExecutionService :=
  let payload := svc.pnlRecord cycleId ts fundingPnlDelta feePaidDelta turnoverNotionalDelta
  { svc with journal := svc.journal.record "paper_pnl_log" payload }

end Records

section Marking

/-- The funding charged on one position, and the advanced funding clock. -/
def maybeApplyFunding (svc : PaperExecutionService) (position : PositionState)
    (feature : FeatureVector) (ts : Datetime) : PaperExecutionService × ℚ :=
  if feature.fundingRate = 0 then (svc, 0)
  else
    let restarted := { svc with
      lastFundingAppliedAt := svc.lastFundingAppliedAt.set position.symbol ts }
    let notional := |position.quantity * feature.referencePrice|
    let charged := (restarted, if notional = 0 then 0 else
      quantizeHalfUp (-(notional * feature.fundingRate * quantitySign position.quantity)))
    if 0 < svc.fundingIntervalHours then
      match svc.lastFundingAppliedAt.get? position.symbol with
      | none => (restarted, 0)
      | some lastAppliedAt =>
          if totalSeconds ts lastAppliedAt / 3600 < svc.fundingIntervalHours then (svc, 0)
          else charged
    else charged

def markedPosition (position : PositionState) (markPrice : ℚ) (ts : Datetime) : PositionState :=
  { position with
    markPrice := markPrice
    notional := position.quantity * markPrice
    unrealizedPnl := (markPrice - position.entryPrice) * position.quantity
    updatedAt := ts }

def markedMeta (entryMeta : PositionEntryMeta) (direction : PositionDirection) (mark : ℚ) :
    PositionEntryMeta :=
  match direction with
  | .long => { entryMeta with peakPrice := max entryMeta.peakPrice mark }
  | .short => { entryMeta with peakPrice := min entryMeta.peakPrice mark }
  | .flat => entryMeta

def markMetadata (metadata : OrderedDict String PositionEntryMeta) (position : PositionState)
    (mark : ℚ) : OrderedDict String PositionEntryMeta :=
  match metadata.get? position.symbol with
  | some entryMeta => metadata.set position.symbol (markedMeta entryMeta position.direction mark)
  | none => metadata

/-- The body of the marking loop for the position stored under one key. -/
def markStep (features : OrderedDict String FeatureVector) (ts : Datetime)
    (acc : PaperExecutionService × ℚ) (entry : (String × String) × PositionState) :
    PaperExecutionService × ℚ :=
  if !entry.2.isOpen then acc
  else match features.get? entry.2.symbol with
    | none => acc
    | some feature =>
        if feature.referencePrice ≤ 0 then acc
        else
          let (svc, fundingDelta) := acc.1.maybeApplyFunding entry.2 feature ts
          let marked := markedPosition entry.2 feature.referencePrice ts
          ({ svc with
              state := { svc.state with positions := svc.state.positions.set entry.1 marked }
              positionMetadata :=
                markMetadata svc.positionMetadata entry.2 feature.referencePrice },
            acc.2 + fundingDelta)

def markToMarket (svc : PaperExecutionService) (features : OrderedDict String FeatureVector)
    (cycleId : String) (ts : Datetime) : PaperExecutionService :=
  let (marked, fundingDelta) := svc.state.positions.entries.foldl (markStep features ts) (svc, 0)
  let funded := if fundingDelta ≠ 0 then
      { marked with fundingPnl := marked.fundingPnl + fundingDelta }.syncBalance
    else marked
  (funded.accountState ts).recordPnlSnapshot cycleId ts fundingDelta 0 0

end Marking

section Filling

/-- The position a fill finds; a missing one is flat. -/
def positionFor (svc : PaperExecutionService) (symbol : String) (ts : Datetime) : PositionState :=
  svc.state.positions.getD (symbol, paperPositionSide)
    { symbol, positionSide := paperPositionSide, updatedAt := ts }

def filledPosition (position : PositionState) (newQuantity newEntryPrice fillPrice : ℚ)
    (approvedLeverage : ℚ) (ts : Datetime) : PositionState :=
  { position with
    quantity := newQuantity
    entryPrice := newEntryPrice
    markPrice := fillPrice
    notional := newQuantity * fillPrice
    unrealizedPnl := if newQuantity ≠ 0 then (fillPrice - newEntryPrice) * newQuantity else 0
    direction := directionForQuantity newQuantity
    leverage := max (halfEven approvedLeverage) 1
    updatedAt := ts }

/-- Metadata is created on opening from flat and dropped on becoming flat. -/
def filledMetadata (svc : PaperExecutionService) (decision : TradeDecision)
    (oldQuantity newQuantity fillPrice : ℚ) (ts : Datetime) : OrderedDict String PositionEntryMeta :=
  if newQuantity ≠ 0 ∧ oldQuantity = 0 then
    svc.positionMetadata.set decision.symbol
      { entryTime := ts, peakPrice := fillPrice
        strategyName := ((ofOptional decision.selectedStrategy).or (.str "unknown")).toStr }
  else if newQuantity = 0 then svc.positionMetadata.pop decision.symbol
  else svc.positionMetadata

def filledExitTime (svc : PaperExecutionService) (symbol : String) (newQuantity : ℚ) (ts : Datetime) :
    OrderedDict String Datetime :=
  if newQuantity = 0 then svc.lastExitTime.set symbol ts else svc.lastExitTime

def fillRecord (decision : TradeDecision) (side : Side) (risk : RiskDecision) (cycleId : String)
    (ts : Datetime) (result : PaperFillResult) (turnoverDelta feeDelta : ℚ) : PyValue :=
  .dict [("ts", .str (isoformat ts)), ("cycle_id", .str cycleId),
    ("decision_id", .str decision.decisionId), ("symbol", .str decision.symbol),
    ("side", .str side.value), ("fill_price", .float result.fillPrice),
    ("fill_quantity", .float result.fillQuantity), ("target_notional", .float risk.approvedNotional),
    ("realized_pnl_delta", .float result.realizedPnlDelta),
    ("resulting_quantity", .float result.resultingQuantity),
    ("turnover_notional_delta", .float turnoverDelta), ("fee_paid_delta", .float feeDelta)]

/-- The bookkeeping of a fill at a price that is not zero. -/
def bookFill (svc : PaperExecutionService) (decision : TradeDecision) (side : Side)
    (risk : RiskDecision) (fillPrice : ℚ) (cycleId : String) (ts : Datetime) :
    PaperExecutionService × PaperFillResult :=
  let fillQuantity := quantizeHalfEven (risk.approvedNotional / fillPrice)
  let signedFillQuantity := if side = .buy then fillQuantity else -fillQuantity
  let position := svc.positionFor decision.symbol ts
  let turnoverDelta := |fillQuantity * fillPrice|
  let feeDelta := quantizeHalfUp (turnoverDelta * svc.takerFeeBps / 10000)
  let newQuantity := position.quantity + signedFillQuantity
  let (newEntryPrice, realizedDelta) :=
    settle position.quantity position.entryPrice signedFillQuantity fillPrice
  let booked := { svc with
    state := svc.state.upsertPosition
      (filledPosition position newQuantity newEntryPrice fillPrice risk.approvedLeverage ts)
    positionMetadata := svc.filledMetadata decision position.quantity newQuantity fillPrice ts
    lastExitTime := svc.filledExitTime decision.symbol newQuantity ts
    realizedPnl := svc.realizedPnl + realizedDelta
    feesPaid := svc.feesPaid + feeDelta
    turnoverNotional := svc.turnoverNotional + turnoverDelta }
  let stamped := booked.syncBalance.accountState ts
  let result : PaperFillResult :=
    { symbol := decision.symbol, fillPrice, fillQuantity, realizedPnlDelta := realizedDelta,
      resultingQuantity := newQuantity }
  let payload := fillRecord decision side risk cycleId ts result turnoverDelta feeDelta
  let logged := { stamped with journal := stamped.journal.record "paper_fill_log" payload }
  (logged.recordPnlSnapshot cycleId ts 0 feeDelta turnoverDelta, result)

/-- Division of the approved notional by a zero price. -/
def divisionError (notional : ℚ) : PyError :=
  if notional = 0 then ⟨.invalidOperation, "[<class 'decimal.DivisionUndefined'>]"⟩
  else ⟨.divisionByZero, "[<class 'decimal.DivisionByZero'>]"⟩

/-- Raises before the state is touched, or fills, or ignores the decision. -/
def applyDecision (svc : PaperExecutionService) (decision : TradeDecision) (feature : FeatureVector)
    (cycleId : String) (ts : Datetime) :
    Except PyError (PaperExecutionService × Option PaperFillResult) :=
  match decision.status, decision.side, decision.risk with
  | .execute, some side, some risk =>
      if feature.referencePrice ≤ 0 then .ok (svc, none)
      else
        let fillPrice := svc.applySlippage feature.referencePrice side
        if fillPrice = 0 then .error (divisionError risk.approvedNotional)
        else
          let (filled, result) := svc.bookFill decision side risk fillPrice cycleId ts
          .ok (filled, some result)
  | _, _, _ => .ok (svc, none)

end Filling

end PaperExecutionService

end CatsPy
