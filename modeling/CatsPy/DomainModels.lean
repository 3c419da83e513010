import CatsPy.OrderedDict
import CatsPy.ObjectHeap
import CatsPy.PythonValues

/-!
# Domain model

The enumerations and records shared by every service, with the methods of the
account state. Decimals and floats are exact rationals. Raw payloads kept for
audit are left out; nothing reads them back.
-/
namespace CatsPy
open PythonValues

section Enums

inductive Side where
  | buy | sell
  deriving DecidableEq, Repr

def Side.value : Side → String
  | .buy => "BUY"
  | .sell => "SELL"

inductive OrderType where
  | limit | market | stop | stopMarket | takeProfit | takeProfitMarket | trailingStopMarket
  deriving DecidableEq, Repr

def OrderType.value : OrderType → String
  | .limit => "LIMIT"
  | .market => "MARKET"
  | .stop => "STOP"
  | .stopMarket => "STOP_MARKET"
  | .takeProfit => "TAKE_PROFIT"
  | .takeProfitMarket => "TAKE_PROFIT_MARKET"
  | .trailingStopMarket => "TRAILING_STOP_MARKET"

inductive TimeInForce where
  | gtc | ioc | fok | gtx
  deriving DecidableEq, Repr

def TimeInForce.value : TimeInForce → String
  | .gtc => "GTC"
  | .ioc => "IOC"
  | .fok => "FOK"
  | .gtx => "GTX"

inductive MarketRegime where
  | trend | range | crowding | defense | unknown
  deriving DecidableEq, Repr

def MarketRegime.value : MarketRegime → String
  | .trend => "TREND"
  | .range => "RANGE"
  | .crowding => "CROWDING"
  | .defense => "DEFENSE"
  | .unknown => "UNKNOWN"

inductive SymbolTier where
  | core | liquidAlt | experimental
  deriving DecidableEq, Repr

def SymbolTier.value : SymbolTier → String
  | .core => "core"
  | .liquidAlt => "liquid_alt"
  | .experimental => "experimental"

/-- `repr(tier)`, the text of a failed tier lookup. -/
def SymbolTier.repr : SymbolTier → String
  | .core => "<SymbolTier.CORE: 'core'>"
  | .liquidAlt => "<SymbolTier.LIQUID_ALT: 'liquid_alt'>"
  | .experimental => "<SymbolTier.EXPERIMENTAL: 'experimental'>"

inductive RiskDecisionStatus where
  | approved | rejected | halted
  deriving DecidableEq, Repr

def RiskDecisionStatus.value : RiskDecisionStatus → String
  | .approved => "APPROVED"
  | .rejected => "REJECTED"
  | .halted => "HALTED"

inductive DecisionStatus where
  | execute | noTrade
  deriving DecidableEq, Repr

def DecisionStatus.value : DecisionStatus → String
  | .execute => "EXECUTE"
  | .noTrade => "NO_TRADE"

inductive OrderLifecycleStatus where
  | new | partiallyFilled | filled | canceled | expired | rejected | triggered | unknown
  deriving DecidableEq, Repr

def OrderLifecycleStatus.value : OrderLifecycleStatus → String
  | .new => "NEW"
  | .partiallyFilled => "PARTIALLY_FILLED"
  | .filled => "FILLED"
  | .canceled => "CANCELED"
  | .expired => "EXPIRED"
  | .rejected => "REJECTED"
  | .triggered => "TRIGGERED"
  | .unknown => "UNKNOWN"

inductive PositionDirection where
  | long | short | flat
  deriving DecidableEq, Repr

def PositionDirection.value : PositionDirection → String
  | .long => "LONG"
  | .short => "SHORT"
  | .flat => "FLAT"

inductive RuntimeMode where
  | shadow | paper | liveMicro | live
  deriving DecidableEq, Repr

def RuntimeMode.value : RuntimeMode → String
  | .shadow => "shadow"
  | .paper => "paper"
  | .liveMicro => "live_micro"
  | .live => "live"

end Enums

section Records

structure FeatureVector where
  symbol : String
  ts : Datetime
  sourceTs : Option Datetime := none
  referencePrice : ℚ := 0
  ai500Score : ℚ := 0
  ai300LevelScore : ℚ := 0
  priceChange15m : ℚ := 0
  priceChange1h : ℚ := 0
  priceChange4h : ℚ := 0
  instFutureFlow15m : ℚ := 0
  instFutureFlow1h : ℚ := 0
  instFutureFlow4h : ℚ := 0
  retailFutureFlow1h : ℚ := 0
  oiBinance1h : ℚ := 0
  oiBybit1h : ℚ := 0
  fundingRate : ℚ := 0
  heatmapDelta : ℚ := 0
  queryRank : Option ℤ := none
  staleSeconds : ℚ := 0
  sourceLagSeconds : ℚ := 0
  trendScore : ℚ := 0
  flowScore : ℚ := 0
  oiScore : ℚ := 0
  crowdingScore : ℚ := 0
  sourceFreshness : ℚ := 1
  deriving DecidableEq

structure SignalCandidate where
  symbol : String
  regime : MarketRegime
  side : Side
  conviction : ℚ
  expectedEdgeBps : ℚ
  stopDistancePct : ℚ
  rationale : List String
  strategyName : String := "unknown"
  actionScore : ℚ := 0
  cluster : Option String := none
  leverageBracketCap : Option ℚ := none
  deriving DecidableEq

structure AccountSnapshot where
  equity : ℚ
  dailyDrawdownPct : ℚ
  weeklyDrawdownPct : ℚ
  grossExposure : ℚ
  openPositions : ℤ
  userStreamStaleSeconds : ℚ := 0
  stateMismatch : Bool := false
  reconcileFailures : ℤ := 0
  killSwitchActive : Bool := false
  symbolGrossExposures : OrderedDict String ℚ := .empty
  deriving DecidableEq

structure OrderRequest where
  symbol : String
  side : Side
  orderType : OrderType
  quantity : Option ℚ := none
  price : Option ℚ := none
  triggerPrice : Option ℚ := none
  timeInForce : Option TimeInForce := none
  reduceOnly : Bool := false
  closePosition : Bool := false
  positionSide : String := "BOTH"
  clientOrderId : Option String := none
  workingType : Option String := none
  priceProtect : Bool := false
  selfTradePreventionMode : Option String := none
  newOrderRespType : Option String := none
  activatePrice : Option ℚ := none
  callbackRate : Option ℚ := none
  deriving DecidableEq

structure OrderResponse where
  venueOrderId : Option String
  route : String
  status : String
  raw : PyValue

structure RiskDecision where
  status : RiskDecisionStatus
  reason : String
  symbolTier : Option SymbolTier := none
  approvedNotional : ℚ := 0
  approvedLeverage : ℚ := 0
  riskBudgetBps : ℚ := 0
  deriving DecidableEq

structure TradeDecision where
  decisionId : String
  status : DecisionStatus
  symbol : String
  regime : MarketRegime
  side : Option Side
  rationale : List String
  risk : Option RiskDecision := none
  actionScore : ℚ := 0
  selectedStrategy : Option String := none
  deriving DecidableEq

def TradeDecision.execute (decisionId symbol : String) (regime : MarketRegime) (side : Side)
    (rationale : List String) (risk : RiskDecision) (actionScore : ℚ)
    (selectedStrategy : Option String) : TradeDecision :=
  { decisionId, status := .execute, symbol, regime, side := some side, rationale,
    risk := some risk, actionScore, selectedStrategy }

def TradeDecision.noTrade (decisionId symbol : String) (regime : MarketRegime)
    (rationale : List String) : TradeDecision :=
  { decisionId, status := .noTrade, symbol, regime, side := none, rationale }

/-- `client_order_id` is stored as the payload gave it, so it may be any value. -/
structure OrderState where
  symbol : String
  status : OrderLifecycleStatus
  side : Side
  positionSide : String := "BOTH"
  orderId : Option String := none
  clientOrderId : PyValue := .none
  algoOrderId : Option String := none
  orderType : Option OrderType := none
  price : Option ℚ := none
  avgPrice : Option ℚ := none
  origQty : Option ℚ := none
  executedQty : ℚ := 0
  reduceOnly : Bool := false
  closePosition : Bool := false
  isAlgo : Bool := false
  createdAt : Datetime
  updatedAt : Datetime

/-- The first truthy identifier, algo id before order id before client id. -/
def OrderState.identity (order : OrderState) : Except PyError String :=
  if (ofOptional order.algoOrderId).truthy then .ok ("algo:" ++ (ofOptional order.algoOrderId).toStr)
  else if (ofOptional order.orderId).truthy then .ok ("order:" ++ (ofOptional order.orderId).toStr)
  else if order.clientOrderId.truthy then .ok ("client:" ++ order.clientOrderId.toStr)
  else .error ⟨.valueError, "order state requires at least one identifier"⟩

def OrderState.isOpen (order : OrderState) : Bool :=
  order.status = .new ∨ order.status = .partiallyFilled ∨ order.status = .triggered

structure BalanceState where
  asset : String
  walletBalance : ℚ := 0
  availableBalance : ℚ := 0
  crossWalletBalance : ℚ := 0
  updatedAt : Datetime
  deriving DecidableEq

structure PositionState where
  symbol : String
  positionSide : String := "BOTH"
  direction : PositionDirection := .flat
  quantity : ℚ := 0
  entryPrice : ℚ := 0
  markPrice : ℚ := 0
  notional : ℚ := 0
  unrealizedPnl : ℚ := 0
  leverage : ℤ := 1
  marginType : String := "cross"
  isolatedWallet : ℚ := 0
  updatedAt : Datetime
  deriving DecidableEq

def PositionState.key (position : PositionState) : String × String :=
  (position.symbol, position.positionSide)

def PositionState.isOpen (position : PositionState) : Bool := position.quantity ≠ 0

def PositionState.grossNotional (position : PositionState) : ℚ :=
  if position.notional ≠ 0 then |position.notional|
  else
    let referencePrice := if position.markPrice ≠ 0 then position.markPrice else position.entryPrice
    |position.quantity * referencePrice|

end Records

section Objects

/-- No reference dangles in the program; the model has to say what one would do. -/
def fetchObject {ω : Type} (heap : ObjectHeap ω) (ref : ℕ) : Except PyError ω :=
  match heap.read ref with
  | some object => .ok object
  | none => .error ⟨.runtimeError, "dangling reference"⟩

theorem fetchObject_of_read {ω : Type} {heap : ObjectHeap ω} {ref : ℕ} {object : ω}
    (stored : heap.read ref = some object) : fetchObject heap ref = .ok object := by
  simp only [fetchObject, stored]

end Objects

structure AccountState where
  balances : OrderedDict String BalanceState := .empty
  positions : OrderedDict (String × String) PositionState := .empty
  orders : OrderedDict String OrderState := .empty
  lastUserStreamEventAt : Option Datetime := none
  lastReconciledAt : Option Datetime := none
  stateMismatchCount : ℕ := 0
  reconcileFailureCount : ℕ := 0
  lastMismatchReason : Option String := none
  lastReconcileError : Option String := none
  killSwitchActive : Bool := false
  lastKillSwitchReason : Option String := none

namespace AccountState

section Counters

def recordUserStreamEvent (state : AccountState) (eventTime : Datetime) : AccountState :=
  { state with lastUserStreamEventAt := some eventTime }

def markReconciled (state : AccountState) (reconciledAt : Datetime) : AccountState :=
  { state with lastReconciledAt := some reconciledAt }

def activateKillSwitch (state : AccountState) (reason : String) : AccountState :=
  { state with killSwitchActive := true, lastKillSwitchReason := some reason }

def recordStateMismatch (state : AccountState) (reason : String) (threshold : ℕ := 2) : AccountState :=
  let counted := { state with
    stateMismatchCount := state.stateMismatchCount + 1, lastMismatchReason := some reason }
  if threshold ≤ counted.stateMismatchCount then counted.activateKillSwitch reason else counted

def clearStateMismatch (state : AccountState) : AccountState :=
  { state with stateMismatchCount := 0, lastMismatchReason := none }

def recordReconcileFailure (state : AccountState) (reason : String) (threshold : ℕ := 2) :
    AccountState :=
  let counted := { state with
    reconcileFailureCount := state.reconcileFailureCount + 1, lastReconcileError := some reason }
  if threshold ≤ counted.reconcileFailureCount then counted.activateKillSwitch reason else counted

def clearReconcileFailure (state : AccountState) : AccountState :=
  { state with reconcileFailureCount := 0, lastReconcileError := none }

end Counters

section Maps

def upsertBalance (state : AccountState) (balance : BalanceState) : AccountState :=
  { state with balances := state.balances.set balance.asset balance }

def upsertPosition (state : AccountState) (position : PositionState) : AccountState :=
  { state with positions := state.positions.set position.key position }

def upsertOrder (state : AccountState) (order : OrderState) : Except PyError AccountState :=
  order.identity.map fun identity => { state with orders := state.orders.set identity order }

def balanceMap (balances : List BalanceState) : OrderedDict String BalanceState :=
  .ofList (balances.map fun balance => (balance.asset, balance))

def positionMap (positions : List PositionState) : OrderedDict (String × String) PositionState :=
  .ofList (positions.map fun position => (position.key, position))

/-- The comprehension over the orders; the first order without an id raises. -/
def orderMap (orders : List OrderState) : Except PyError (OrderedDict String OrderState) :=
  (orders.mapM fun (order : OrderState) =>
    order.identity.map fun identity => (identity, order)).map .ofList

def replaceBalances (state : AccountState) (balances : List BalanceState) : AccountState :=
  { state with balances := balanceMap balances }

def replacePositions (state : AccountState) (positions : List PositionState) : AccountState :=
  { state with positions := positionMap positions }

def replaceOrders (state : AccountState) (orders : List OrderState) : Except PyError AccountState :=
  (orderMap orders).map fun map => { state with orders := map }

end Maps

section Folds

def totalWalletBalance (state : AccountState) : ℚ :=
  state.balances.total BalanceState.walletBalance

def totalUnrealizedPnl (state : AccountState) : ℚ :=
  state.positions.total fun position => if position.isOpen then position.unrealizedPnl else 0

def totalEquity (state : AccountState) : ℚ := state.totalWalletBalance + state.totalUnrealizedPnl

def grossNotional (state : AccountState) : ℚ :=
  state.positions.total fun position => if position.isOpen then position.grossNotional else 0

def openPositionCount (state : AccountState) : ℤ :=
  state.positions.total fun position => if position.isOpen then 1 else 0

def symbolNotionals (state : AccountState) : OrderedDict String ℚ :=
  state.positions.values.foldl (fun notionals position =>
    if position.isOpen then
      notionals.set position.symbol (notionals.getD position.symbol 0 + position.grossNotional)
    else notionals) .empty

def symbolGrossExposures (state : AccountState) : OrderedDict String ℚ :=
  if state.totalEquity ≤ 0 then .empty
  else state.symbolNotionals.mapValues fun notional => notional / state.totalEquity

def userStreamStaleSeconds (state : AccountState) (now : Datetime) : ℚ :=
  match state.lastUserStreamEventAt with
  | none => 0
  | some eventTime => max (totalSeconds now eventTime) 0

def toSnapshot (state : AccountState) (now : Datetime) (dailyDrawdownPct : ℚ := 0)
    (weeklyDrawdownPct : ℚ := 0) : AccountSnapshot where
  equity := state.totalEquity
  dailyDrawdownPct := dailyDrawdownPct
  weeklyDrawdownPct := weeklyDrawdownPct
  grossExposure := if 0 < state.totalEquity then state.grossNotional / state.totalEquity else 0
  openPositions := state.openPositionCount
  userStreamStaleSeconds := state.userStreamStaleSeconds now
  stateMismatch := 0 < state.stateMismatchCount
  reconcileFailures := state.reconcileFailureCount
  killSwitchActive := state.killSwitchActive
  symbolGrossExposures := state.symbolGrossExposures

end Folds

end AccountState

end CatsPy
