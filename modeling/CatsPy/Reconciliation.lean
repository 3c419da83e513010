import CatsPy.UserStream
import Mathlib.Data.List.Sort
import Mathlib.Data.Prod.Lex
import Mathlib.Data.String.Basic
import Mathlib.Order.WithBot

/-!
# Reconciliation

Three REST reads are parsed, compared with the incremental state and committed
map by map. Each read is the response or the exception the client raised.
-/
namespace CatsPy
open PythonValues StateRuns

structure ReconcileReads where
  accountInfo : Except PyError PyValue
  positionRisk : Except PyError PyValue
  openOrders : Except PyError PyValue

/-- The clock readings of the three parsers and of the commit. -/
structure ReconcileClock where
  balancesAt : Datetime
  positionsAt : Datetime
  ordersAt : Datetime
  markedAt : Datetime

structure ParsedSnapshot where
  balances : List BalanceState
  positions : List PositionState
  orders : List OrderState

namespace AccountReconciler

section Parsing

/-- `payload.get("data", payload)`. -/
def dataOf (payload : PyValue) : Except PyError PyValue := payload.get "data" payload

/-- A parsing loop: a row is skipped, kept, or raises. -/
def collectRows {α : Type} (row : PyValue → Except PyError (Option α)) :
    List PyValue → Except PyError (List α)
  | [] => .ok []
  | item :: rest => do
      let first ← row item
      let later ← collectRows row rest
      return first.toList ++ later

/-- Rows that are not dicts, or whose key field is not a string, are skipped. -/
def keyedRow {α : Type} (key : String) (parse : PyValue → String → Except PyError α) (item : PyValue) :
    Except PyError (Option α) :=
  if !isDict item then .ok none
  else match asText (item.item key) with
    | none => .ok none
    | some text => (parse item text).map some

/-- Anything but a list counts as no rows. -/
def parseRows {α : Type} (key : String) (parse : PyValue → String → Except PyError α)
    (rows : PyValue) : Except PyError (List α) :=
  match rows with
  | .list items => collectRows (keyedRow key parse) items
  | _ => .ok []

def parseBalance (reconciledAt : Datetime) (item : PyValue) (asset : String) :
    Except PyError BalanceState := do
  let walletBalance ← toDecimalOrZero (item.item "walletBalance")
  let availableBalance ← toDecimalOrZero (item.item "availableBalance")
  let crossWalletBalance ← toDecimalOrZero (item.item "crossWalletBalance")
  return { asset, walletBalance, availableBalance, crossWalletBalance, updatedAt := reconciledAt }

def parseBalances (accountInfo : PyValue) (reconciledAt : Datetime) :
    Except PyError (List BalanceState) := do
  let account ← dataOf accountInfo
  let assets ← account.get "assets" (.list [])
  parseRows "asset" (parseBalance reconciledAt) assets

/-- The last risk row of each symbol and side. -/
def riskMap (rows : PyValue) : OrderedDict (String × String) PyValue :=
  match rows with
  | .list items => .ofList (items.filterMap fun item =>
      if !isDict item then none
      else (asText (item.item "symbol")).map fun symbol =>
        ((symbol, positionSideOf (item.item "positionSide")), item))
  | _ => .empty

def parsePosition (risk : OrderedDict (String × String) PyValue) (reconciledAt : Datetime)
    (item : PyValue) (symbol : String) : Except PyError PositionState := do
  let positionSide := positionSideOf (item.item "positionSide")
  let riskItem := risk.getD (symbol, positionSide) (.dict [])
  let quantity ← toDecimalOrZero (item.item "positionAmt")
  let entryPrice ← toDecimalOrZero (item.item "entryPrice")
  let markPrice ← toDecimalOrZero (riskItem.item "markPrice")
  let notional ← toDecimalOrZero (riskItem.item "notional")
  let unrealizedPnl ← toDecimalOrZero (item.item "unrealizedProfit")
  let leverage ← parseLeverage (item.item "leverage")
  let isolatedWallet ← toDecimalOrZero (item.item "isolatedWallet")
  return { symbol, positionSide, direction := parsePositionDirection quantity, quantity, entryPrice,
           markPrice, notional, unrealizedPnl, leverage,
           marginType := ((item.item "marginType").or (.str "cross")).toStr, isolatedWallet,
           updatedAt := reconciledAt }

def parsePositions (accountInfo positionRisk : PyValue) (reconciledAt : Datetime) :
    Except PyError (List PositionState) := do
  let account ← dataOf accountInfo
  let positions ← account.get "positions" (.list [])
  match positions with
  | .list _ => do
      let riskRows ← dataOf positionRisk
      parseRows "symbol" (parsePosition (riskMap riskRows) reconciledAt) positions
  | _ => return []

/-- `_to_datetime(value or reconciled_at)`. -/
def datetimeOr (value : PyValue) (reconciledAt : Datetime) : Except PyError Datetime :=
  if value.truthy then toDatetime value reconciledAt else .ok reconciledAt

/-- Every order of the snapshot is recorded as a plain order. -/
def parseOrder (reconciledAt : Datetime) (item : PyValue) (symbol : String) :
    Except PyError OrderState := do
  let price ← toDecimalOrZero (item.item "price")
  let avgPrice ← toDecimalOrZero (item.item "avgPrice")
  let origQty ← toDecimalOrZero (item.item "origQty")
  let executedQty ← toDecimalOrZero (item.item "executedQty")
  let createdAt ← datetimeOr (item.item "time") reconciledAt
  let updatedAt ← datetimeOr (item.item "updateTime") reconciledAt
  return { symbol, status := parseOrderStatus (item.item "status"),
           side := parseSide (item.item "side"),
           positionSide := positionSideOf (item.item "positionSide"),
           orderId := optionalText (item.item "orderId"), clientOrderId := item.item "clientOrderId",
           orderType := parseOrderType (item.item "type"), price := some price,
           avgPrice := some avgPrice, origQty := some origQty, executedQty,
           reduceOnly := toBool (item.item "reduceOnly"),
           closePosition := toBool (item.item "closePosition"), isAlgo := false, createdAt, updatedAt }

def parseOrders (openOrders : PyValue) (reconciledAt : Datetime) : Except PyError (List OrderState) := do
  let rows ← dataOf openOrders
  parseRows "symbol" (parseOrder reconciledAt) rows

/-- The three reads, then the three parsers. -/
def readSnapshot (reads : ReconcileReads) (clock : ReconcileClock) : Except PyError ParsedSnapshot := do
  let accountInfo ← reads.accountInfo
  let positionRisk ← reads.positionRisk
  let openOrders ← reads.openOrders
  let balances ← parseBalances accountInfo clock.balancesAt
  let positions ← parsePositions accountInfo positionRisk clock.positionsAt
  let orders ← parseOrders openOrders clock.ordersAt
  return { balances, positions, orders }

end Parsing

section Comparison

def sorted {α : Type} [LinearOrder α] (rows : List α) : List α := rows.insertionSort (· ≤ ·)

abbrev BalanceRow := String ×ₗ ℚ ×ₗ ℚ ×ₗ ℚ

def balanceRow (asset : String) (state : BalanceState) : BalanceRow :=
  toLex (asset, toLex (state.walletBalance, toLex (state.availableBalance, state.crossWalletBalance)))

def balancesDiffer (state : AccountState) (balances : List BalanceState) : Bool :=
  sorted (state.balances.entries.map fun entry => balanceRow entry.1 entry.2) ≠
    sorted (balances.map fun balance => balanceRow balance.asset balance)

abbrev PositionRow := String ×ₗ String ×ₗ ℚ ×ₗ ℚ ×ₗ ℚ ×ₗ ℚ ×ₗ ℚ

def positionRow (key : String × String) (state : PositionState) : PositionRow :=
  toLex (key.1, toLex (key.2, toLex (state.quantity, toLex (state.entryPrice, toLex (state.markPrice,
    toLex (state.notional, state.unrealizedPnl))))))

def positionsDiffer (state : AccountState) (positions : List PositionState) : Bool :=
  sorted (state.positions.entries.map fun entry => positionRow entry.1 entry.2) ≠
    sorted (positions.map fun position => positionRow position.key position)

/-- A missing decimal is only ever compared for equality: the stored keys are distinct. -/
abbrev OrderRow := String ×ₗ String ×ₗ ℚ ×ₗ WithBot ℚ ×ₗ WithBot ℚ ×ₗ WithBot ℚ

def orderRow (identity : String) (state : OrderState) : OrderRow :=
  toLex (identity, toLex (state.status.value, toLex (state.executedQty, toLex (state.origQty,
    toLex (state.price, state.avgPrice)))))

/-- The comparison stops at the first map that differs; only the last one asks
the snapshot's orders for their identity. -/
def isMismatch (state : AccountState) (snapshot : ParsedSnapshot) : Except PyError Bool :=
  if balancesDiffer state snapshot.balances then .ok true
  else if positionsDiffer state snapshot.positions then .ok true
  else do
    let next ← snapshot.orders.mapM fun (order : OrderState) =>
      order.identity.map fun identity => orderRow identity order
    return sorted (state.orders.entries.map fun entry => orderRow entry.1 entry.2) ≠ sorted next

def hasExistingState (state : AccountState) : Bool :=
  !state.balances.isEmpty || !state.positions.isEmpty || !state.orders.isEmpty

end Comparison

section Commit

def mismatchReason : String := "incremental state diverged from reconciliation snapshot"

/-- The counter update that precedes the commit. -/
def countMismatch (state : AccountState) (snapshot : ParsedSnapshot) :
    Except (AccountState × PyError) AccountState := do
  let mismatch ← raiseFrom state
    (if hasExistingState state then isMismatch state snapshot else .ok false)
  return if mismatch then state.recordStateMismatch mismatchReason else state.clearStateMismatch

/-- Three successive replacements; the third one raises on an order without id. -/
def commit (state : AccountState) (snapshot : ParsedSnapshot) (now : Datetime) :
    Except (AccountState × PyError) AccountState := do
  let replaced := (state.replaceBalances snapshot.balances).replacePositions snapshot.positions
  let ordered ← raiseFrom replaced (replaced.replaceOrders snapshot.orders)
  return (ordered.markReconciled now).clearReconcileFailure

def attempt (state : AccountState) (reads : ReconcileReads) (clock : ReconcileClock) :
    Except (AccountState × PyError) AccountState := do
  let snapshot ← raiseFrom state (readSnapshot reads clock)
  let counted ← countMismatch state snapshot
  commit counted snapshot clock.markedAt

/-- `reconcile()`: any exception is counted on the state it left, then raised again. -/
def reconcile (state : AccountState) (reads : ReconcileReads) (clock : ReconcileClock) :
    AccountState × Except PyError Unit :=
  match attempt state reads clock with
  | .ok after => (after, .ok ())
  | .error (left, error) => (left.recordReconcileFailure error.message, .error error)

end Commit

end AccountReconciler

end CatsPy
