import CatsPy.DomainModels
import CatsPy.StateRuns

/-!
# User stream

The decoders shared by every Binance payload and the handler that applies
private-stream events to the account state. An event that raises leaves the
rows before the bad one applied.
-/
namespace CatsPy
open PythonValues StateRuns

section Decoders

/-- `_to_datetime`; the clock is read only for a missing value. -/
def toDatetime (value : PyValue) (now : Datetime) : Except PyError Datetime :=
  match value with
  | .none => .ok now
  | value => do
      let timestamp ← toFloat value
      fromTimestamp (if 1000000000000 < timestamp then timestamp / 1000 else timestamp)

/-- `_to_decimal`: a missing or empty value is zero. -/
def toDecimalOrZero (value : PyValue) : Except PyError ℚ :=
  match value with
  | .none => .ok 0
  | .str "" => .ok 0
  | value => toDecimal value

def toBool (value : PyValue) : Bool :=
  match value with
  | .bool b => b
  | .str s => s.toLower = "true" ∨ s.toLower = "1" ∨ s.toLower = "yes"
  | value => value.truthy

def parseSide (value : PyValue) : Side :=
  match value with
  | .str "SELL" => .sell
  | _ => .buy

def orderTypes : List OrderType :=
  [.limit, .market, .stop, .stopMarket, .takeProfit, .takeProfitMarket, .trailingStopMarket]

def parseOrderType (value : PyValue) : Option OrderType :=
  match value with
  | .str s => orderTypes.find? fun orderType => orderType.value = s
  | _ => none

def orderStatuses : List OrderLifecycleStatus :=
  [.new, .partiallyFilled, .filled, .canceled, .expired, .rejected, .triggered, .unknown]

def parseOrderStatus (value : PyValue) : OrderLifecycleStatus :=
  match value with
  | .str s => (orderStatuses.find? fun status => status.value = s).getD .unknown
  | _ => .unknown

def parsePositionDirection (quantity : ℚ) : PositionDirection :=
  if 0 < quantity then .long else if quantity < 0 then .short else .flat

/-- `int(str(value or 1))`. -/
def parseLeverage (value : PyValue) : Except PyError ℤ := intOfText (value.or (.int 1)).toStr

/-- `str(value) if value is not None else None`. -/
def optionalText (value : PyValue) : Option String :=
  match value with
  | .none => none
  | value => some value.toStr

/-- `item.get(first) or item.get(second)`. -/
def eitherItem (item : PyValue) (first second : String) : PyValue :=
  (item.item first).or (item.item second)

def positionSideOf (value : PyValue) : String := (value.or (.str "BOTH")).toStr

/-- The items of a `for` loop over a decoded value. -/
def iterate (value : PyValue) : Except PyError (List PyValue) :=
  match value with
  | .list items => .ok items
  | .dict entries => .ok (entries.map fun entry => .str entry.1)
  | .str s => .ok (s.toList.map fun c => .str c.toString)
  | value => .error ⟨.typeError, "'" ++ typeName value ++ "' object is not iterable"⟩

end Decoders

namespace BinanceUserEventHandler

def eventType (payload : PyValue) : String :=
  match eitherItem payload "e" "eventType" with
  | .none => "UNKNOWN"
  | value => value.toStr

section AccountUpdate

def balanceOf (item : PyValue) (asset : String) (eventTime : Datetime) : Except PyError BalanceState := do
  let crossWallet := eitherItem item "cw" "crossWalletBalance"
  let walletBalance ← toDecimalOrZero (eitherItem item "wb" "walletBalance")
  let availableBalance ← toDecimalOrZero ((eitherItem item "ab" "availableBalance").or crossWallet)
  let crossWalletBalance ← toDecimalOrZero crossWallet
  return { asset, walletBalance, availableBalance, crossWalletBalance, updatedAt := eventTime }

/-- A row that is not a dict, or whose asset is not a string, is skipped. -/
def applyBalanceRow (eventTime : Datetime) (state : AccountState) (item : PyValue) :
    Except (AccountState × PyError) AccountState :=
  if !isDict item then .ok state
  else match asText (eitherItem item "a" "asset") with
    | none => .ok state
    | some asset => do
        let balance ← raiseFrom state (balanceOf item asset eventTime)
        return state.upsertBalance balance

def positionOf (item : PyValue) (symbol : String) (eventTime : Datetime) :
    Except PyError PositionState := do
  let quantity ← toDecimalOrZero (eitherItem item "pa" "positionAmt")
  let entryPrice ← toDecimalOrZero (eitherItem item "ep" "entryPrice")
  let markPrice ← toDecimalOrZero (eitherItem item "mp" "markPrice")
  let notional ← toDecimalOrZero (item.item "notional")
  let unrealizedPnl ← toDecimalOrZero (eitherItem item "up" "unRealizedProfit")
  let leverage ← parseLeverage (eitherItem item "l" "leverage")
  let isolatedWallet ← toDecimalOrZero (eitherItem item "iw" "isolatedWallet")
  return { symbol, positionSide := positionSideOf (eitherItem item "ps" "positionSide"),
           direction := parsePositionDirection quantity, quantity, entryPrice, markPrice, notional,
           unrealizedPnl, leverage,
           marginType := ((eitherItem item "mt" "marginType").or (.str "cross")).toStr,
           isolatedWallet, updatedAt := eventTime }

def applyPositionRow (eventTime : Datetime) (state : AccountState) (item : PyValue) :
    Except (AccountState × PyError) AccountState :=
  if !isDict item then .ok state
  else match asText (eitherItem item "s" "symbol") with
    | none => .ok state
    | some symbol => do
        let position ← raiseFrom state (positionOf item symbol eventTime)
        return state.upsertPosition position

/-- `account.get(first) or account.get(second) or []`, iterated. -/
def accountRows (account : PyValue) (first second : String) : Except PyError (List PyValue) := do
  let rows ← account.get first
  iterate ((rows.or (account.item second)).or (.list []))

def applyAccountUpdate (state : AccountState) (payload : PyValue) (eventTime : Datetime) :
    Except (AccountState × PyError) AccountState := do
  let account := (eitherItem payload "a" "account").or (.dict [])
  let balances ← raiseFrom state (accountRows account "B" "balances")
  let balanced ← balances.foldlM (applyBalanceRow eventTime) state
  let positions ← raiseFrom balanced (accountRows account "P" "positions")
  positions.foldlM (applyPositionRow eventTime) balanced

end AccountUpdate

section OrderUpdates

/-- The fields an order event and an algo event share. -/
def orderOf (order : PyValue) (symbol : String) (status : OrderLifecycleStatus)
    (orderId algoOrderId : Option String) (clientOrderId orderType : PyValue) (isAlgo : Bool)
    (eventTime : Datetime) : Except PyError OrderState := do
  let price ← toDecimalOrZero (eitherItem order "p" "price")
  let avgPrice ← toDecimalOrZero (eitherItem order "ap" "avgPrice")
  let origQty ← toDecimalOrZero (eitherItem order "q" "origQty")
  let executedQty ← toDecimalOrZero (eitherItem order "z" "executedQty")
  return { symbol, status, side := parseSide (eitherItem order "S" "side"),
           positionSide := positionSideOf (eitherItem order "ps" "positionSide"),
           orderId, clientOrderId, algoOrderId, orderType := parseOrderType orderType,
           price := some price, avgPrice := some avgPrice, origQty := some origQty, executedQty,
           reduceOnly := toBool (eitherItem order "R" "reduceOnly"),
           closePosition := toBool (eitherItem order "cp" "closePosition"),
           isAlgo, createdAt := eventTime, updatedAt := eventTime }

/-- The ids are taken over as they are read. -/
theorem orderOf_ids {order : PyValue} {symbol : String} {status : OrderLifecycleStatus}
    {orderId algoOrderId : Option String} {clientOrderId orderType : PyValue} {isAlgo : Bool}
    {eventTime : Datetime} {decoded : OrderState}
    (parsed : orderOf order symbol status orderId algoOrderId clientOrderId orderType isAlgo eventTime =
      .ok decoded) :
    decoded.algoOrderId = algoOrderId ∧ decoded.orderId = orderId ∧ decoded.clientOrderId = clientOrderId ∧
      decoded.isAlgo = isAlgo := by
  unfold orderOf at parsed
  obtain ⟨price, -, parsed⟩ := bind_ok parsed
  obtain ⟨avgPrice, -, parsed⟩ := bind_ok parsed
  obtain ⟨origQty, -, parsed⟩ := bind_ok parsed
  obtain ⟨executedQty, -, parsed⟩ := bind_ok parsed
  cases parsed
  exact ⟨rfl, rfl, rfl, rfl⟩

def tradeOrder (order : PyValue) (symbol : String) (eventTime : Datetime) : Except PyError OrderState :=
  orderOf order symbol (parseOrderStatus (eitherItem order "X" "status"))
    (optionalText (eitherItem order "i" "orderId")) none (eitherItem order "c" "clientOrderId")
    (eitherItem order "o" "type") false eventTime

def algoOrder (order : PyValue) (symbol : String) (eventTime : Datetime) : Except PyError OrderState :=
  orderOf order symbol
    (parseOrderStatus ((eitherItem order "X" "status").or (order.item "algoStatus")))
    none (optionalText ((eitherItem order "ai" "algoId").or (order.item "algoOrderId")))
    (eitherItem order "c" "clientAlgoId") (eitherItem order "ot" "type") true eventTime

/-- Store the decoded order; an order that is no dict or names no symbol is ignored. -/
def applyOrder (decode : PyValue → String → Datetime → Except PyError OrderState) (state : AccountState)
    (order : PyValue) (eventTime : Datetime) : Except (AccountState × PyError) AccountState :=
  if !isDict order then .ok state
  else match asText (eitherItem order "s" "symbol") with
    | none => .ok state
    | some symbol => do
        let decoded ← raiseFrom state (decode order symbol eventTime)
        raiseFrom state (state.upsertOrder decoded)

def applyOrderTradeUpdate (state : AccountState) (payload : PyValue) (eventTime : Datetime) :
    Except (AccountState × PyError) AccountState :=
  applyOrder tradeOrder state ((eitherItem payload "o" "order").or (.dict [])) eventTime

def applyAlgoUpdate (state : AccountState) (payload : PyValue) (eventTime : Datetime) :
    Except (AccountState × PyError) AccountState :=
  applyOrder algoOrder state
    (((eitherItem payload "ao" "o").or (payload.item "algoOrder")).or (.dict [])) eventTime

end OrderUpdates

/-- `apply(payload)`: stamp the event time, then dispatch on the event type. -/
def apply (state : AccountState) (payload : PyValue) (now : Datetime) :
    Except (AccountState × PyError) AccountState := do
  let first ← raiseFrom state (payload.get "E")
  let eventTime ← raiseFrom state
    (toDatetime ((first.or (payload.item "eventTime")).or (payload.item "T")) now)
  let stamped := state.recordUserStreamEvent eventTime
  if eventType payload = "ACCOUNT_UPDATE" then applyAccountUpdate stamped payload eventTime
  else if eventType payload = "ORDER_TRADE_UPDATE" then applyOrderTradeUpdate stamped payload eventTime
  else if eventType payload = "ALGO_UPDATE" then applyAlgoUpdate stamped payload eventTime
  else return stamped

section Preservation

variable {P : AccountState → Prop}

theorem applyBalanceRow_preserves (balance : ∀ state b, P state → P (state.upsertBalance b))
    (eventTime : Datetime) (state : AccountState) (item : PyValue) (start : P state) :
    P (final (applyBalanceRow eventTime state item)) := by
  unfold applyBalanceRow
  split
  · exact start
  · split
    · exact start
    · next asset _ =>
      cases balanceOf item asset eventTime with
      | error error => exact start
      | ok b => exact balance state b start

theorem applyPositionRow_preserves (position : ∀ state p, P state → P (state.upsertPosition p))
    (eventTime : Datetime) (state : AccountState) (item : PyValue) (start : P state) :
    P (final (applyPositionRow eventTime state item)) := by
  unfold applyPositionRow
  split
  · exact start
  · split
    · exact start
    · next symbol _ =>
      cases positionOf item symbol eventTime with
      | error error => exact start
      | ok p => exact position state p start

/-- What upserting balances and positions keeps, an account update keeps. -/
theorem applyAccountUpdate_preserves (balance : ∀ state b, P state → P (state.upsertBalance b))
    (position : ∀ state p, P state → P (state.upsertPosition p)) (state : AccountState)
    (payload : PyValue) (eventTime : Datetime) (start : P state) :
    P (final (applyAccountUpdate state payload eventTime)) := by
  unfold applyAccountUpdate
  simp only
  cases accountRows ((eitherItem payload "a" "account").or (.dict [])) "B" "balances" with
  | error error => exact start
  | ok balances =>
      have balanced : P (final (balances.foldlM (applyBalanceRow eventTime) state)) :=
        foldlM_invariant P (applyBalanceRow_preserves balance eventTime) state balances start
      apply final_bind (P := P)
      · intro left error raised
        rwa [raised] at balanced
      · intro next returned
        rw [returned] at balanced
        cases accountRows ((eitherItem payload "a" "account").or (.dict [])) "P" "positions" with
        | error error => exact balanced
        | ok positions =>
            exact foldlM_invariant P (applyPositionRow_preserves position eventTime) next positions balanced

theorem applyOrder_preserves (order : ∀ state o next, state.upsertOrder o = .ok next → P state → P next)
    (decode : PyValue → String → Datetime → Except PyError OrderState) (state : AccountState)
    (item : PyValue) (eventTime : Datetime) (start : P state) :
    P (final (applyOrder decode state item eventTime)) := by
  unfold applyOrder
  split
  · exact start
  · split
    · exact start
    · next symbol _ =>
      cases decode item symbol eventTime with
      | error error => exact start
      | ok decoded =>
          change P (final (raiseFrom state (state.upsertOrder decoded)))
          cases stored : state.upsertOrder decoded with
          | error error => exact start
          | ok next => exact order state decoded next stored start

/-- What stamping and the three upserts keep, every event keeps. -/
theorem apply_preserves (stamped : ∀ state t, P state → P (state.recordUserStreamEvent t))
    (balance : ∀ state b, P state → P (state.upsertBalance b))
    (position : ∀ state p, P state → P (state.upsertPosition p))
    (order : ∀ state o next, state.upsertOrder o = .ok next → P state → P next)
    (state : AccountState) (payload : PyValue) (now : Datetime) (start : P state) :
    P (final (apply state payload now)) := by
  unfold apply
  cases payload.get "E" with
  | error error => exact start
  | ok first =>
      change P (final (raiseFrom state (toDatetime ((first.or (payload.item "eventTime")).or
        (payload.item "T")) now) >>= _))
      cases toDatetime ((first.or (payload.item "eventTime")).or (payload.item "T")) now with
      | error error => exact start
      | ok eventTime =>
          have here := stamped state eventTime start
          simp only [raiseFrom, Except.mapError, bind, Except.bind]
          split
          · exact applyAccountUpdate_preserves balance position _ payload eventTime here
          · split
            · exact applyOrder_preserves order tradeOrder _ _ eventTime here
            · split
              · exact applyOrder_preserves order algoOrder _ _ eventTime here
              · exact here

end Preservation

end BinanceUserEventHandler

end CatsPy
