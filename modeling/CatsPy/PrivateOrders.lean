import CatsPy.AccountUpdates
import CatsPy.PositionProtection

/-!
# Private orders

The gateway looks up the order an algo update just stored. Writing and reading
build their keys from different fields; the order is found again exactly when
the two agree.
-/
namespace CatsPy
open PythonValues StateRuns

section Gateway

/-- The order object of an algo message. -/
def algoItem (message : PyValue) : PyValue := (eitherItem message "ao" "o").or (message.item "algoOrder")

def algoOrderIdOf (item : PyValue) : PyValue := (eitherItem item "ai" "algoId").or (item.item "algoOrderId")

def orderIdOf (item : PyValue) : PyValue := eitherItem item "i" "orderId"

def clientOrderIdOf (item : PyValue) : PyValue :=
  (eitherItem item "c" "clientOrderId").or (item.item "clientAlgoId")

/-- The order stored under an id, where the message carries the id. -/
def AccountState.orderUnder (state : AccountState) (kind : String) (id : PyValue) : Option OrderState :=
  (optionalText id).bind fun text => state.orders.get? (kind ++ text)

/-- `_resolve_private_order`. -/
def resolvePrivateOrder (state : AccountState) (message : PyValue) : Option OrderState :=
  let item := algoItem message
  if !isDict item then none
  else match state.orderUnder "algo:" (algoOrderIdOf item) with
    | some order => some order
    | none =>
        match state.orderUnder "order:" (orderIdOf item) with
        | some order => some order
        | none => state.orderUnder "client:" (clientOrderIdOf item)

/-- `_collect_guardian_alerts`, after the message was applied. -/
def collectGuardianAlerts (guardian : Option PositionGuardian) (state : AccountState) (eventType : String)
    (message : PyValue) : AccountState × List ProtectionAlert :=
  match guardian with
  | none => (state, [])
  | some _ =>
      let (checked, lost) := if eventType = "ALGO_UPDATE" then
          match resolvePrivateOrder state message with
          | none => (state, none)
          | some order => PositionGuardian.handleProtectionOrderUpdate state order
        else (state, none)
      let (scanned, missing) := PositionGuardian.findUnprotectedPositions checked
      (scanned, lost.toList ++ missing)

end Gateway

namespace BinanceUserEventHandler

section Storing

/-- The order an algo update stores, if it is not ignored. -/
def algoOrderOf (message : PyValue) (now : Datetime) : Except PyError (Option OrderState) := do
  let eventTime ← eventTimeOf message now
  let item := (algoItem message).or (.dict [])
  if !isDict item then return none
  else match asText (eitherItem item "s" "symbol") with
    | none => return none
    | some symbol => (algoOrder item symbol eventTime).map some

/-- The key of an order without order id. -/
theorem identity_of_algo {order : OrderState} {key : String} (plain : order.orderId = none)
    (identified : order.identity = .ok key) :
    (∃ text, order.algoOrderId = some text ∧ text ≠ "" ∧ key = "algo:" ++ text) ∨
      (∀ text ∈ order.algoOrderId, text = "") ∧ order.clientOrderId.truthy = true ∧
        key = "client:" ++ order.clientOrderId.toStr := by
  unfold OrderState.identity at identified
  split_ifs at identified with algo orderId client
  · cases known : order.algoOrderId with
    | none => simp [known, ofOptional, PyValue.truthy] at algo
    | some text =>
        rw [known] at algo identified
        cases identified
        exact .inl ⟨text, rfl, by simpa [ofOptional, PyValue.truthy] using algo, rfl⟩
  · simp [plain, ofOptional, PyValue.truthy] at orderId
  · cases identified
    refine .inr ⟨fun text known => ?_, client, rfl⟩
    rw [Option.mem_def.mp known] at algo
    simpa [ofOptional, PyValue.truthy] using algo

/-- What storing an algo order does to the orders, and under which ids. -/
structure StoredAlgo (state after : AccountState) (message : PyValue) (order : OrderState) (key : String) :
    Prop where
  item : isDict (algoItem message) = true
  identified : order.identity = .ok key
  orders : after.orders = state.orders.set key order
  algoOrderId : order.algoOrderId = optionalText (algoOrderIdOf (algoItem message))
  orderId : order.orderId = none
  clientOrderId : order.clientOrderId = eitherItem (algoItem message) "c" "clientAlgoId"
  isAlgo : order.isAlgo = true

variable {state after : AccountState} {message : PyValue} {now : Datetime} {order : OrderState}

/-- An item that names a symbol is the order object of the message itself. -/
theorem item_of_symbol {item : PyValue} {symbol : String}
    (named : asText (eitherItem (item.or (.dict [])) "s" "symbol") = some symbol) :
    item.or (.dict []) = item := by
  cases given : item.truthy with
  | true => simp only [PyValue.or, given, if_true]
  | false =>
      have empty : item.or (.dict []) = .dict [] := by simp [PyValue.or, given]
      rw [empty] at named
      cases named

theorem algoOrderOf_some (decoded : algoOrderOf message now = .ok (some order)) :
    ∃ eventTime symbol, eventTimeOf message now = .ok eventTime ∧
      (algoItem message).or (.dict []) = algoItem message ∧ isDict (algoItem message) = true ∧
      asText (eitherItem (algoItem message) "s" "symbol") = some symbol ∧
      algoOrder (algoItem message) symbol eventTime = .ok order := by
  obtain ⟨eventTime, timed, decoded⟩ := bind_ok decoded
  dsimp only at decoded
  split at decoded
  · cases decoded
  · next item =>
    split at decoded
    · cases decoded
    · next symbol named =>
      have own := item_of_symbol named
      rw [own] at decoded item named
      cases parsed : algoOrder (algoItem message) symbol eventTime with
      | error e =>
          rw [parsed] at decoded
          cases decoded
      | ok found =>
          rw [parsed] at decoded
          cases decoded
          exact ⟨eventTime, symbol, timed, own, by simpa using item, named, parsed⟩

theorem stored_of_accepted (kind : eventType message = "ALGO_UPDATE")
    (accepted : apply state message now = .ok after) (decoded : algoOrderOf message now = .ok (some order)) :
    ∃ key, StoredAlgo state after message order key := by
  obtain ⟨eventTime, symbol, timed, own, item, named, parsed⟩ := algoOrderOf_some decoded
  rw [apply_of_time timed, if_neg (by rw [kind]; decide), if_neg (by rw [kind]; decide), if_pos kind]
    at accepted
  change applyOrder algoOrder _ ((algoItem message).or (.dict [])) eventTime = _ at accepted
  rw [own, applyOrder, if_neg (by simp [item]), named] at accepted
  dsimp only at accepted
  rw [parsed] at accepted
  have upserted := raiseFrom_ok accepted
  obtain ⟨algoOrderId, orderId, clientOrderId, isAlgo⟩ := orderOf_ids parsed
  cases identified : order.identity with
  | error e =>
      rw [AccountState.upsertOrder, identified] at upserted
      cases upserted
  | ok key =>
      rw [AccountState.upsertOrder, identified] at upserted
      cases upserted
      exact ⟨key, item, identified, rfl, algoOrderId, orderId, clientOrderId, isAlgo⟩

end Storing

end BinanceUserEventHandler

section Finding
open BinanceUserEventHandler

/-- What the lookups ahead of the client id find. -/
def AccountState.foundAhead (state : AccountState) (item : PyValue) : Option OrderState :=
  (state.orderUnder "algo:" (algoOrderIdOf item)).or (state.orderUnder "order:" (orderIdOf item))

/-- The update carries an algo id; or no other order is found ahead of the client
id, and the client id is looked up as it was written. -/
def FoundBack (state : AccountState) (item : PyValue) (order : OrderState) : Prop :=
  (∃ text ∈ optionalText (algoOrderIdOf item), text ≠ "") ∨
    (∀ found ∈ state.foundAhead item, found = order) ∧
      (state.foundAhead item = none →
        (clientOrderIdOf item).toStr = (eitherItem item "c" "clientAlgoId").toStr ∨
          state.orderUnder "client:" (clientOrderIdOf item) = some order)

theorem resolvePrivateOrder_eq {state : AccountState} {message : PyValue}
    (item : isDict (algoItem message) = true) : resolvePrivateOrder state message =
      (state.foundAhead (algoItem message)).or
        (state.orderUnder "client:" (clientOrderIdOf (algoItem message))) := by
  simp only [resolvePrivateOrder, item, AccountState.foundAhead]
  cases state.orderUnder "algo:" (algoOrderIdOf (algoItem message)) with
  | some order => rfl
  | none => cases state.orderUnder "order:" (orderIdOf (algoItem message)) <;> rfl

theorem or_truthy (first second : PyValue) : (first.or second).truthy = (first.truthy || second.truthy) := by
  cases given : first.truthy <;> simp [PyValue.or, given]

theorem optionalText_of_truthy {value : PyValue} (given : value.truthy = true) :
    optionalText value = some value.toStr := by
  cases value with
  | none => cases given
  | _ => rfl

variable {state after : AccountState} {item : PyValue} {order : OrderState} {text : String}

/-- Storing under a client id leaves the lookups ahead of it alone. -/
theorem foundAhead_of_client (orders : after.orders = state.orders.set ("client:" ++ text) order) :
    after.foundAhead item = state.foundAhead item := by
  have algo : ∀ id, after.orders.get? ("algo:" ++ id) = state.orders.get? ("algo:" ++ id) := by
    intro id
    rw [orders, OrderedDict.get?_set_of_ne]
    intro same
    simpa using congrArg String.toList same
  have plain : ∀ id, after.orders.get? ("order:" ++ id) = state.orders.get? ("order:" ++ id) := by
    intro id
    rw [orders, OrderedDict.get?_set_of_ne]
    intro same
    simpa using congrArg String.toList same
  simp only [AccountState.foundAhead, AccountState.orderUnder, algo, plain]

theorem orderUnder_client (written : (eitherItem item "c" "clientAlgoId").truthy = true)
    (orders : after.orders = state.orders.set
      ("client:" ++ (eitherItem item "c" "clientAlgoId").toStr) order) :
    after.orderUnder "client:" (clientOrderIdOf item) =
      if (clientOrderIdOf item).toStr = (eitherItem item "c" "clientAlgoId").toStr then some order
      else state.orderUnder "client:" (clientOrderIdOf item) := by
  have read : (clientOrderIdOf item).truthy = true := by
    simp only [eitherItem, or_truthy, Bool.or_eq_true] at written
    simp only [clientOrderIdOf, eitherItem, or_truthy, Bool.or_eq_true]
    exact written.imp .inl id
  simp only [AccountState.orderUnder, optionalText_of_truthy read, Option.bind_some, orders,
    OrderedDict.get?_set, String.append_right_inj]

variable {message : PyValue} {now : Datetime}

/-- The order an accepted algo update stored is resolved exactly when the update
carries an algo id or its client id is not shadowed. -/
theorem resolved_iff (kind : eventType message = "ALGO_UPDATE")
    (accepted : apply state message now = .ok after) (decoded : algoOrderOf message now = .ok (some order)) :
    resolvePrivateOrder after message = some order ↔ FoundBack state (algoItem message) order := by
  obtain ⟨key, stored⟩ := stored_of_accepted kind accepted decoded
  rw [resolvePrivateOrder_eq stored.item]
  rcases identity_of_algo stored.orderId stored.identified with ⟨text, known, nonempty, rfl⟩ |
    ⟨empty, written, rfl⟩
  · have carried := stored.algoOrderId.symm.trans known
    refine iff_of_true ?_ (.inl ⟨text, carried, nonempty⟩)
    simp [AccountState.foundAhead, AccountState.orderUnder, carried, stored.orders]
  · have idless : ¬ ∃ text ∈ optionalText (algoOrderIdOf (algoItem message)), text ≠ "" := by
      rintro ⟨text, carried, nonempty⟩
      exact nonempty (empty text (stored.algoOrderId.trans carried))
    rw [FoundBack, or_iff_right idless]
    have orders := stored.orders
    rw [stored.clientOrderId] at written orders
    rw [foundAhead_of_client orders, orderUnder_client written orders]
    cases ahead : state.foundAhead (algoItem message) with
    | some found => simp
    | none =>
        simp only [Option.none_or, Option.mem_def, reduceCtorEq, false_implies, implies_true, true_and,
          true_implies]
        split
        · next same => simp [same]
        · next differ => simp [differ]

/-- The alert of a lost stop on an open position. -/
def lostStopAlert (order : OrderState) : ProtectionAlert where
  symbol := order.symbol
  positionSide := order.positionSide
  reason := PositionGuardian.lostStopReason order
  severity := "critical"

/-- A lost stop that is resolved on an open position is alerted. -/
theorem lost_stop_alerted {position : PositionState} (guardian : PositionGuardian)
    (resolved : resolvePrivateOrder after message = some order) (isAlgo : order.isAlgo = true)
    (closing : order.closePosition = true) (lost : PositionGuardian.protectionLost order.status = true)
    (held : after.positions.get? (order.symbol, order.positionSide) = some position)
    (isOpen : position.isOpen = true) :
    lostStopAlert order ∈ (collectGuardianAlerts (some guardian) after "ALGO_UPDATE" message).2 := by
  have handled : PositionGuardian.handleProtectionOrderUpdate after order =
      (after.activateKillSwitch (PositionGuardian.lostStopReason order), some (lostStopAlert order)) := by
    simp only [PositionGuardian.handleProtectionOrderUpdate, isAlgo, closing, lost, held, isOpen,
      Bool.and_self, if_true, lostStopAlert]
  simp [collectGuardianAlerts, resolved, handled]

/-- The order an accepted algo update stored is resolved exactly when the update
carries an algo id or its client id is not shadowed; a lost stop then alerts. -/
theorem stored_algo_order_resolved_iff (kind : eventType message = "ALGO_UPDATE")
    (accepted : apply state message now = .ok after) (decoded : algoOrderOf message now = .ok (some order)) :
    (resolvePrivateOrder after message = some order ↔ FoundBack state (algoItem message) order) ∧
      (FoundBack state (algoItem message) order → order.closePosition = true →
        PositionGuardian.protectionLost order.status = true → ∀ position,
          after.positions.get? (order.symbol, order.positionSide) = some position →
          position.isOpen = true → ∀ guardian, lostStopAlert order ∈
            (collectGuardianAlerts (some guardian) after (eventType message) message).2) := by
  have resolved := resolved_iff kind accepted decoded
  refine ⟨resolved, fun found closing lost position held isOpen guardian => ?_⟩
  obtain ⟨key, stored⟩ := stored_of_accepted kind accepted decoded
  rw [kind]
  exact lost_stop_alerted guardian (resolved.mpr found) stored.isAlgo closing lost held isOpen

end Finding

section Samples
open BinanceUserEventHandler

def heldBtc : PositionState :=
  { symbol := "BTCUSDT", direction := .long, quantity := 1, entryPrice := 50000, markPrice := 50000
    updatedAt := 0 }

/-- The order that opened the position. -/
def knownEntry : OrderState :=
  { symbol := "BTCUSDT", status := .filled, side := .buy, orderId := some "7", executedQty := 1
    createdAt := 0, updatedAt := 0 }

def heldBtcState : AccountState where
  positions := .ofList [(("BTCUSDT", "BOTH"), heldBtc)]
  orders := .ofList [("order:7", knownEntry)]

def rejectedStop (ids : List (String × PyValue)) : PyValue := .dict
  [("e", .str "ALGO_UPDATE"), ("ao", .dict ([("s", .str "BTCUSDT"), ("S", .str "SELL"),
    ("X", .str "REJECTED"), ("ot", .str "STOP_MARKET"), ("cp", .bool true)] ++ ids))]

def rejectedStopOrder (algoOrderId : Option String) (clientOrderId : PyValue) : OrderState :=
  { symbol := "BTCUSDT", status := .rejected, side := .sell, clientOrderId, algoOrderId
    orderType := some .stopMarket, price := some 0, avgPrice := some 0, origQty := some 0
    closePosition := true, isAlgo := true, createdAt := 0, updatedAt := 0 }

/-- The state after the rejected stop was stored under a key. -/
def heldBtcAfter (key : String) (order : OrderState) : AccountState :=
  { heldBtcState with orders := heldBtcState.orders.set key order, lastUserStreamEventAt := some 0 }

theorem rejectedStop_resolved :
    resolvePrivateOrder (heldBtcAfter "algo:31" (rejectedStopOrder (some "31") .none))
        (rejectedStop [("ai", .int 31)]) = some (rejectedStopOrder (some "31") .none) ∧
      lostStopAlert (rejectedStopOrder (some "31") .none) ∈
        (collectGuardianAlerts (some ⟨none, [], .empty, .empty⟩)
          (heldBtcAfter "algo:31" (rejectedStopOrder (some "31") .none))
          "ALGO_UPDATE" (rejectedStop [("ai", .int 31)])).2 := by
  have accepted : apply heldBtcState (rejectedStop [("ai", .int 31)]) 0 =
      .ok (heldBtcAfter "algo:31" (rejectedStopOrder (some "31") .none)) := rfl
  have decoded : algoOrderOf (rejectedStop [("ai", .int 31)]) 0 =
      .ok (some (rejectedStopOrder (some "31") .none)) := rfl
  have found : FoundBack heldBtcState (algoItem (rejectedStop [("ai", .int 31)]))
      (rejectedStopOrder (some "31") .none) := .inl ⟨"31", rfl, by decide⟩
  obtain ⟨resolved, alerted⟩ := stored_algo_order_resolved_iff rfl accepted decoded
  exact ⟨resolved.mpr found, alerted found rfl rfl heldBtc rfl rfl _⟩

/-- Without algo id the stop is stored under its client id, and the order id the
message carries finds the entry instead. -/
theorem rejectedStop_shadowed :
    let client := PyValue.str "guardian-stop-btcusdt-both"
    let message := rejectedStop [("c", client), ("i", .int 7)]
    let after := heldBtcAfter "client:guardian-stop-btcusdt-both" (rejectedStopOrder none client)
    apply heldBtcState message 0 = .ok after ∧
      algoOrderOf message 0 = .ok (some (rejectedStopOrder none client)) ∧
      resolvePrivateOrder after message = some knownEntry ∧
      resolvePrivateOrder after message ≠ some (rejectedStopOrder none client) := by
  intro client message after
  have resolved : resolvePrivateOrder after message = some knownEntry := rfl
  refine ⟨rfl, rfl, resolved, fun same => ?_⟩
  have statuses := congrArg (Option.map OrderState.status) (resolved.symm.trans same)
  exact absurd statuses (by decide)

end Samples

end CatsPy
