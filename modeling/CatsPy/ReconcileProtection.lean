import CatsPy.ProtectionFailures
import CatsPy.SnapshotComparison

/-!
# Protection after a reconcile

The REST parser records every open order as a plain one, and the order map is
replaced by what it parsed. A stop known from algo events is therefore gone
after any reconcile that returns.
-/
namespace CatsPy
open PythonValues StateRuns

namespace AccountReconciler

section PlainOrders

/-- What holds of every row that is kept holds of the collected rows. -/
theorem collectRows_forall {α : Type} {row : PyValue → Except PyError (Option α)} (P : α → Prop)
    (keeps : ∀ item x, row item = .ok (some x) → P x) {items : List PyValue} {rows : List α}
    (collected : collectRows row items = .ok rows) : ∀ x ∈ rows, P x := by
  induction items generalizing rows with
  | nil =>
      cases collected
      intro x member
      cases member
  | cons item rest ih =>
      obtain ⟨first, parsed, collected⟩ := bind_ok collected
      obtain ⟨later, others, same⟩ := bind_ok collected
      cases same
      intro x member
      rcases List.mem_append.mp member with here | there
      · exact keeps item x (by rw [parsed, Option.mem_toList.mp here])
      · exact ih others x there

theorem parseRows_forall {α : Type} {key : String} {parse : PyValue → String → Except PyError α}
    (P : α → Prop) (keeps : ∀ item text x, parse item text = .ok x → P x) {value : PyValue}
    {rows : List α} (parsed : parseRows key parse value = .ok rows) : ∀ x ∈ rows, P x := by
  unfold parseRows at parsed
  split at parsed
  · apply collectRows_forall P _ parsed
    intro item x kept
    unfold keyedRow at kept
    split at kept
    · cases kept
    · split at kept
      · cases kept
      · next text _ =>
        cases outcome : parse item text with
        | error error => rw [outcome] at kept; cases kept
        | ok y =>
            rw [outcome] at kept
            cases kept
            exact keeps item text x outcome
  · cases parsed
    intro x member
    cases member

theorem parseOrder_isAlgo {reconciledAt : Datetime} {item : PyValue} {symbol : String} {order : OrderState}
    (parsed : parseOrder reconciledAt item symbol = .ok order) : order.isAlgo = false := by
  unfold parseOrder at parsed
  obtain ⟨price, -, parsed⟩ := bind_ok parsed
  obtain ⟨avgPrice, -, parsed⟩ := bind_ok parsed
  obtain ⟨origQty, -, parsed⟩ := bind_ok parsed
  obtain ⟨executedQty, -, parsed⟩ := bind_ok parsed
  obtain ⟨createdAt, -, parsed⟩ := bind_ok parsed
  obtain ⟨updatedAt, -, parsed⟩ := bind_ok parsed
  cases parsed
  rfl

theorem readSnapshot_orders_plain {reads : ReconcileReads} {clock : ReconcileClock}
    {snapshot : ParsedSnapshot} (parsed : readSnapshot reads clock = .ok snapshot) :
    ∀ order ∈ snapshot.orders, order.isAlgo = false := by
  unfold readSnapshot at parsed
  obtain ⟨accountInfo, -, parsed⟩ := bind_ok parsed
  obtain ⟨positionRisk, -, parsed⟩ := bind_ok parsed
  obtain ⟨openOrders, -, parsed⟩ := bind_ok parsed
  obtain ⟨balances, -, parsed⟩ := bind_ok parsed
  obtain ⟨positions, -, parsed⟩ := bind_ok parsed
  obtain ⟨orders, ordersParsed, parsed⟩ := bind_ok parsed
  cases parsed
  obtain ⟨rows, -, ordersParsed⟩ := bind_ok ordersParsed
  exact parseRows_forall _ (fun item symbol order parsed => parseOrder_isAlgo parsed) ordersParsed

end PlainOrders

section AfterReturn

/-- A reconcile that returns stored the parsed positions and some of the parsed orders. -/
theorem returned_snapshot {state after : AccountState} {reads : ReconcileReads} {clock : ReconcileClock}
    (returned : reconcile state reads clock = (after, .ok ())) :
    ∃ snapshot, readSnapshot reads clock = .ok snapshot ∧
      after.positions = AccountState.positionMap snapshot.positions ∧
      ∀ order ∈ after.orders.values, order ∈ snapshot.orders := by
  obtain ⟨snapshot, entries, mismatch, parsed, identified, -, rfl⟩ := reconcile_returned returned
  refine ⟨snapshot, parsed, rfl, fun order stored => ?_⟩
  rw [← (identifiedOrders_ok identified).1]
  exact OrderedDict.mem_values_ofList stored

theorem returned_orders_plain {state after : AccountState} {reads : ReconcileReads}
    {clock : ReconcileClock} (returned : reconcile state reads clock = (after, .ok ())) :
    ∀ order ∈ after.orders.values, order.isAlgo = false := by
  obtain ⟨snapshot, parsed, -, listed⟩ := returned_snapshot returned
  intro order stored
  exact readSnapshot_orders_plain parsed order (listed order stored)

end AfterReturn

end AccountReconciler

open PositionGuardian ProtectionOrchestrator

section Protection

theorem PositionGuardian.hasActiveProtection_of_plain {state : AccountState}
    (plain : ∀ order ∈ state.orders.values, order.isAlgo = false) (position : PositionState) :
    hasActiveProtection state position = false := by
  rw [hasActiveProtection, List.any_eq_false]
  intro order stored
  simp [OrderState.protects, plain order stored]

theorem ProtectionOrchestrator.buildPlan_of_unprotected {orchestrator : ProtectionOrchestrator}
    {entry : OrderState} {state : AccountState} {position : PositionState}
    (filled : isNewEntryFill entry = true)
    (stored : state.positions.get? (entry.symbol, entry.positionSide) = some position)
    (bare : unprotected state position = true)
    (priced : 0 < buildTriggerPrice position orchestrator.defaultStopDistancePct) :
    orchestrator.buildPlan entry state =
      some (planFor position (buildTriggerPrice position orchestrator.defaultStopDistancePct)) := by
  have calls : (!position.isOpen || hasExistingProtection state position) = false := by
    simpa [unprotected, hasActiveProtection, hasExistingProtection] using bare
  simp [buildPlan, filled, stored, calls, not_le.mpr priced]

/-- Whatever stops were known before, every open position of the snapshot is
unprotected after a reconcile that returns: the scan halts on it and the next
entry fill on it plans a stop. -/
theorem AccountReconciler.reconcile_drops_protection (state after : AccountState) (reads : ReconcileReads)
    (clock : ReconcileClock) (snapshot : ParsedSnapshot) (position : PositionState)
    (returned : reconcile state reads clock = (after, .ok ()))
    (parsed : readSnapshot reads clock = .ok snapshot)
    (reported : (AccountState.positionMap snapshot.positions).get? position.key = some position)
    (isOpen : position.isOpen = true) :
    hasActiveProtection after position = false ∧
    missingStopAlert position ∈ (findUnprotectedPositions after).2 ∧
    (findUnprotectedPositions after).1.killSwitchActive = true ∧
    ∀ (orchestrator : ProtectionOrchestrator) (entry : OrderState), isNewEntryFill entry = true →
      (entry.symbol, entry.positionSide) = position.key →
      0 < buildTriggerPrice position orchestrator.defaultStopDistancePct →
      orchestrator.buildPlan entry after =
        some (planFor position (buildTriggerPrice position orchestrator.defaultStopDistancePct)) := by
  obtain ⟨same, parsed', positions_eq, -⟩ := returned_snapshot returned
  rw [parsed] at parsed'
  cases parsed'
  rw [← positions_eq] at reported
  have gone := hasActiveProtection_of_plain (returned_orders_plain returned) position
  have bare : unprotected after position = true := by simp [unprotected, isOpen, gone]
  have listed : position ∈ after.positions.values := (OrderedDict.mem_values_iff _ _).mpr ⟨_, reported⟩
  obtain ⟨alerted, halted⟩ := findUnprotectedPositions_reports listed bare
  refine ⟨gone, alerted, halted, ?_⟩
  intro orchestrator entry filled key_eq priced
  rw [← key_eq] at reported
  exact buildPlan_of_unprotected filled reported bare priced

end Protection

namespace AccountReconciler

section Samples

/-- The acknowledgement of a disaster stop on the entered long. -/
def stopAcknowledged : PyValue := .dict [("e", .str "ALGO_UPDATE"), ("E", .int 1700000000000),
  ("o", .dict [("s", .str "BTCUSDT"), ("ai", .int 7), ("X", .str "NEW"), ("S", .str "SELL"),
    ("ot", .str "STOP_MARKET"), ("cp", .bool true)])]

def protectedLong : AccountState :=
  final (BinanceUserEventHandler.apply ExecutionService.enteredLong stopAcknowledged 0)

/-- The exchange still reports the long; algo orders are not among open orders. -/
def longStillOpen : ReconcileReads where
  accountInfo := .ok (.dict [("data", .dict [("positions", .list [.dict [("symbol", .str "BTCUSDT"),
    ("positionAmt", .str "0.01"), ("entryPrice", .str "50000")]])])])
  positionRisk := .ok (.dict [("data", .list [])])
  openOrders := .ok (.dict [("data", .list [])])

def reportedLong : PositionState :=
  { symbol := "BTCUSDT", direction := .long, quantity := 1 / 100, entryPrice := 50000, updatedAt := 0 }

theorem longStillOpen_returned : ∃ after snapshot,
    reconcile protectedLong longStillOpen ⟨0, 0, 0, 0⟩ = (after, .ok ()) ∧
    readSnapshot longStillOpen ⟨0, 0, 0, 0⟩ = .ok snapshot ∧
    (AccountState.positionMap snapshot.positions).get? reportedLong.key = some reportedLong := by
  have returned : (reconcile protectedLong longStillOpen ⟨0, 0, 0, 0⟩).2.toOption.isSome = true := by
    decide +kernel
  have stored : (readSnapshot longStillOpen ⟨0, 0, 0, 0⟩).toOption.bind (fun snapshot =>
      (AccountState.positionMap snapshot.positions).get? reportedLong.key) = some reportedLong := by
    decide +kernel
  generalize reconcile protectedLong longStillOpen ⟨0, 0, 0, 0⟩ = outcome at returned
  generalize readSnapshot longStillOpen ⟨0, 0, 0, 0⟩ = parsed at stored
  match outcome, returned, parsed, stored with
  | (after, .ok ()), _, .ok snapshot, stored => exact ⟨after, snapshot, rfl, rfl, stored⟩

theorem reconcile_drops_protection_btc : ∃ after,
    reconcile protectedLong longStillOpen ⟨0, 0, 0, 0⟩ = (after, .ok ()) ∧
    hasActiveProtection after reportedLong = false ∧
    missingStopAlert reportedLong ∈ (findUnprotectedPositions after).2 ∧
    ({} : ProtectionOrchestrator).buildPlan ExecutionService.filledEntry after =
      some (planFor reportedLong 49000) := by
  obtain ⟨after, snapshot, returned, parsed, reported⟩ := longStillOpen_returned
  obtain ⟨gone, alerted, -, planned⟩ := reconcile_drops_protection protectedLong after longStillOpen
    ⟨0, 0, 0, 0⟩ snapshot reportedLong returned parsed reported (by decide +kernel)
  have price : buildTriggerPrice reportedLong ({} : ProtectionOrchestrator).defaultStopDistancePct = 49000 := by
    decide +kernel
  refine ⟨after, returned, gone, alerted, ?_⟩
  rw [planned {} ExecutionService.filledEntry (by decide +kernel) (by decide +kernel) (by decide +kernel), price]

/-- A stop recorded from its algo event protects the long until the first
reconcile; then the scan halts on it and a further fill plans a second stop. -/
theorem acknowledged_stop_forgotten :
    let outcome := reconcile protectedLong longStillOpen ⟨0, 0, 0, 0⟩
    hasActiveProtection protectedLong reportedLong = true ∧
      (findUnprotectedPositions protectedLong).2 = [] ∧ protectedLong.killSwitchActive = false ∧
      outcome.2.toOption.isSome = true ∧ outcome.1.positions.values = [reportedLong] ∧
      hasActiveProtection outcome.1 reportedLong = false ∧
      (findUnprotectedPositions outcome.1).2 = [missingStopAlert reportedLong] ∧
      (findUnprotectedPositions outcome.1).1.killSwitchActive = true ∧
      (({} : ProtectionOrchestrator).buildPlan ExecutionService.filledEntry outcome.1).isSome = true := by
  decide +kernel

end Samples

end AccountReconciler

end CatsPy
