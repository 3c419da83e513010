import CatsPy.PositionProtection

/-!
# Protection after a fill

The scan for unprotected positions runs right after placement, on orders the
placement has not yet reached; a placement that raises skips the scan. Both
ends of the handler are decided here for every state.
-/
namespace CatsPy
open PythonValues

namespace PositionGuardian

section Scan

/-- The position the scan reports. -/
def unprotected (state : AccountState) (position : PositionState) : Bool :=
  position.isOpen && !hasActiveProtection state position

/-- The scan reads orders only, so a position is judged the same at any point of it. -/
theorem unprotected_congr {state state' : AccountState} (orders : state'.orders = state.orders)
    (position : PositionState) : unprotected state' position = unprotected state position := by
  simp [unprotected, hasActiveProtection, orders]

theorem scan_eq (positions : List PositionState) (state : AccountState) (alerts : List ProtectionAlert) :
    let scanned := positions.foldl scanPosition (state, alerts)
    scanned.2 = alerts ++ (positions.filter (unprotected state)).map missingStopAlert ∧
      scanned.1.orders = state.orders ∧ scanned.1.positions = state.positions ∧
      scanned.1.killSwitchActive = (state.killSwitchActive || positions.any (unprotected state)) := by
  induction positions generalizing state alerts with
  | nil => simp
  | cons position rest ih =>
      rw [List.foldl_cons]
      cases reported : unprotected state position with
      | false =>
          have skipped : scanPosition (state, alerts) position = (state, alerts) := by
            rw [unprotected] at reported
            simp [scanPosition, reported]
          rw [skipped]
          simpa [reported] using ih state alerts
      | true =>
          have halted : scanPosition (state, alerts) position =
              (state.activateKillSwitch (missingStopReason position),
                alerts ++ [missingStopAlert position]) := by
            rw [unprotected] at reported
            simp [scanPosition, reported]
          have same : unprotected (state.activateKillSwitch (missingStopReason position)) =
              unprotected state := by
            funext other
            exact unprotected_congr rfl other
          obtain ⟨alerts_eq, orders_eq, positions_eq, halted_eq⟩ :=
            ih (state.activateKillSwitch (missingStopReason position))
              (alerts ++ [missingStopAlert position])
          rw [halted]
          refine ⟨?_, orders_eq, positions_eq, ?_⟩
          · simpa [same, reported] using alerts_eq
          · simpa [same, reported, AccountState.activateKillSwitch] using halted_eq

theorem findUnprotectedPositions_alerts (state : AccountState) :
    (findUnprotectedPositions state).2 =
      (state.positions.values.filter (unprotected state)).map missingStopAlert := by
  have spec := (scan_eq state.positions.values state []).1
  rwa [List.nil_append] at spec

theorem findUnprotectedPositions_killSwitch (state : AccountState) :
    (findUnprotectedPositions state).1.killSwitchActive =
      (state.killSwitchActive || state.positions.values.any (unprotected state)) :=
  (scan_eq state.positions.values state []).2.2.2

/-- A listed position without protection is reported and halts. -/
theorem findUnprotectedPositions_reports {state : AccountState} {position : PositionState}
    (listed : position ∈ state.positions.values) (bare : unprotected state position = true) :
    missingStopAlert position ∈ (findUnprotectedPositions state).2 ∧
      (findUnprotectedPositions state).1.killSwitchActive = true := by
  constructor
  · rw [findUnprotectedPositions_alerts]
    exact List.mem_map.mpr ⟨position, List.mem_filter.mpr ⟨listed, bare⟩, rfl⟩
  · rw [findUnprotectedPositions_killSwitch, Bool.or_eq_true]
    exact Or.inr (List.any_eq_true.mpr ⟨position, listed, bare⟩)

theorem handleProtectionOrderUpdate_frame (state : AccountState) (order : OrderState) :
    (handleProtectionOrderUpdate state order).1.orders = state.orders ∧
      (handleProtectionOrderUpdate state order).1.positions = state.positions := by
  simp only [handleProtectionOrderUpdate]
  repeat' split
  all_goals exact ⟨rfl, rfl⟩

end Scan

end PositionGuardian

namespace ExecutionService
open PositionGuardian ProtectionOrchestrator

section Placement

variable {service : ExecutionService} {guardian : PositionGuardian} {state : AccountState}
  {order : OrderState}

/-- A plan is made for an entry fill, on its stored position, if that is open,
unprotected and priced. -/
theorem buildPlan_some {orchestrator : ProtectionOrchestrator} {distance : Option ℚ} {plan : ProtectionPlan}
    (planned : orchestrator.buildPlan order state distance = some plan) :
    isNewEntryFill order = true ∧ ∃ position,
      state.positions.get? (order.symbol, order.positionSide) = some position ∧
      position.isOpen = true ∧ hasExistingProtection state position = false ∧
      0 < buildTriggerPrice position (orchestrator.stopDistance distance) ∧
      plan = planFor position (buildTriggerPrice position (orchestrator.stopDistance distance)) := by
  simp only [buildPlan] at planned
  split at planned
  · cases planned
  · next filled =>
    cases stored : state.positions.get? (order.symbol, order.positionSide) with
    | none => simp [stored] at planned
    | some position =>
        simp only [stored] at planned
        split at planned
        · cases planned
        · next bare =>
          simp only [Bool.or_eq_true, Bool.not_eq_true', not_or, Bool.not_eq_false, Bool.not_eq_true] at bare
          split at planned
          · cases planned
          · next priced =>
            cases planned
            exact ⟨by simpa using filled, position, rfl, bare.1, bare.2, lt_of_not_ge priced, rfl⟩

/-- A stop is only placed for a stored position the scan reports as unprotected. -/
theorem placed_unprotected {response : OrderResponse}
    (placed : service.placeProtection guardian state order = .ok (some response)) :
    ∃ position, state.positions.get? (order.symbol, order.positionSide) = some position ∧
      unprotected state position = true := by
  simp only [placeProtection, ensureDisasterStop] at placed
  split at placed
  · cases placed
  · cases planned : service.protection.buildPlan order state with
    | none => simp [planned] at placed
    | some plan =>
        obtain ⟨-, position, stored, isOpen, bare, -⟩ := buildPlan_some planned
        refine ⟨position, stored, ?_⟩
        rw [unprotected, isOpen, hasActiveProtection]
        rw [hasExistingProtection] at bare
        simp [bare]

end Placement

/-- A disaster stop that is placed without error always ends in an alert for its
own position and an active kill switch. -/
theorem placed_stop_halts (service : ExecutionService) (guardian : PositionGuardian)
    (state : AccountState) (order : OrderState) (response : OrderResponse)
    (placed : service.placeProtection guardian state order = .ok (some response)) :
    ∃ left result, service.handleOrderUpdate guardian state order = (left, .ok result) ∧
      result.protectionAlerts ≠ [] ∧ left.2.killSwitchActive = true := by
  obtain ⟨position, stored, bare⟩ := placed_unprotected placed
  have frame := handleProtectionOrderUpdate_frame state order
  have listed : position ∈ (handleProtectionOrderUpdate state order).1.positions.values := by
    rw [frame.2]
    exact (OrderedDict.mem_values_iff _ _).mpr ⟨_, stored⟩
  have still_bare : unprotected (handleProtectionOrderUpdate state order).1 position = true := by
    rw [unprotected_congr frame.1]
    exact bare
  obtain ⟨alerted, halted⟩ := findUnprotectedPositions_reports listed still_bare
  refine ⟨(guardPosition guardian state order (some response)).1,
    (guardPosition guardian state order (some response)).2, ?_, ?_, halted⟩
  · simp only [handleOrderUpdate, placed]
  · intro calm
    have member : missingStopAlert position ∈
        (guardPosition guardian state order (some response)).2.protectionAlerts :=
      List.mem_append_right _ alerted
    rw [calm] at member
    cases member

/-- When placement raises, the kill switch is active afterwards exactly if it
was active before. -/
theorem failed_stop_halts_iff (service : ExecutionService) (guardian : PositionGuardian)
    (state : AccountState) (order : OrderState) (error : PyError)
    (failed : service.placeProtection guardian state order = .error error) :
    (service.handleOrderUpdate guardian state order).1.2.killSwitchActive = true ↔
      state.killSwitchActive = true := by
  have untouched : (service.handleOrderUpdate guardian state order).1.2 = state := by
    simp only [handleOrderUpdate, failed]
  rw [untouched]

section Samples

/-- A long bought at 50000 and not yet protected, with its filled entry order. -/
def enteredLong : AccountState :=
  AccountState.upsertPosition {}
    { symbol := "BTCUSDT", direction := .long, quantity := 1 / 100, entryPrice := 50000
      markPrice := 50010, notional := 5001 / 10, updatedAt := 0 }

def filledEntry : OrderState :=
  { symbol := "BTCUSDT", status := .filled, side := .buy, orderId := some "123"
    executedQty := 1 / 100, createdAt := 0, updatedAt := 0 }

def btcRules : PreTradeValidator.SymbolRules :=
  .ofList [("BTCUSDT", { symbol := "BTCUSDT", tickSize := 1 / 10, stepSize := 1 / 1000
                         minQty := 1 / 1000, minNotional := 5 })]

/-- An exchange that accepts every request. -/
def acceptingClient : BinanceRestClient where
  transport := fun _ _ => .ok (.dict [("algoId", .int 7), ("algoStatus", .str "NEW")])

def guardianWith (rules : PreTradeValidator.SymbolRules) : PositionGuardian where
  router := some { binance := acceptingClient, symbolRules := rules }

theorem entry_stop_placed : ∃ response,
    ({} : ExecutionService).placeProtection (guardianWith btcRules) enteredLong filledEntry =
      .ok (some response) := by
  have placed : (({} : ExecutionService).placeProtection (guardianWith btcRules) enteredLong
      filledEntry).toOption.join.isSome = true := by
    decide +kernel
  generalize ({} : ExecutionService).placeProtection (guardianWith btcRules) enteredLong filledEntry =
    outcome at placed
  match outcome, placed with
  | .ok (some response), _ => exact ⟨response, rfl⟩

theorem placed_stop_halts_btc : ∃ left result,
    ({} : ExecutionService).handleOrderUpdate (guardianWith btcRules) enteredLong filledEntry =
      (left, .ok result) ∧ result.protectionAlerts ≠ [] ∧ left.2.killSwitchActive = true := by
  obtain ⟨response, placed⟩ := entry_stop_placed
  exact placed_stop_halts {} (guardianWith btcRules) enteredLong filledEntry response placed

/-- The only position is the filled one, its stop is accepted, and the handler
still reports it as unprotected. -/
theorem accepted_stop_reported_missing :
    let outcome := ({} : ExecutionService).handleOrderUpdate (guardianWith btcRules) enteredLong filledEntry
    enteredLong.killSwitchActive = false ∧
      outcome.2.toOption.map (fun result =>
        (result.placedProtection.map OrderResponse.status, result.protectionAlerts)) =
        some (some "NEW", [{ symbol := "BTCUSDT", positionSide := "BOTH"
                             reason := "missing active protective stop for BTCUSDT:BOTH"
                             severity := "critical" }]) ∧
      outcome.1.2.killSwitchActive = true := by
  decide +kernel

/-- Without rules for the symbol the validator raises and nothing is halted. -/
theorem missing_rules_not_halted :
    let outcome := ({} : ExecutionService).handleOrderUpdate (guardianWith .empty) enteredLong filledEntry
    enteredLong.killSwitchActive = false ∧ outcome.2.toOption.isNone = true ∧
      outcome.1.2.killSwitchActive = false := by
  decide +kernel

theorem missing_rules_raise : ∃ error,
    ({} : ExecutionService).placeProtection (guardianWith .empty) enteredLong filledEntry =
      .error error := by
  have raised : (({} : ExecutionService).placeProtection (guardianWith .empty) enteredLong
      filledEntry).toOption.isNone = true := by
    decide +kernel
  generalize ({} : ExecutionService).placeProtection (guardianWith .empty) enteredLong filledEntry =
    outcome at raised
  match outcome, raised with
  | .error error, _ => exact ⟨error, rfl⟩

theorem missing_rules_halt_iff :
    (({} : ExecutionService).handleOrderUpdate (guardianWith .empty) enteredLong
      filledEntry).1.2.killSwitchActive = true ↔ enteredLong.killSwitchActive = true := by
  obtain ⟨error, raised⟩ := missing_rules_raise
  exact failed_stop_halts_iff {} (guardianWith .empty) enteredLong filledEntry error raised

end Samples

end ExecutionService

end CatsPy
