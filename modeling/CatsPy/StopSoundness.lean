import CatsPy.StopProtocol
import CatsPy.RoundingGrid

/-!
# Soundness of protective stops

Which stored orders count as protection of a position, and where the trigger of
a sent stop lies once the validator has rounded it to the tick.
-/
namespace CatsPy
open PythonValues StateRuns

section Counting

/-- A working stop of the position, on the side that reduces it. -/
structure ReducingStop (order : OrderState) (position : PositionState) : Prop where
  symbol : order.symbol = position.symbol
  positionSide : order.positionSide = position.positionSide
  algo : order.isAlgo = true
  closes : order.closePosition = true
  working : order.status = .new ∨ order.status = .partiallyFilled
  stop : order.orderType = some .stop ∨ order.orderType = some .stopMarket
  long : position.direction = .long → order.side = .sell
  short : position.direction = .short → order.side = .buy

/-- An order of another type, or on the side that adds to the position. -/
def OrderState.Misfit (order : OrderState) (position : PositionState) : Prop :=
  (order.orderType ≠ some .stop ∧ order.orderType ≠ some .stopMarket) ∨
    position.direction = .long ∧ order.side = .buy ∨ position.direction = .short ∧ order.side = .sell

theorem reducingStop_iff {order : OrderState} {position : PositionState} :
    ReducingStop order position ↔ order.protects position = true ∧ ¬ order.Misfit position := by
  simp only [OrderState.protects, decide_eq_true_eq, OrderState.Misfit, not_or, not_and]
  constructor
  · rintro ⟨symbol, positionSide, algo, closes, working, stop, long, short⟩
    refine ⟨⟨symbol, positionSide, algo, closes, working⟩, ?_, ?_, ?_⟩
    · intro notStop notMarket
      exact stop.elim notStop notMarket
    · intro rising buying
      cases (long rising).symm.trans buying
    · intro falling selling
      cases (short falling).symm.trans selling
  · rintro ⟨⟨symbol, positionSide, algo, closes, working⟩, stop, long, short⟩
    refine ⟨symbol, positionSide, algo, closes, working, ?_, ?_, ?_⟩
    · by_contra neither
      rw [not_or] at neither
      exact stop neither.1 neither.2
    · intro rising
      cases side : order.side with
      | sell => rfl
      | buy => exact absurd side (long rising)
    · intro falling
      cases side : order.side with
      | buy => rfl
      | sell => exact absurd side (short falling)

/-- A working close order of the position's key that does not stop the position out. -/
structure StrayOrder (order : OrderState) (position : PositionState) : Prop where
  symbol : order.symbol = position.symbol
  positionSide : order.positionSide = position.positionSide
  algo : order.isAlgo = true
  closes : order.closePosition = true
  working : order.status = .new ∨ order.status = .partiallyFilled
  misfit : order.Misfit position

theorem protects_iff {order : OrderState} {position : PositionState} :
    order.protects position = true ↔ ReducingStop order position ∨ StrayOrder order position := by
  constructor
  · intro protects
    by_cases misfit : order.Misfit position
    · simp only [OrderState.protects, decide_eq_true_eq] at protects
      obtain ⟨symbol, positionSide, algo, closes, working⟩ := protects
      exact .inr ⟨symbol, positionSide, algo, closes, working, misfit⟩
    · exact .inl (reducingStop_iff.mpr ⟨protects, misfit⟩)
  · rintro (right | ⟨symbol, positionSide, algo, closes, working, -⟩)
    · exact (reducingStop_iff.mp right).1
    · simp only [OrderState.protects, decide_eq_true_eq]
      exact ⟨symbol, positionSide, algo, closes, working⟩

/-- What counts as protection is a reducing stop or a stray order. -/
theorem hasActiveProtection_iff (state : AccountState) (position : PositionState) :
    PositionGuardian.hasActiveProtection state position = true ↔
      (∃ order ∈ state.orders.values, ReducingStop order position) ∨
        ∃ order ∈ state.orders.values, StrayOrder order position := by
  simp only [PositionGuardian.hasActiveProtection, List.any_eq_true, protects_iff, and_or_left, exists_or]

/-- The same side of the same symbol, held the other way round. -/
structure Reverses (position reversed : PositionState) : Prop where
  symbol : reversed.symbol = position.symbol
  positionSide : reversed.positionSide = position.positionSide
  turned : position.direction = .long ∧ reversed.direction = .short ∨
    position.direction = .short ∧ reversed.direction = .long

/-- The stop of a position is a stray order once the position has reversed. -/
theorem ReducingStop.stray_of_reverses {order : OrderState} {position reversed : PositionState}
    (right : ReducingStop order position) (reverses : Reverses position reversed) :
    StrayOrder order reversed where
  symbol := right.symbol.trans reverses.symbol.symm
  positionSide := right.positionSide.trans reverses.positionSide.symm
  algo := right.algo
  closes := right.closes
  working := right.working
  misfit := by
    rcases reverses.turned with ⟨rising, falling⟩ | ⟨falling, rising⟩
    · exact .inr (.inr ⟨falling, right.long rising⟩)
    · exact .inr (.inl ⟨rising, right.short falling⟩)

/-- Whatever of its orders a state keeps, an answer that the position is protected is
true there, exactly if no stray order is stored. -/
theorem sound_below_iff (state : AccountState) (position : PositionState) :
    (∀ left : AccountState, left.orders.values ⊆ state.orders.values →
        PositionGuardian.hasActiveProtection left position = true →
          ∃ order ∈ left.orders.values, ReducingStop order position) ↔
      ¬ ∃ order ∈ state.orders.values, StrayOrder order position := by
  constructor
  · rintro sound ⟨order, stored, stray⟩
    -- Once the other orders are gone, the stray one is all that counts as protection.
    have alone : (OrderedDict.ofList [("", order)]).values = [order] := rfl
    obtain ⟨other, same, right⟩ := sound { state with orders := .ofList [("", order)] }
      (by simpa [alone] using stored)
      ((hasActiveProtection_iff _ _).mpr (.inr ⟨order, by simp [alone], stray⟩))
    obtain rfl : other = order := List.mem_singleton.mp same
    exact (reducingStop_iff.mp right).2 stray.misfit
  · intro clean left within counted
    rcases (hasActiveProtection_iff left position).mp counted with stopped | ⟨order, stored, stray⟩
    · exact stopped
    · exact absurd ⟨order, within stored, stray⟩ clean

/-- The guardian and the orchestrator ask the same. With no stray order stored the answer
is sound and stays so as orders are cancelled or filled, and only then. On the state alone
a stray order misleads unless a reducing stop is stored too. A position that has reversed
keeps its old stop as a stray order, so there the answer is sound only by a new stop. -/
theorem active_protection_sound_iff (state : AccountState) (position : PositionState) :
    ProtectionOrchestrator.hasExistingProtection state position =
        PositionGuardian.hasActiveProtection state position ∧
      ((∀ left : AccountState, left.orders.values ⊆ state.orders.values →
          PositionGuardian.hasActiveProtection left position = true →
            ∃ order ∈ left.orders.values, ReducingStop order position) ↔
        ¬ ∃ order ∈ state.orders.values, StrayOrder order position) ∧
      ((PositionGuardian.hasActiveProtection state position = true →
          ∃ order ∈ state.orders.values, ReducingStop order position) ↔
        ((∃ order ∈ state.orders.values, StrayOrder order position) →
          ∃ order ∈ state.orders.values, ReducingStop order position)) ∧
      ∀ reversed, Reverses position reversed → (∃ order ∈ state.orders.values, ReducingStop order position) →
        ((PositionGuardian.hasActiveProtection state reversed = true →
            ∃ order ∈ state.orders.values, ReducingStop order reversed) ↔
          ∃ order ∈ state.orders.values, ReducingStop order reversed) := by
  refine ⟨rfl, sound_below_iff state position, ?_, ?_⟩
  · rw [hasActiveProtection_iff]
    constructor
    · intro sound stray
      exact sound (.inr stray)
    · intro sound counted
      exact counted.elim id sound
  · rintro reversed reverses ⟨order, stored, right⟩
    constructor
    · intro sound
      exact sound ((hasActiveProtection_iff state reversed).mpr
        (.inr ⟨order, stored, right.stray_of_reverses reverses⟩))
    · intro stopped _
      exact stopped

def dogePosition (direction : PositionDirection) (quantity entryPrice : ℚ) : PositionState where
  symbol := "DOGEUSDT"
  direction := direction
  quantity := quantity
  entryPrice := entryPrice
  updatedAt := 0

def dogeCloseOrder (side : Side) (orderType : OrderType) : OrderState where
  symbol := "DOGEUSDT"
  status := .new
  side := side
  algoOrderId := some "7"
  orderType := some orderType
  closePosition := true
  isAlgo := true
  createdAt := 0
  updatedAt := 0

def stateWith (position : PositionState) (order : OrderState) : AccountState where
  positions := .ofList [(position.key, position)]
  orders := .ofList [("algo:7", order)]

theorem no_stop_of_misfit {position : PositionState} {order : OrderState} (misfit : order.Misfit position) :
    ¬ ∃ other ∈ (stateWith position order).orders.values, ReducingStop other position := by
  rintro ⟨other, stored, right⟩
  obtain rfl : other = order := List.mem_singleton.mp stored
  exact (reducingStop_iff.mp right).2 misfit

/-- A short whose only close order is the stop of the long it replaced, and a
long whose only close order takes its profit, count as protected. -/
theorem stale_and_target_orders_counted :
    let reversed := dogePosition .short (-1000) (1 / 10)
    let staleStop := dogeCloseOrder .sell .stopMarket
    let bought := dogePosition .long 1000 (1 / 10)
    let target := dogeCloseOrder .sell .takeProfitMarket
    (PositionGuardian.hasActiveProtection (stateWith reversed staleStop) reversed = true ∧
        ¬ ∃ order ∈ (stateWith reversed staleStop).orders.values, ReducingStop order reversed) ∧
      PositionGuardian.hasActiveProtection (stateWith bought target) bought = true ∧
        ¬ ∃ order ∈ (stateWith bought target).orders.values, ReducingStop order bought := by
  refine ⟨⟨by decide +kernel, no_stop_of_misfit (.inr (.inr ⟨rfl, rfl⟩))⟩, by decide +kernel,
    no_stop_of_misfit (.inl ⟨?_, ?_⟩)⟩
  · intro same
    cases same
  · intro same
    cases same

end Counting

section Sent

variable (orchestrator : ProtectionOrchestrator) (rules : PreTradeValidator.SymbolRules)
  (filledOrder : OrderState) (state : AccountState) (stopDistancePct : Option ℚ)

/-- The validated request that `ensure_disaster_stop` hands to the exchange. -/
def ProtectionOrchestrator.sentStop : Option OrderRequest :=
  (orchestrator.buildPlan filledOrder state stopDistancePct).bind fun plan =>
    (PreTradeValidator.validate rules plan.request).toOption

variable {orchestrator rules filledOrder state stopDistancePct} {guardian : PositionGuardian}

theorem ensureDisasterStop_of_plan {plan : ProtectionPlan}
    (planned : orchestrator.buildPlan filledOrder state stopDistancePct = some plan)
    (client : BinanceRestClient) :
    orchestrator.ensureDisasterStop (ExecutionService.routed rules guardian client) filledOrder state
        stopDistancePct =
      (OrderRouter.place { binance := client, symbolRules := rules } plan.request).map some := by
  simp only [ProtectionOrchestrator.ensureDisasterStop, planned]
  rfl

/-- Without a sent request the exchange is not asked. -/
theorem ensureDisasterStop_unsent
    (unsent : orchestrator.sentStop rules filledOrder state stopDistancePct = none)
    (client client' : BinanceRestClient) :
    orchestrator.ensureDisasterStop (ExecutionService.routed rules guardian client) filledOrder state
        stopDistancePct =
      orchestrator.ensureDisasterStop (ExecutionService.routed rules guardian client') filledOrder state
        stopDistancePct := by
  cases planned : orchestrator.buildPlan filledOrder state stopDistancePct with
  | none => simp only [ProtectionOrchestrator.ensureDisasterStop, planned]
  | some plan =>
      rw [ensureDisasterStop_of_plan planned, ensureDisasterStop_of_plan planned]
      cases checked : PreTradeValidator.validate rules plan.request with
      | error error => simp only [OrderRouter.place, checked]; rfl
      | ok normalized =>
          simp [ProtectionOrchestrator.sentStop, planned, checked, Except.toOption] at unsent

/-- A sent request goes to the algo route as its payload, and the exchange's
refusal is the outcome. -/
theorem ensureDisasterStop_sent {request : OrderRequest}
    (sent : orchestrator.sentStop rules filledOrder state stopDistancePct = some request)
    (client : BinanceRestClient) {error : PyError}
    (refused : client.newAlgoOrder (OrderRouter.toPayload request) = .error error) :
    orchestrator.ensureDisasterStop (ExecutionService.routed rules guardian client) filledOrder state
      stopDistancePct = .error error := by
  obtain ⟨plan, planned, checked⟩ := Option.bind_eq_some_iff.mp sent
  rw [ensureDisasterStop_of_plan planned]
  cases outcome : PreTradeValidator.validate rules plan.request with
  | error e => rw [outcome] at checked; cases checked
  | ok normalized =>
      rw [outcome] at checked
      obtain rfl : normalized = request := Option.some.inj checked
      obtain ⟨quantity, price, triggerPrice, activatePrice, rounded⟩ :=
        PreTradeValidator.validate_rounds outcome
      have route : normalized.orderType.isAlgo = true := by rw [rounded]; rfl
      simp only [OrderRouter.place, outcome, bind, Except.bind, route, if_true, refused]
      rfl

/-- The trigger as the payload states it, and the side the request trades. -/
structure OnLossSide (position : PositionState) (request : OrderRequest) (trigger : ℚ) : Prop where
  sent : ("triggerPrice", PyValue.str (OrderRouter.decimalText trigger)) ∈ OrderRouter.toPayload request
  rounded : request.triggerPrice = some trigger
  positive : 0 < trigger
  long : position.direction = .long → trigger < position.entryPrice ∧ request.side = .sell
  short : position.direction = .short → position.entryPrice < trigger ∧ request.side = .buy

/-- The tick grid has a price between the entry and the intended stop: for a
long one at all, for a short one above the entry. -/
def TickToLossSide (position : PositionState) (distance tick : ℚ) : Prop :=
  (position.direction = .long → tick ≤ position.entryPrice * (1 - distance)) ∧
    (position.direction = .short → ∃ n : ℤ, position.entryPrice < n * tick ∧
      n * tick ≤ position.entryPrice * (1 + distance))

/-- The validator floors the trigger of a stop to the tick of its symbol. -/
theorem validate_trigger {plan : ProtectionPlan} {request : OrderRequest} {rule : SymbolRule}
    (accepted : PreTradeValidator.validate rules plan.request = .ok request)
    (ruled : rules.get? plan.symbol = some rule) (ticked : 0 < rule.tickSize)
    (priced : 0 < plan.triggerPrice) :
    request.triggerPrice = some (RoundingGrid.quantize Int.floor rule.tickSize plan.triggerPrice) := by
  obtain ⟨found, accepts⟩ := PreTradeValidator.validate_ok_iff.mp accepted
  obtain rfl : found = rule := PreTradeValidator.ruleFor_eq ruled accepts.ruled
  have floored := accepts.triggerPrice
  have stated : plan.request.triggerPrice = some plan.triggerPrice := rfl
  rw [stated, floorOptional, floorToStep_eq_quantize ticked priced.le] at floored
  exact (Except.ok.inj floored).symm

/-- A sent stop closes its position at the floored trigger. -/
theorem sentStop_floored {position : PositionState} {request : OrderRequest} {rule : SymbolRule}
    (stored : state.positions.get? (filledOrder.symbol, filledOrder.positionSide) = some position)
    (ruled : rules.get? position.symbol = some rule) (ticked : 0 < rule.tickSize)
    (sent : orchestrator.sentStop rules filledOrder state stopDistancePct = some request) :
    request.side = ProtectionOrchestrator.exitSide position ∧
      request.triggerPrice = some (RoundingGrid.quantize Int.floor rule.tickSize
        (ProtectionOrchestrator.buildTriggerPrice position (orchestrator.stopDistance stopDistancePct))) := by
  obtain ⟨plan, planned, checked⟩ := Option.bind_eq_some_iff.mp sent
  obtain ⟨-, found, same, -, -, priced, rfl⟩ := ExecutionService.buildPlan_some planned
  obtain rfl : position = found := Option.some.inj (stored.symm.trans same)
  cases outcome : PreTradeValidator.validate rules (ProtectionOrchestrator.planFor position
      (ProtectionOrchestrator.buildTriggerPrice position (orchestrator.stopDistance stopDistancePct))).request with
  | error e => rw [outcome] at checked; cases checked
  | ok normalized =>
      rw [outcome] at checked
      obtain rfl : normalized = request := Option.some.inj checked
      refine ⟨?_, validate_trigger outcome ruled ticked priced⟩
      obtain ⟨quantity, price, triggerPrice, activatePrice, rounded⟩ :=
        PreTradeValidator.validate_rounds outcome
      rw [rounded]
      rfl

theorem buildTriggerPrice_of_priced {position : PositionState} (priced : 0 < position.entryPrice)
    (distance : ℚ) :
    (position.direction = .long →
      ProtectionOrchestrator.buildTriggerPrice position distance = position.entryPrice * (1 - distance)) ∧
    (position.direction = .short →
      ProtectionOrchestrator.buildTriggerPrice position distance = position.entryPrice * (1 + distance)) := by
  constructor <;> intro direction <;>
    simp [ProtectionOrchestrator.buildTriggerPrice, priced.ne', priced.not_ge, direction]

theorem onLossSide_iff {position : PositionState} {request : OrderRequest} {trigger : ℚ}
    (side : request.side = ProtectionOrchestrator.exitSide position)
    (rounded : request.triggerPrice = some trigger) :
    (∃ trigger, OnLossSide position request trigger) ↔ 0 < trigger ∧
      (position.direction = .long → trigger < position.entryPrice) ∧
      (position.direction = .short → position.entryPrice < trigger) := by
  constructor
  · rintro ⟨other, -, same, positive, long, short⟩
    obtain rfl : trigger = other := Option.some.inj (rounded.symm.trans same)
    exact ⟨positive, fun rising => (long rising).1, fun falling => (short falling).1⟩
  · rintro ⟨positive, long, short⟩
    have payload : ("triggerPrice", PyValue.str (OrderRouter.decimalText trigger)) ∈
        OrderRouter.toPayload request := by
      simp [OrderRouter.toPayload, OrderRouter.optionalField, rounded]
    refine ⟨trigger, payload, rounded, positive, fun rising => ⟨long rising, ?_⟩,
      fun falling => ⟨short falling, ?_⟩⟩
    · rw [side, ProtectionOrchestrator.exitSide, rising]
      rfl
    · rw [side, ProtectionOrchestrator.exitSide, falling]
      rfl

/-- Flooring the intended trigger keeps it on the loss side exactly when the tick
grid has a price there. -/
theorem floored_trigger_iff {position : PositionState} {distance tick : ℚ}
    (directed : position.direction = .long ∨ position.direction = .short)
    (priced : 0 < position.entryPrice) (usable : 0 < distance) (ticked : 0 < tick) :
    let trigger := RoundingGrid.quantize Int.floor tick
      (ProtectionOrchestrator.buildTriggerPrice position distance)
    0 < trigger ∧ (position.direction = .long → trigger < position.entryPrice) ∧
        (position.direction = .short → position.entryPrice < trigger) ↔
      TickToLossSide position distance tick := by
  intro trigger
  obtain ⟨atLong, atShort⟩ := buildTriggerPrice_of_priced priced distance
  rcases directed with rising | falling
  · have below := RoundingGrid.quantize_floor_le ticked
      (ProtectionOrchestrator.buildTriggerPrice position distance)
    have positive := RoundingGrid.quantize_floor_pos_iff ticked
      (ProtectionOrchestrator.buildTriggerPrice position distance)
    rw [atLong rising] at below positive
    have lower : position.entryPrice * (1 - distance) < position.entryPrice := by nlinarith
    simp only [TickToLossSide, rising, reduceCtorEq, false_implies, and_true, true_implies, trigger,
      atLong rising, positive]
    exact and_iff_left (below.trans_lt lower)
  · have reached := RoundingGrid.lt_quantize_floor_iff ticked position.entryPrice
      (ProtectionOrchestrator.buildTriggerPrice position distance)
    rw [atShort falling] at reached
    simp only [TickToLossSide, falling, reduceCtorEq, false_implies, true_and, true_implies, trigger,
      atShort falling, ← reached]
    exact and_iff_right_of_imp priced.trans

variable (orchestrator rules filledOrder state stopDistancePct) in
/-- The rounded trigger lies on the loss side exactly when the tick grid has a
price there. -/
theorem sent_stop_on_loss_side_iff (position : PositionState) (request : OrderRequest) (rule : SymbolRule)
    (stored : state.positions.get? (filledOrder.symbol, filledOrder.positionSide) = some position)
    (directed : position.direction = .long ∨ position.direction = .short)
    (priced : 0 < position.entryPrice)
    (usable : 0 < orchestrator.stopDistance stopDistancePct ∧ orchestrator.stopDistance stopDistancePct < 1)
    (ruled : rules.get? position.symbol = some rule) (ticked : 0 < rule.tickSize)
    (sent : orchestrator.sentStop rules filledOrder state stopDistancePct = some request) :
    (∃ trigger, OnLossSide position request trigger) ↔
      TickToLossSide position (orchestrator.stopDistance stopDistancePct) rule.tickSize := by
  obtain ⟨side, floored⟩ := sentStop_floored stored ruled ticked sent
  rw [onLossSide_iff side floored]
  exact floored_trigger_iff directed priced usable.1 ticked

section Samples

def holding (position : PositionState) : AccountState where
  positions := .ofList [(position.key, position)]

def dogeFill : OrderState where
  symbol := "DOGEUSDT"
  status := .filled
  side := .sell
  orderId := some "9"
  createdAt := 0
  updatedAt := 0

def dogeRule : SymbolRule where
  symbol := "DOGEUSDT"
  tickSize := 1 / 10000
  stepSize := 1
  minQty := 1
  minNotional := 5

def dogeRules : PreTradeValidator.SymbolRules := .ofList [("DOGEUSDT", dogeRule)]

def dogeStop (exitSide : Side) (triggerPrice : ℚ) : OrderRequest :=
  OrderRouter.buildDisasterStopRequest "DOGEUSDT" exitSide triggerPrice "BOTH"
    (some "guardian-stop-dogeusdt-both")

theorem sent_stop_on_loss_side_doge :
    (∃ trigger, OnLossSide (dogePosition .long 1000 (1 / 10)) (dogeStop .sell (98 / 1000)) trigger) ↔
      TickToLossSide (dogePosition .long 1000 (1 / 10)) (2 / 100) (1 / 10000) :=
  sent_stop_on_loss_side_iff {} dogeRules dogeFill (holding (dogePosition .long 1000 (1 / 10))) none
    (dogePosition .long 1000 (1 / 10)) (dogeStop .sell (98 / 1000)) dogeRule
    (by decide +kernel) (.inl rfl) (by decide +kernel) (by decide +kernel) rfl (by decide +kernel)
    (by decide +kernel)

/-- Two percent above 0.0040 is less than a tick away, and the stop of the short
is sent at its entry price. -/
theorem short_stop_sent_at_entry :
    let position := dogePosition .short (-1000) (4 / 1000)
    ({} : ProtectionOrchestrator).sentStop dogeRules dogeFill (holding position) none =
        some (dogeStop .buy position.entryPrice) ∧
      ¬ ∃ trigger, OnLossSide position (dogeStop .buy position.entryPrice) trigger := by
  refine ⟨by decide +kernel, ?_⟩
  rintro ⟨trigger, -, rounded, -, -, short⟩
  have above := (short rfl).1
  rw [← Option.some.inj rounded] at above
  exact lt_irrefl _ above

end Samples

end Sent

end CatsPy
