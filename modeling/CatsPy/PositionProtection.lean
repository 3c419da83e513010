import CatsPy.OrderRouting
import CatsPy.StateRuns

/-!
# Position protection

The guardian that scans for unprotected positions and places disaster stops,
the orchestrator that decides when a fill needs one, and the execution service
that composes them on every order update.
-/
namespace CatsPy
open PythonValues StateRuns

structure ProtectionAlert where
  symbol : String
  positionSide : String
  reason : String
  severity : String := "warning"
  deriving DecidableEq

/-- The heartbeat tasks are the symbols whose auto-cancel loop is running. -/
structure PositionGuardian where
  router : Option OrderRouter
  heartbeatTasks : List String := []
  heartbeatFailures : OrderedDict String ℕ := .empty
  heartbeatLastErrors : OrderedDict String String := .empty

/-- The test both the guardian and the orchestrator make of one order. -/
def OrderState.protects (order : OrderState) (position : PositionState) : Bool :=
  order.symbol = position.symbol ∧ order.positionSide = position.positionSide ∧ order.isAlgo ∧
    order.closePosition ∧ (order.status = .new ∨ order.status = .partiallyFilled)

namespace PositionGuardian

section Heartbeat

/-- One beat of the auto-cancel loop; the second failure in a row halts. -/
def heartbeat (guardian : PositionGuardian) (state : AccountState) (symbol : String)
    (outcome : Except PyError PyValue) : PositionGuardian × AccountState :=
  match outcome with
  | .ok _ => ({ guardian with
      heartbeatFailures := guardian.heartbeatFailures.set symbol 0
      heartbeatLastErrors := guardian.heartbeatLastErrors.pop symbol }, state)
  | .error error =>
      let failures := guardian.heartbeatFailures.getD symbol 0 + 1
      ({ guardian with
          heartbeatFailures := guardian.heartbeatFailures.set symbol failures
          heartbeatLastErrors := guardian.heartbeatLastErrors.set symbol error.message },
        if 2 ≤ failures then state.activateKillSwitch
          ("countdownCancelAll heartbeat failed for " ++ symbol ++ ": " ++ error.message)
        else state)

def startAutoCancel (guardian : PositionGuardian) (symbol : String) : PositionGuardian × Bool :=
  if symbol ∈ guardian.heartbeatTasks then (guardian, false)
  else ({ guardian with
    heartbeatFailures := if guardian.heartbeatFailures.contains symbol then guardian.heartbeatFailures
      else guardian.heartbeatFailures.set symbol 0
    heartbeatTasks := guardian.heartbeatTasks ++ [symbol] }, true)

def stopAutoCancel (guardian : PositionGuardian) (symbol : String) : PositionGuardian × Bool :=
  if symbol ∈ guardian.heartbeatTasks then
    ({ guardian with heartbeatTasks := guardian.heartbeatTasks.erase symbol }, true)
  else (guardian, false)

end Heartbeat

section Scan

def hasActiveProtection (state : AccountState) (position : PositionState) : Bool :=
  state.orders.values.any fun order => order.protects position

def missingStopReason (position : PositionState) : String :=
  "missing active protective stop for " ++ position.symbol ++ ":" ++ position.positionSide

def missingStopAlert (position : PositionState) : ProtectionAlert where
  symbol := position.symbol
  positionSide := position.positionSide
  reason := missingStopReason position
  severity := "critical"

/-- The scan of one position: an open one without protection halts and alerts. -/
def scanPosition (acc : AccountState × List ProtectionAlert) (position : PositionState) :
    AccountState × List ProtectionAlert :=
  if position.isOpen && !hasActiveProtection acc.1 position then
    (acc.1.activateKillSwitch (missingStopReason position), acc.2 ++ [missingStopAlert position])
  else acc

def findUnprotectedPositions (state : AccountState) : AccountState × List ProtectionAlert :=
  state.positions.values.foldl scanPosition (state, [])

def protectionLost (status : OrderLifecycleStatus) : Bool :=
  status = .rejected ∨ status = .canceled ∨ status = .expired

def lostStopReason (order : OrderState) : String :=
  "protective order " ++ order.status.value.toLower ++ " for " ++ order.symbol ++ ":" ++
    order.positionSide

/-- A lost stop on an open position halts and alerts. -/
def handleProtectionOrderUpdate (state : AccountState) (order : OrderState) :
    AccountState × Option ProtectionAlert :=
  if order.isAlgo && order.closePosition && protectionLost order.status then
    match state.positions.get? (order.symbol, order.positionSide) with
    | none => (state, none)
    | some position =>
        if position.isOpen then
          (state.activateKillSwitch (lostStopReason order),
            some { symbol := order.symbol, positionSide := order.positionSide
                   reason := lostStopReason order, severity := "critical" })
        else (state, none)
  else (state, none)

end Scan

def placeDisasterStop (guardian : PositionGuardian) (symbol : String) (exitSide : Side)
    (triggerPrice : ℚ) (positionSide : String) (clientOrderId : Option String) :
    Except PyError OrderResponse :=
  match guardian.router with
  | none => .error ⟨.runtimeError, "PositionGuardian requires an OrderRouter to place disaster stops"⟩
  | some router => router.place
      (OrderRouter.buildDisasterStopRequest symbol exitSide triggerPrice positionSide clientOrderId)

end PositionGuardian

structure ProtectionPlan where
  symbol : String
  positionSide : String
  exitSide : Side
  triggerPrice : ℚ
  clientOrderId : String
  deriving DecidableEq

structure ProtectionOrchestrator where
  defaultStopDistancePct : ℚ := 2 / 100

namespace ProtectionOrchestrator

def isNewEntryFill (order : OrderState) : Bool :=
  order.status = .filled ∧ !order.reduceOnly ∧ !order.closePosition ∧ !order.isAlgo

def hasExistingProtection (state : AccountState) (position : PositionState) : Bool :=
  state.orders.values.any fun order => order.protects position

def buildTriggerPrice (position : PositionState) (stopDistancePct : ℚ) : ℚ :=
  let referencePrice := if position.entryPrice ≠ 0 then position.entryPrice else position.markPrice
  if referencePrice ≤ 0 then 0
  else match position.direction with
    | .long => referencePrice * (1 - stopDistancePct)
    | .short => referencePrice * (1 + stopDistancePct)
    | .flat => 0

def exitSide (position : PositionState) : Side :=
  if position.direction = .short then .buy else .sell

def stopClientOrderId (position : PositionState) : String :=
  "guardian-stop-" ++ position.symbol.toLower ++ "-" ++ position.positionSide.toLower

def planFor (position : PositionState) (triggerPrice : ℚ) : ProtectionPlan where
  symbol := position.symbol
  positionSide := position.positionSide
  exitSide := exitSide position
  triggerPrice := triggerPrice
  clientOrderId := stopClientOrderId position

/-- `stop_distance_pct or default`: an absent or zero distance takes the default. -/
def stopDistance (orchestrator : ProtectionOrchestrator) (stopDistancePct : Option ℚ) : ℚ :=
  (stopDistancePct.filter (· ≠ 0)).getD orchestrator.defaultStopDistancePct

/-- The stop a fill calls for, if its position is open, unprotected and priced. -/
def buildPlan (orchestrator : ProtectionOrchestrator) (filledOrder : OrderState) (state : AccountState)
    (stopDistancePct : Option ℚ := none) : Option ProtectionPlan :=
  let distance := (stopDistancePct.filter (· ≠ 0)).getD orchestrator.defaultStopDistancePct
  if !isNewEntryFill filledOrder then none
  else match state.positions.get? (filledOrder.symbol, filledOrder.positionSide) with
    | none => none
    | some position =>
        if !position.isOpen || hasExistingProtection state position then none
        else if buildTriggerPrice position distance ≤ 0 then none
        else some (planFor position (buildTriggerPrice position distance))

def ensureDisasterStop (orchestrator : ProtectionOrchestrator) (guardian : PositionGuardian)
    (filledOrder : OrderState) (state : AccountState) (stopDistancePct : Option ℚ := none) :
    Except PyError (Option OrderResponse) :=
  match orchestrator.buildPlan filledOrder state stopDistancePct with
  | none => .ok none
  | some plan => (guardian.placeDisasterStop plan.symbol plan.exitSide plan.triggerPrice
      plan.positionSide (some plan.clientOrderId)).map some

end ProtectionOrchestrator

structure ExecutionCycleResult where
  placedProtection : Option OrderResponse := none
  protectionAlerts : List ProtectionAlert := []
  heartbeatStarted : List String := []
  heartbeatStopped : List String := []

structure ExecutionService where
  protection : ProtectionOrchestrator := {}

namespace ExecutionService
open PositionGuardian ProtectionOrchestrator

def hasOpenSymbolPosition (state : AccountState) (symbol : String) : Bool :=
  state.positions.values.any fun position => position.symbol = symbol ∧ position.isOpen

/-- What is placed for an order update; algo orders are never entries. -/
def placeProtection (service : ExecutionService) (guardian : PositionGuardian) (state : AccountState)
    (order : OrderState) : Except PyError (Option OrderResponse) :=
  if order.isAlgo then .ok none
  else service.protection.ensureDisasterStop guardian order state

/-- The steps after placement: heartbeat, lost stops, the scan, heartbeat end. -/
def guardPosition (guardian : PositionGuardian) (state : AccountState) (order : OrderState)
    (placed : Option OrderResponse) : (PositionGuardian × AccountState) × ExecutionCycleResult :=
  let (beating, started) := if placed.isSome then guardian.startAutoCancel order.symbol
    else (guardian, false)
  let (checked, lost) := handleProtectionOrderUpdate state order
  let (scanned, missing) := findUnprotectedPositions checked
  let (guarded, stopped) := if hasOpenSymbolPosition scanned order.symbol then (beating, false)
    else beating.stopAutoCancel order.symbol
  ((guarded, scanned),
    { placedProtection := placed
      protectionAlerts := lost.toList ++ missing
      heartbeatStarted := if started then [order.symbol] else []
      heartbeatStopped := if stopped then [order.symbol] else [] })

/-- `handle_order_update`: a failed placement raises before anything else runs. -/
def handleOrderUpdate (service : ExecutionService) (guardian : PositionGuardian) (state : AccountState)
    (order : OrderState) : (PositionGuardian × AccountState) × Except PyError ExecutionCycleResult :=
  match service.placeProtection guardian state order with
  | .error error => ((guardian, state), .error error)
  | .ok placed =>
      let (left, result) := guardPosition guardian state order placed
      (left, .ok result)

end ExecutionService

end CatsPy
