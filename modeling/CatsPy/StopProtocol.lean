import CatsPy.ProtectionFailures
import CatsPy.RequestNormalization
import CatsPy.UserStream

/-!
# Stops between the fill and the acknowledgement

The private stream and the execution service as one transition system. A fill
sends a stop request, the exchange decides it, and its algo events reach the
account state whenever the stream delivers them.
-/
namespace CatsPy
open PythonValues StateRuns

section Submissions

/-- The request `place_disaster_stop` makes of a plan. -/
def ProtectionPlan.request (plan : ProtectionPlan) : OrderRequest :=
  OrderRouter.buildDisasterStopRequest plan.symbol plan.exitSide plan.triggerPrice plan.positionSide
    (some plan.clientOrderId)

def ProtectionPlan.key (plan : ProtectionPlan) : String × String := (plan.symbol, plan.positionSide)

/-- The validator only rounds the four numbers. -/
theorem PreTradeValidator.validate_rounds {rules : SymbolRules} {request normalized : OrderRequest}
    {markPrice : Option ℚ} (accepted : validate rules request markPrice = .ok normalized) :
    ∃ quantity price triggerPrice activatePrice,
      normalized = { request with quantity, price, triggerPrice, activatePrice } := by
  obtain ⟨rule, accepts⟩ := validate_ok_iff.mp accepted
  exact ⟨_, _, _, _, accepts.others⟩

namespace ExecutionService

variable (service : ExecutionService) (rules : PreTradeValidator.SymbolRules)

/-- The plan whose request gets past the validator and so reaches the exchange. -/
def submission (state : AccountState) (order : OrderState) : Option ProtectionPlan :=
  if order.isAlgo then none
  else (service.protection.buildPlan order state).filter fun plan =>
    (PreTradeValidator.validate rules plan.request).isOk

/-- The guardian with a router over this client. -/
def routed (guardian : PositionGuardian) (client : BinanceRestClient) : PositionGuardian :=
  { guardian with router := some { binance := client, symbolRules := rules } }

variable {service rules} {guardian : PositionGuardian} {state : AccountState} {order : OrderState}

theorem placeProtection_of_plan {plan : ProtectionPlan} (entry : order.isAlgo = false)
    (planned : service.protection.buildPlan order state = some plan) (client : BinanceRestClient) :
    service.placeProtection (routed rules guardian client) state order =
      (OrderRouter.place { binance := client, symbolRules := rules } plan.request).map some := by
  simp only [placeProtection, entry, ProtectionOrchestrator.ensureDisasterStop, planned]
  rfl

/-- Without a submission the exchange is not asked: any two clients give the same outcome. -/
theorem placeProtection_unsubmitted (none_sent : service.submission rules state order = none)
    (client client' : BinanceRestClient) :
    service.placeProtection (routed rules guardian client) state order =
      service.placeProtection (routed rules guardian client') state order := by
  cases algo : order.isAlgo with
  | true => simp [placeProtection, algo]
  | false =>
      cases planned : service.protection.buildPlan order state with
      | none => simp [placeProtection, algo, ProtectionOrchestrator.ensureDisasterStop, planned]
      | some plan =>
          rw [placeProtection_of_plan algo planned, placeProtection_of_plan algo planned]
          cases checked : PreTradeValidator.validate rules plan.request with
          | error error => simp only [OrderRouter.place, checked]; rfl
          | ok normalized =>
              simp [submission, algo, planned, checked, Except.isOk, Except.toBool] at none_sent

/-- A submission is a `closePosition` request of the plan's symbol and side on the
algo route, and the exchange's refusal is the outcome of the placement. -/
theorem placeProtection_submitted {plan : ProtectionPlan}
    (sent : service.submission rules state order = some plan) :
    ∃ payload : List (String × PyValue), ("symbol", .str plan.symbol) ∈ payload ∧
      ("positionSide", .str plan.positionSide) ∈ payload ∧ ("closePosition", .str "true") ∈ payload ∧
      ∀ client error, client.newAlgoOrder payload = .error error →
        service.placeProtection (routed rules guardian client) state order = .error error := by
  cases algo : order.isAlgo with
  | true => simp [submission, algo] at sent
  | false =>
      simp only [submission, algo, Bool.false_eq_true, if_false, Option.filter_eq_some_iff] at sent
      obtain ⟨planned, checked⟩ := sent
      cases outcome : PreTradeValidator.validate rules plan.request with
      | error error => rw [outcome] at checked; cases checked
      | ok normalized =>
          obtain ⟨quantity, price, triggerPrice, activatePrice, rounded⟩ :=
            PreTradeValidator.validate_rounds outcome
          refine ⟨OrderRouter.toPayload normalized, ?_, ?_, ?_, ?_⟩
          · simp [OrderRouter.toPayload, rounded, ProtectionPlan.request, OrderRouter.buildDisasterStopRequest]
          · simp [OrderRouter.toPayload, rounded, ProtectionPlan.request, OrderRouter.buildDisasterStopRequest]
          · simp [OrderRouter.toPayload, OrderRouter.flagField, rounded, ProtectionPlan.request,
              OrderRouter.buildDisasterStopRequest]
          · intro client error refused
            have route : normalized.orderType.isAlgo = true := by rw [rounded]; rfl
            rw [placeProtection_of_plan algo planned]
            simp only [OrderRouter.place, outcome, bind, Except.bind, route, if_true, refused]
            rfl

end ExecutionService

end Submissions

/-- A conditional stop at the exchange. The exchange numbers it from one and
lists no instrument without a name. -/
structure ListedStop where
  algoId : ℕ
  symbol : String
  positionSide : String
  numbered : 0 < algoId
  named : symbol ≠ ""
  sided : positionSide ≠ ""
  deriving DecidableEq

def ListedStop.key (stop : ListedStop) : String × String := (stop.symbol, stop.positionSide)

/-- The key its algo events are stored under. -/
def ListedStop.identity (stop : ListedStop) : String := "algo:" ++ toString (stop.algoId : ℤ)

/-- What the exchange says about a stop; a new one is acknowledged with `NEW`. -/
structure AlgoUpdate where
  stop : ListedStop
  status : OrderLifecycleStatus
  deriving DecidableEq

def AlgoUpdate.payload (update : AlgoUpdate) : PyValue :=
  .dict [("e", .str "ALGO_UPDATE"), ("o", .dict [("s", .str update.stop.symbol),
    ("ps", .str update.stop.positionSide), ("ai", .int update.stop.algoId),
    ("X", .str update.status.value), ("ot", .str "STOP_MARKET"), ("cp", .bool true)])]

/-- The account state, the handlers that await an answer, the requests the exchange
has not decided, the stops working there and the algo events still on their way. -/
structure StopProtocol where
  account : AccountState
  guardian : PositionGuardian
  awaiting : List OrderState := []
  pending : List ProtectionPlan := []
  working : List ListedStop := []
  inFlight : List AlgoUpdate := []
  lastAlgoId : ℕ := 0

inductive StopOp where
  /-- Any other event of the private stream. -/
  | stream (payload : PyValue) (now : Datetime)
  | handle (order : OrderState)
  /-- The exchange decides a pending request. -/
  | settle (request : ℕ) (accepted : Bool)
  /-- A waiting handler is answered and goes on. The acknowledgement may come first,
  and an accepted stop may still be answered by an error. -/
  | answer (handler : ℕ) (response : Except PyError OrderResponse)
  | deliver (update : AlgoUpdate) (now : Datetime)
  /-- A working stop is triggered, canceled or expires. -/
  | finish (stop : ListedStop) (status : OrderLifecycleStatus)

namespace StopProtocol
open ExecutionService

/-- Any client will do where nothing is sent. -/
def unreachable : BinanceRestClient := ⟨fun _ _ => .error ⟨.transport, "unreachable"⟩⟩

/-- The next stop of the exchange for a plan it accepts. -/
def listing (s : StopProtocol) (plan : ProtectionPlan) (accepted : Bool) : Option ListedStop :=
  if h : accepted = true ∧ plan.symbol ≠ "" ∧ plan.positionSide ≠ "" then
    some ⟨s.lastAlgoId + 1, plan.symbol, plan.positionSide, Nat.succ_pos _, h.2.1, h.2.2⟩
  else none

def accept (s : StopProtocol) (stop : ListedStop) : StopProtocol :=
  { s with
    working := s.working ++ [stop]
    inFlight := s.inFlight ++ [⟨stop, .new⟩]
    lastAlgoId := stop.algoId }

/-- The rest of a handler whose request was answered; an error ends it. -/
def resume (s : StopProtocol) (order : OrderState) (answer : Except PyError OrderResponse) : StopProtocol :=
  match answer with
  | .error _ => s
  | .ok response =>
      let guarded := guardPosition s.guardian s.account order (some response)
      { s with guardian := guarded.1.1, account := guarded.1.2 }

variable (service : ExecutionService) (rules : PreTradeValidator.SymbolRules)

def step (s : StopProtocol) : StopOp → StopProtocol
  | .stream payload now =>
      if BinanceUserEventHandler.eventType payload = "ALGO_UPDATE" then s
      else { s with account := final (BinanceUserEventHandler.apply s.account payload now) }
  | .handle order =>
      match service.submission rules s.account order with
      | some plan => { s with awaiting := s.awaiting ++ [order], pending := s.pending ++ [plan] }
      | none =>
          let outcome := service.handleOrderUpdate (routed rules s.guardian unreachable) s.account order
          { s with guardian := outcome.1.1, account := outcome.1.2 }
  | .settle request accepted =>
      match s.pending[request]? with
      | none => s
      | some plan =>
          let decided := { s with pending := s.pending.eraseIdx request }
          match s.listing plan accepted with
          | none => decided
          | some stop => decided.accept stop
  | .answer handler response =>
      match s.awaiting[handler]? with
      | none => s
      | some order => { s with awaiting := s.awaiting.eraseIdx handler }.resume order response
  | .deliver update now =>
      if update ∈ s.inFlight then
        { s with
          account := final (BinanceUserEventHandler.apply s.account update.payload now)
          inFlight := s.inFlight.erase update }
      else s
  | .finish stop status =>
      if stop ∈ s.working then
        { s with
          working := s.working.filter (· ≠ stop)
          inFlight := s.inFlight ++ [⟨stop, status⟩] }
      else s

/-- The symbols and sides a step submits a stop for. -/
def submitted (s : StopProtocol) : StopOp → List (String × String)
  | .handle order => ((service.submission rules s.account order).map ProtectionPlan.key).toList
  | _ => []

/-- A stop of this symbol and side is at the exchange, or its request is. -/
def Covered (key : String × String) (s : StopProtocol) : Prop :=
  (∃ sent ∈ s.pending, sent.key = key) ∨ ∃ stop ∈ s.working, stop.key = key

instance (key : String × String) (s : StopProtocol) : Decidable (Covered key s) :=
  inferInstanceAs (Decidable (_ ∨ _))

/-- No entry fill is handled while a stop of its position has been requested or
works without being acknowledged. -/
def Acknowledged (s : StopProtocol) : StopOp → Prop
  | .handle order => ProtectionOrchestrator.isNewEntryFill order = true →
      ∀ position, s.account.positions.get? (order.symbol, order.positionSide) = some position →
        (∀ sent ∈ s.pending, sent.key ≠ position.key) ∧
        ∀ stop ∈ s.working, stop.key = position.key → ⟨stop, .new⟩ ∉ s.inFlight
  | _ => True

section Atomic

variable {service rules} {s : StopProtocol} {order : OrderState} {plan : ProtectionPlan}

/-- An error ends the handler before the scan, as it ends `handle_order_update`. -/
theorem resume_account (client : BinanceRestClient) {answer : Except PyError OrderResponse}
    (answered : service.placeProtection (routed rules s.guardian client) s.account order = answer.map some) :
    (s.resume order answer).account =
      (service.handleOrderUpdate (routed rules s.guardian client) s.account order).1.2 := by
  cases answer with
  | error error =>
      simp only [handleOrderUpdate, answered]
      rfl
  | ok response =>
      simp only [handleOrderUpdate, answered]
      rfl

/-- With nothing in between, a handler that is started, decided and answered is one
call of `handle_order_update` on a client that gives this answer. -/
theorem answer_handle (sent : service.submission rules s.account order = some plan)
    (client : BinanceRestClient) (accepted : Bool) (answer : Except PyError OrderResponse)
    (answered : service.placeProtection (routed rules s.guardian client) s.account order = answer.map some) :
    (run (step service rules) s
        [.handle order, .settle s.pending.length accepted, .answer s.awaiting.length answer]).account =
      (service.handleOrderUpdate (routed rules s.guardian client) s.account order).1.2 := by
  have started : step service rules s (.handle order) =
      { s with awaiting := s.awaiting ++ [order], pending := s.pending ++ [plan] } := by
    simp only [step, sent]
  rw [run_cons, run_cons, run_cons, run_nil, started]
  simp only [step, List.getElem?_concat_length]
  cases StopProtocol.listing { s with awaiting := s.awaiting ++ [order], pending := s.pending ++ [plan] } plan
      accepted with
  | none =>
      simp only [List.getElem?_concat_length]
      exact resume_account client answered
  | some stop =>
      simp only [accept, List.getElem?_concat_length]
      exact resume_account client answered

/-- A handler that submits nothing is one call of `handle_order_update`. -/
theorem handle_unsubmitted (none_sent : service.submission rules s.account order = none)
    (client : BinanceRestClient) :
    (step service rules s (.handle order)).account =
      (service.handleOrderUpdate (routed rules s.guardian client) s.account order).1.2 := by
  have same : service.placeProtection (routed rules s.guardian unreachable) s.account order =
      service.placeProtection (routed rules s.guardian client) s.account order :=
    placeProtection_unsubmitted none_sent unreachable client
  simp only [step, none_sent, handleOrderUpdate, same]
  cases service.placeProtection (routed rules s.guardian client) s.account order <;> rfl

end Atomic

end StopProtocol

end CatsPy
