import CatsPy.StopProtocol

/-!
# One stop per acknowledged fill

Every working stop is either recorded as active or its acknowledgement is in
flight, whatever the stream delivers. While acknowledgements are waited for, no
position gets a second stop.
-/
namespace CatsPy
open PythonValues StateRuns

section Frames

/-- An order without algo id is never stored under an algo key. -/
theorem OrderState.identity_ne_algo {order : OrderState} {identity : String}
    (plain : order.algoOrderId = none) (identified : order.identity = .ok identity) (text : String) :
    "algo:" ++ text ≠ identity := by
  intro same
  subst same
  simp only [OrderState.identity, plain] at identified
  split_ifs at identified with algo orderId client
  · exact absurd algo (by decide)
  · have texts := congrArg String.toList (Except.ok.inj identified)
    simp at texts
  · have texts := congrArg String.toList (Except.ok.inj identified)
    simp at texts

namespace BinanceUserEventHandler

theorem applyAccountUpdate_orders (state : AccountState) (payload : PyValue) (eventTime : Datetime) :
    (final (applyAccountUpdate state payload eventTime)).orders = state.orders :=
  applyAccountUpdate_preserves (P := fun after => after.orders = state.orders) (fun _ _ same => same)
    (fun _ _ same => same) state payload eventTime rfl

/-- A trade event leaves every algo key alone. -/
theorem applyOrder_trade_algo (state : AccountState) (order : PyValue) (eventTime : Datetime) (text : String) :
    (final (applyOrder tradeOrder state order eventTime)).orders.get? ("algo:" ++ text) =
      state.orders.get? ("algo:" ++ text) := by
  unfold applyOrder
  split
  · rfl
  · split
    · rfl
    · next symbol _ =>
      cases parsed : tradeOrder order symbol eventTime with
      | error error => rfl
      | ok decoded =>
          change (final (raiseFrom state (state.upsertOrder decoded))).orders.get? _ = _
          cases identified : decoded.identity with
          | error error =>
              rw [AccountState.upsertOrder, identified]
              rfl
          | ok identity =>
              rw [AccountState.upsertOrder, identified]
              exact OrderedDict.get?_set_of_ne _ _
                (OrderState.identity_ne_algo (orderOf_ids parsed).1 identified text)

theorem apply_algo (state : AccountState) (payload : PyValue) (now : Datetime)
    (other : eventType payload ≠ "ALGO_UPDATE") (text : String) :
    (final (apply state payload now)).orders.get? ("algo:" ++ text) =
      state.orders.get? ("algo:" ++ text) := by
  unfold apply
  cases payload.get "E" with
  | error error => rfl
  | ok first =>
      cases dated : toDatetime ((first.or (payload.item "eventTime")).or (payload.item "T")) now with
      | error error =>
          simp only [raiseFrom, Except.mapError, bind, Except.bind, dated]
          rfl
      | ok eventTime =>
          simp only [raiseFrom, Except.mapError, bind, Except.bind, dated]
          split_ifs with account trade
          · rw [applyAccountUpdate_orders]
            rfl
          · exact applyOrder_trade_algo _ _ _ text
          · rfl

end BinanceUserEventHandler

namespace ExecutionService

theorem guardPosition_orders (guardian : PositionGuardian) (state : AccountState) (order : OrderState)
    (placed : Option OrderResponse) : (guardPosition guardian state order placed).1.2.orders = state.orders := by
  change (PositionGuardian.findUnprotectedPositions
    (PositionGuardian.handleProtectionOrderUpdate state order).1).1.orders = _
  exact ((PositionGuardian.scan_eq _ _ _).2.1).trans
    (PositionGuardian.handleProtectionOrderUpdate_frame state order).1

theorem handleOrderUpdate_orders (service : ExecutionService) (guardian : PositionGuardian)
    (state : AccountState) (order : OrderState) :
    (service.handleOrderUpdate guardian state order).1.2.orders = state.orders := by
  unfold handleOrderUpdate
  cases service.placeProtection guardian state order with
  | error error => rfl
  | ok placed => exact guardPosition_orders guardian state order placed

end ExecutionService

end Frames

section Deliveries

theorem parseOrderStatus_value (status : OrderLifecycleStatus) :
    parseOrderStatus (.str status.value) = status := by
  cases status <;> decide +kernel

/-- What the handler stores for an algo event of a listed stop. -/
def AlgoUpdate.recorded (update : AlgoUpdate) (now : Datetime) : OrderState :=
  { symbol := update.stop.symbol, status := update.status, side := .buy
    positionSide := update.stop.positionSide, algoOrderId := some (toString (update.stop.algoId : ℤ))
    orderType := some .stopMarket, price := some 0, avgPrice := some 0, origQty := some 0
    closePosition := true, isAlgo := true, createdAt := now, updatedAt := now }

theorem OrderLifecycleStatus.value_ne_empty (status : OrderLifecycleStatus) : status.value ≠ "" := by
  cases status <;> decide

theorem AlgoUpdate.decoded (update : AlgoUpdate) (now : Datetime) :
    BinanceUserEventHandler.algoOrder (.dict [("s", .str update.stop.symbol),
      ("ps", .str update.stop.positionSide), ("ai", .int update.stop.algoId), ("X", .str update.status.value),
      ("ot", .str "STOP_MARKET"), ("cp", .bool true)]) update.stop.symbol now = .ok (update.recorded now) := by
  have numbered : update.stop.algoId ≠ 0 := Nat.ne_of_gt update.stop.numbered
  have sided := update.stop.sided
  have status := update.status.value_ne_empty
  have texts : parseOrderStatus (.str update.status.value) = update.status :=
    parseOrderStatus_value update.status
  have stopType : parseOrderType (.str "STOP_MARKET") = some .stopMarket := by decide
  simp [BinanceUserEventHandler.algoOrder, BinanceUserEventHandler.orderOf, eitherItem, PyValue.item,
    PyValue.or, PyValue.truthy, List.lookup_cons, numbered, sided, status, toDecimalOrZero, texts,
    stopType, bind, Except.bind, pure, Except.pure, AlgoUpdate.recorded, positionSideOf, optionalText,
    PyValue.toStr, PyValue.repr, parseSide, toBool]

theorem ListedStop.identity_inj {stop other : ListedStop} (same : stop.identity = other.identity) :
    stop.algoId = other.algoId :=
  repr_inj ((String.append_right_inj "algo:").mp same)

theorem AlgoUpdate.identity_recorded (update : AlgoUpdate) (now : Datetime) :
    (update.recorded now).identity = .ok update.stop.identity := by
  have named : (ofOptional (update.recorded now).algoOrderId).truthy = true := by
    change decide (update.stop.algoId.repr ≠ "") = true
    simp
  rw [OrderState.identity, if_pos named]
  rfl

theorem AlgoUpdate.apply_payload (update : AlgoUpdate) (state : AccountState) (now : Datetime) :
    (final (BinanceUserEventHandler.apply state update.payload now)).orders =
      state.orders.set update.stop.identity (update.recorded now) := by
  have kind : BinanceUserEventHandler.eventType update.payload = "ALGO_UPDATE" := by
    simp [BinanceUserEventHandler.eventType, AlgoUpdate.payload, eitherItem, PyValue.item, PyValue.or,
      PyValue.truthy, PyValue.toStr]
  have named := update.stop.named
  unfold BinanceUserEventHandler.apply
  rw [kind]
  simp [AlgoUpdate.payload, PyValue.get, PyValue.item, List.lookup_cons, PyValue.or, PyValue.truthy,
    raiseFrom, Except.mapError, bind, Except.bind, toDatetime, BinanceUserEventHandler.applyAlgoUpdate,
    eitherItem, BinanceUserEventHandler.applyOrder, isDict, named, asText]
  rw [AlgoUpdate.decoded]
  simp only [AccountState.upsertOrder, AlgoUpdate.identity_recorded]
  rfl

end Deliveries

namespace StopProtocol
open ExecutionService PositionGuardian ProtectionOrchestrator

section Tracking

/-- The account state holds an active stop under the stop's own id. -/
def Recorded (account : AccountState) (stop : ListedStop) : Prop :=
  ∃ order, account.orders.get? stop.identity = some order ∧ order.symbol = stop.symbol ∧
    order.positionSide = stop.positionSide ∧ order.isAlgo = true ∧ order.closePosition = true ∧
    order.status = .new

theorem Recorded.congr {account account' : AccountState} {stop : ListedStop}
    (same : account'.orders.get? stop.identity = account.orders.get? stop.identity)
    (recorded : Recorded account stop) : Recorded account' stop := by
  obtain ⟨order, found, fields⟩ := recorded
  exact ⟨order, same.trans found, fields⟩

theorem Recorded.protects {account : AccountState} {stop : ListedStop} {position : PositionState}
    (recorded : Recorded account stop) (same : stop.key = position.key) :
    hasExistingProtection account position = true := by
  obtain ⟨order, found, symbol, side, algo, close, status⟩ := recorded
  have symbols : stop.symbol = position.symbol := congrArg Prod.fst same
  have sides : stop.positionSide = position.positionSide := congrArg Prod.snd same
  rw [hasExistingProtection, List.any_eq_true]
  refine ⟨order, (OrderedDict.mem_values_iff _ _).mpr ⟨_, found⟩, ?_⟩
  simp [OrderState.protects, symbol, side, algo, close, status, symbols, sides]

/-- Ids are used once, the events of a working stop are its acknowledgement, and
a working stop is acknowledged in flight or recorded. -/
structure Tracked (s : StopProtocol) : Prop where
  issued : ∀ stop ∈ s.working, stop.algoId ≤ s.lastAlgoId
  sent : ∀ update ∈ s.inFlight, update.stop.algoId ≤ s.lastAlgoId
  unique : ∀ stop ∈ s.working, ∀ other ∈ s.working, stop.algoId = other.algoId → stop = other
  current : ∀ update ∈ s.inFlight, ∀ stop ∈ s.working, update.stop.algoId = stop.algoId →
    update = ⟨stop, .new⟩
  known : ∀ stop ∈ s.working, ⟨stop, .new⟩ ∈ s.inFlight ∨ Recorded s.account stop

theorem tracked_start (account : AccountState) (guardian : PositionGuardian) :
    Tracked { account, guardian } := by
  constructor <;> simp

/-- A step that leaves the exchange and the recorded stops alone. -/
theorem Tracked.account_step {s : StopProtocol} (tracked : Tracked s) {account : AccountState}
    (same : ∀ text, account.orders.get? ("algo:" ++ text) = s.account.orders.get? ("algo:" ++ text))
    (guardian : PositionGuardian) (awaiting : List OrderState) (pending : List ProtectionPlan) :
    Tracked { s with account, guardian, awaiting, pending } where
  issued := tracked.issued
  sent := tracked.sent
  unique := tracked.unique
  current := tracked.current
  known := by
    intro stop listed
    rcases tracked.known stop listed with flying | recorded
    · exact Or.inl flying
    · exact Or.inr (recorded.congr (same _))

/-- An accepted stop gets a new id and its acknowledgement goes out. -/
theorem Tracked.accept {s : StopProtocol} (tracked : Tracked s) {stop : ListedStop}
    (next : stop.algoId = s.lastAlgoId + 1) : Tracked (s.accept stop) where
  issued := by
    intro other listed
    rcases List.mem_append.mp listed with old | new
    · have := tracked.issued other old
      change other.algoId ≤ stop.algoId
      omega
    · rw [List.mem_singleton.mp new]
      exact le_rfl
  sent := by
    intro update flying
    rcases List.mem_append.mp flying with old | new
    · have := tracked.sent update old
      change update.stop.algoId ≤ stop.algoId
      omega
    · rw [List.mem_singleton.mp new]
      exact le_rfl
  unique := by
    intro first listed second listed' same
    rcases List.mem_append.mp listed with old | new <;> rcases List.mem_append.mp listed' with old' | new'
    · exact tracked.unique first old second old' same
    · have := tracked.issued first old
      rw [List.mem_singleton.mp new'] at same
      omega
    · have := tracked.issued second old'
      rw [List.mem_singleton.mp new] at same
      omega
    · rw [List.mem_singleton.mp new, List.mem_singleton.mp new']
  current := by
    intro update flying other listed same
    rcases List.mem_append.mp flying with old | new <;> rcases List.mem_append.mp listed with old' | new'
    · exact tracked.current update old other old' same
    · have := tracked.sent update old
      rw [List.mem_singleton.mp new'] at same
      omega
    · have := tracked.issued other old'
      rw [List.mem_singleton.mp new] at same
      change stop.algoId = other.algoId at same
      omega
    · rw [List.mem_singleton.mp new, List.mem_singleton.mp new']
  known := by
    intro other listed
    rcases List.mem_append.mp listed with old | new
    · rcases tracked.known other old with flying | recorded
      · exact Or.inl (List.mem_append_left _ flying)
      · exact Or.inr recorded
    · rw [List.mem_singleton.mp new]
      exact Or.inl (List.mem_append_right _ (List.mem_singleton.mpr rfl))

/-- A delivery records the stop it is about and touches no other. -/
theorem Tracked.deliver {s : StopProtocol} (tracked : Tracked s) {update : AlgoUpdate}
    (flying : update ∈ s.inFlight) {account : AccountState} (now : Datetime)
    (stored : account.orders = s.account.orders.set update.stop.identity (update.recorded now)) :
    Tracked { s with account, inFlight := s.inFlight.erase update } where
  issued := tracked.issued
  sent := fun other later => tracked.sent other (List.mem_of_mem_erase later)
  unique := tracked.unique
  current := fun other later => tracked.current other (List.mem_of_mem_erase later)
  known := by
    intro stop listed
    by_cases same : update.stop.algoId = stop.algoId
    · have acknowledged := tracked.current update flying stop listed same
      subst acknowledged
      refine Or.inr ⟨AlgoUpdate.recorded ⟨stop, .new⟩ now, ?_, rfl, rfl, rfl, rfl, rfl⟩
      change account.orders.get? stop.identity = _
      rw [stored, OrderedDict.get?_set_self]
    · rcases tracked.known stop listed with waiting | recorded
      · left
        apply (List.mem_erase_of_ne _).mpr waiting
        rintro rfl
        exact same rfl
      · right
        apply recorded.congr
        change account.orders.get? stop.identity = _
        rw [stored, OrderedDict.get?_set_of_ne]
        intro shared
        exact same (ListedStop.identity_inj shared).symm

/-- A stop that is finished no longer works, so any last word about it is allowed. -/
theorem Tracked.finish {s : StopProtocol} (tracked : Tracked s) {stop : ListedStop}
    (listed : stop ∈ s.working) (status : OrderLifecycleStatus) :
    Tracked { s with
      working := s.working.filter (· ≠ stop)
      inFlight := s.inFlight ++ [⟨stop, status⟩] } where
  issued := fun other still => tracked.issued other (List.mem_of_mem_filter still)
  sent := by
    intro update flying
    rcases List.mem_append.mp flying with old | new
    · exact tracked.sent update old
    · rw [List.mem_singleton.mp new]
      exact tracked.issued stop listed
  unique := fun first still second still' =>
    tracked.unique first (List.mem_of_mem_filter still) second (List.mem_of_mem_filter still')
  current := by
    intro update flying other still same
    obtain ⟨old', differs⟩ := List.mem_filter.mp still
    rcases List.mem_append.mp flying with old | new
    · exact tracked.current update old other old' same
    · rw [List.mem_singleton.mp new] at same
      have is_stop := tracked.unique stop listed other old' same
      simp [is_stop] at differs
  known := by
    intro other still
    rcases tracked.known other (List.mem_of_mem_filter still) with flying | recorded
    · exact Or.inl (List.mem_append_left _ flying)
    · exact Or.inr recorded

end Tracking

section Steps

variable (service : ExecutionService) (rules : PreTradeValidator.SymbolRules)

theorem Tracked.resume {s : StopProtocol} (tracked : Tracked s) (order : OrderState)
    (answer : Except PyError OrderResponse) : Tracked (s.resume order answer) := by
  cases answer with
  | error error => exact tracked
  | ok response =>
      apply tracked.account_step
      intro text
      rw [guardPosition_orders]

theorem listing_algoId {s : StopProtocol} {plan : ProtectionPlan} {accepted : Bool} {stop : ListedStop}
    (listed : s.listing plan accepted = some stop) : stop.algoId = s.lastAlgoId + 1 := by
  unfold listing at listed
  split at listed
  · cases listed
    rfl
  · cases listed

theorem step_tracked (s : StopProtocol) (op : StopOp) (tracked : Tracked s) :
    Tracked (step service rules s op) := by
  cases op with
  | stream payload now =>
      simp only [step]
      split
      · exact tracked
      · next other =>
        apply tracked.account_step
        exact BinanceUserEventHandler.apply_algo s.account payload now other
  | handle order =>
      simp only [step]
      cases service.submission rules s.account order with
      | some plan => exact tracked.account_step (fun _ => rfl) _ _ _
      | none =>
          apply tracked.account_step
          intro text
          rw [handleOrderUpdate_orders]
  | settle request accepted =>
      simp only [step]
      cases s.pending[request]? with
      | none => exact tracked
      | some plan =>
          have decided : Tracked { s with pending := s.pending.eraseIdx request } :=
            tracked.account_step (fun _ => rfl) _ _ _
          cases listed : s.listing plan accepted with
          | none =>
              simp only [listed]
              exact decided
          | some stop =>
              simp only [listed]
              exact decided.accept (listing_algoId listed)
  | answer handler response =>
      simp only [step]
      cases s.awaiting[handler]? with
      | none => exact tracked
      | some order =>
          have released : Tracked { s with awaiting := s.awaiting.eraseIdx handler } :=
            tracked.account_step (fun _ => rfl) _ _ _
          exact released.resume order response
  | deliver update now =>
      simp only [step]
      split
      · next flying => exact tracked.deliver flying now (AlgoUpdate.apply_payload update s.account now)
      · exact tracked
  | finish stop status =>
      simp only [step]
      split
      · next listed => exact tracked.finish listed status
      · exact tracked

theorem submitted_length (s : StopProtocol) (op : StopOp) : (submitted service rules s op).length ≤ 1 := by
  cases op with
  | handle order =>
      simp only [submitted]
      cases (service.submission rules s.account order).map ProtectionPlan.key <;> simp
  | stream payload now => simp [submitted]
  | settle request accepted => simp [submitted]
  | answer handler response => simp [submitted]
  | deliver update now => simp [submitted]
  | finish stop status => simp [submitted]

/-- An entry fill handled after the acknowledgement finds the recorded stop. -/
theorem acknowledged_silent (s : StopProtocol) (op : StopOp) (key : String × String)
    (tracked : Tracked s) (acknowledged : Acknowledged s op) (covered : Covered key s) :
    key ∉ submitted service rules s op := by
  cases op with
  | handle order =>
      intro sent
      simp only [submitted, Option.mem_toList, Option.map_eq_some_iff] at sent
      obtain ⟨plan, submitted, plan_key⟩ := sent
      simp only [submission] at submitted
      split at submitted
      · cases submitted
      · obtain ⟨planned, -⟩ := Option.filter_eq_some_iff.mp submitted
        obtain ⟨filled, position, stored, -, bare, -, rfl⟩ := buildPlan_some planned
        obtain ⟨unsent, settled⟩ := acknowledged filled position stored
        change position.key = key at plan_key
        rcases covered with ⟨request, waiting, same⟩ | ⟨stop, listed, same⟩
        · exact unsent request waiting (same.trans plan_key.symm)
        · have same_position : stop.key = position.key := same.trans plan_key.symm
          rcases tracked.known stop listed with flying | recorded
          · exact settled stop listed same_position flying
          · rw [recorded.protects same_position] at bare
            cases bare
  | stream payload now => simp [submitted]
  | settle request accepted => simp [submitted]
  | answer handler response => simp [submitted]
  | deliver update now => simp [submitted]
  | finish stop status => simp [submitted]

end Steps

/-- In a run whose entry fills wait for acknowledgements, a stretch in which a
stop of one symbol and side stays at the exchange after the first step submits
at most one stop for them. -/
theorem acknowledged_run_submits_once (service : ExecutionService) (rules : PreTradeValidator.SymbolRules)
    (account : AccountState) (guardian : PositionGuardian) (before : List StopOp) (op : StopOp)
    (rest : List StopOp) (key : String × String)
    (acknowledged : Along (step service rules) Acknowledged { account, guardian } (before ++ op :: rest))
    (covered : Along (step service rules) (fun s _ => Covered key s)
      (step service rules (run (step service rules) { account, guardian } before) op) rest) :
    (trace (step service rules) (submitted service rules)
      (run (step service rules) { account, guardian } before) (op :: rest)).count key ≤ 1 := by
  have tracked : Tracked (run (step service rules) { account, guardian } before) :=
    run_invariant _ Tracked (step_tracked service rules) _ _ (tracked_start account guardian)
  have later := (along_append (step service rules) acknowledged).2
  have silent : key ∉ trace (step service rules) (submitted service rules)
      (step service rules (run (step service rules) { account, guardian } before) op) rest := by
    apply trace_avoids (step service rules) (submitted service rules) Tracked (step_tracked service rules)
      (fun s op => Acknowledged s op ∧ Covered key s) key
    · intro s op tracked both
      exact acknowledged_silent service rules s op key tracked both.1 both.2
    · exact step_tracked service rules _ op tracked
    · exact along_and (step service rules) later covered
  rw [trace, List.count_append, List.count_eq_zero.mpr silent]
  exact List.count_le_length.trans (submitted_length service rules _ op)

section Samples

theorem acknowledged_of_quiet {s : StopProtocol} (decided : s.pending.length = 0) (delivered : s.inFlight = [])
    (op : StopOp) : Acknowledged s op := by
  cases op with
  | handle order =>
      intro _ position _
      rw [List.length_eq_zero_iff] at decided
      simp [decided, delivered]
  | stream payload now => trivial
  | settle request accepted => trivial
  | answer handler response => trivial
  | deliver update now => trivial
  | finish stop status => trivial

/-- The long of the samples, before its first stop. -/
def entered : StopProtocol := { account := enteredLong, guardian := { router := none } }

def btcStop : ListedStop := ⟨1, "BTCUSDT", "BOTH", by decide, by decide, by decide⟩

def placedAnswer : Except PyError OrderResponse :=
  .ok { venueOrderId := some "1", route := "algo", status := "NEW", raw := .none }

/-- A second lot of the same entry. -/
def secondFill : OrderState := { filledEntry with orderId := some "124" }

/-- The acknowledgement of the stop is there before the answer to its request. -/
def acknowledgedFirst : List StopOp :=
  [.settle 0 true, .deliver ⟨btcStop, .new⟩ 0, .answer 0 placedAnswer, .handle secondFill]

theorem acknowledged_run_submits_once_btc :
    (trace (step {} btcRules) (submitted {} btcRules) entered (.handle filledEntry :: acknowledgedFirst)).count
      ("BTCUSDT", "BOTH") ≤ 1 := by
  refine acknowledged_run_submits_once {} btcRules enteredLong { router := none } [] (.handle filledEntry)
    acknowledgedFirst ("BTCUSDT", "BOTH") ?_ ?_
  · refine ⟨acknowledged_of_quiet rfl rfl _, trivial, trivial, trivial, ?_, trivial⟩
    exact acknowledged_of_quiet (by decide +kernel) (by decide +kernel) _
  · exact ⟨by decide +kernel, by decide +kernel, by decide +kernel, by decide +kernel, trivial⟩

/-- Two fills of one position before the first acknowledgement submit two stops:
the second goes out while the first is working. -/
theorem unacknowledged_fills_submit_twice :
    let answered := run (step {} btcRules) entered [.handle filledEntry, .settle 0 true, .answer 0 placedAnswer]
    answered.working = [btcStop] ∧ answered.inFlight = [⟨btcStop, .new⟩] ∧
      (trace (step {} btcRules) (submitted {} btcRules) entered
        [.handle filledEntry, .settle 0 true, .answer 0 placedAnswer, .handle secondFill]).count
          ("BTCUSDT", "BOTH") = 2 := by
  decide +kernel

end Samples

end StopProtocol

end CatsPy
