import CatsPy.GatewayStreams
import CatsPy.ReconcileProtection
import CatsPy.SnapshotExposures
import CatsPy.StopAcknowledgements
import Mathlib.Data.Finset.Card

/-!
# Gateway protection

What the gateway knows of protective stops it has from algo messages alone: a
rebuilt account starts without any, and each message adds one at most. So the
open positions a processed message leaves unhalted are no more than the algo
messages since the account was rebuilt.
-/
namespace CatsPy
open PythonValues StateRuns JsonText

namespace AccountState

/-- The symbols and sides for which an algo order is stored. -/
def stopKeys (state : AccountState) : Finset (String × String) :=
  ((state.orders.values.filter OrderState.isAlgo).map fun order => (order.symbol, order.positionSide)).toFinset

/-- Every position is stored under its own key. -/
def PositionsKeyed (state : AccountState) : Prop :=
  ∀ key position, state.positions.get? key = some position → position.key = key

section Stops

variable {state after : AccountState}

theorem mem_stopKeys {key : String × String} : key ∈ state.stopKeys ↔
    ∃ order ∈ state.orders.values, order.isAlgo = true ∧ (order.symbol, order.positionSide) = key := by
  simp only [stopKeys, List.mem_toFinset, List.mem_map, List.mem_filter, and_assoc]

theorem stopKeys_congr (orders : after.orders = state.orders) : after.stopKeys = state.stopKeys := by
  rw [stopKeys, stopKeys, orders]

/-- Storing an order adds its own key at most, and none for a plain order. -/
theorem stopKeys_set {identity : String} {order : OrderState}
    (orders : after.orders = state.orders.set identity order) :
    after.stopKeys ⊆ if order.isAlgo then insert (order.symbol, order.positionSide) state.stopKeys
      else state.stopKeys := by
  intro key stored
  obtain ⟨found, listed, algo, rfl⟩ := mem_stopKeys.mp stored
  rw [orders] at listed
  rcases OrderedDict.mem_values_set listed with rfl | before
  · rw [if_pos algo]
    exact Finset.mem_insert_self _ _
  · have old : (found.symbol, found.positionSide) ∈ state.stopKeys := mem_stopKeys.mpr ⟨found, before, algo, rfl⟩
    split
    · exact Finset.mem_insert_of_mem old
    · exact old

theorem stopKeys_of_plain (plain : ∀ order ∈ state.orders.values, order.isAlgo = false) :
    state.stopKeys = ∅ := by
  refine Finset.eq_empty_of_forall_notMem fun key stored => ?_
  obtain ⟨order, listed, algo, -⟩ := mem_stopKeys.mp stored
  rw [plain order listed] at algo
  cases algo

/-- Protected positions are no more than the stop keys. -/
theorem openPositionCount_le_stopKeys (keyed : state.PositionsKeyed)
    (guarded : ∀ position ∈ state.positions.values, position.isOpen = true →
      PositionGuardian.hasActiveProtection state position = true) :
    state.openPositionCount ≤ (state.stopKeys.card : ℤ) := by
  have stored : state.positions.values.map PositionState.key = state.positions.keys := by
    rw [OrderedDict.values, OrderedDict.keys, List.map_map]
    refine List.map_congr_left fun entry listed => ?_
    exact keyed entry.1 entry.2 ((OrderedDict.get?_eq_some_iff _ _ _).mpr listed)
  have distinct : ((state.positions.values.filter PositionState.isOpen).map PositionState.key).Nodup := by
    refine List.Nodup.sublist (List.Sublist.map _ List.filter_sublist) ?_
    rw [stored]
    exact state.positions.nodup
  have stopped : ((state.positions.values.filter PositionState.isOpen).map PositionState.key).toFinset ⊆
      state.stopKeys := by
    intro key listed
    obtain ⟨position, open_, rfl⟩ := List.mem_map.mp (List.mem_toFinset.mp listed)
    obtain ⟨member, isOpen⟩ := List.mem_filter.mp open_
    obtain ⟨order, known, protects⟩ := List.any_eq_true.mp (guarded position member isOpen)
    simp only [OrderState.protects, decide_eq_true_eq] at protects
    exact mem_stopKeys.mpr ⟨order, known, by simpa using protects.2.2.1, Prod.ext protects.1 protects.2.1⟩
  rw [openPositionCount_eq, ← List.length_map PositionState.key, ← List.toFinset_card_of_nodup distinct]
  exact_mod_cast Finset.card_le_card stopped

end Stops

end AccountState

section Moves
open AccountState

variable {state after : AccountState}

namespace BinanceUserEventHandler

theorem applyOrder_orders {decode : PyValue → String → Datetime → Except PyError OrderState} {algo : Bool}
    (decodes : ∀ item symbol eventTime order, decode item symbol eventTime = .ok order → order.isAlgo = algo)
    (state : AccountState) (item : PyValue) (eventTime : Datetime) :
    (final (applyOrder decode state item eventTime)).orders = state.orders ∨
      ∃ identity order, order.isAlgo = algo ∧
        (final (applyOrder decode state item eventTime)).orders = state.orders.set identity order := by
  unfold applyOrder
  split
  · exact .inl rfl
  · split
    · exact .inl rfl
    · next symbol _ =>
      cases decoded : decode item symbol eventTime with
      | error error => exact .inl rfl
      | ok order =>
          change (final (raiseFrom state (state.upsertOrder order))).orders = _ ∨ ∃ identity stored, _ ∧
            (final (raiseFrom state (state.upsertOrder order))).orders = _
          rw [AccountState.upsertOrder]
          cases order.identity with
          | error error => exact .inl rfl
          | ok identity => exact .inr ⟨identity, order, decodes _ _ _ _ decoded, rfl⟩

/-- A message stores one order at most, an algo order only if it is an algo message. -/
theorem apply_orders (state : AccountState) (message : PyValue) (now : Datetime) :
    (final (apply state message now)).orders = state.orders ∨
      ∃ identity order, order.isAlgo = decide (eventType message = "ALGO_UPDATE") ∧
        (final (apply state message now)).orders = state.orders.set identity order := by
  cases timed : eventTimeOf message now with
  | error error =>
      rw [apply_of_timeless timed]
      exact .inl rfl
  | ok eventTime =>
      rw [apply_of_time timed]
      split
      · exact .inl (applyAccountUpdate_orders _ _ _)
      · split
        · next trade =>
          rw [trade]
          exact applyOrder_orders (fun _ _ _ _ parsed => (orderOf_ids parsed).2.2.2) _ _ _
        · split
          · next algo =>
            rw [algo]
            exact applyOrder_orders (fun _ _ _ _ parsed => (orderOf_ids parsed).2.2.2) _ _ _
          · exact .inl rfl

theorem apply_stopKeys_card (state : AccountState) (message : PyValue) (now : Datetime) :
    (final (apply state message now)).stopKeys.card ≤
      state.stopKeys.card + if eventType message = "ALGO_UPDATE" then 1 else 0 := by
  rcases apply_orders state message now with same | ⟨identity, order, algo, stored⟩
  · rw [stopKeys_congr same]
    exact Nat.le_add_right _ _
  · have within := Finset.card_le_card (stopKeys_set stored)
    rw [algo] at within
    by_cases kind : eventType message = "ALGO_UPDATE"
    · rw [if_pos (by simpa using kind)] at within
      rw [if_pos kind]
      exact within.trans (Finset.card_insert_le _ _)
    · rw [if_neg (by simpa using kind)] at within
      rw [if_neg kind]
      exact within

theorem upsertPosition_keyed (keyed : state.PositionsKeyed) (position : PositionState) :
    (state.upsertPosition position).PositionsKeyed := by
  intro key stored found
  rw [AccountState.upsertPosition, OrderedDict.get?_set] at found
  split at found
  · next same => cases found; exact same.symm
  · exact keyed key stored found

theorem apply_keyed (message : PyValue) (now : Datetime) (keyed : state.PositionsKeyed) :
    (final (apply state message now)).PositionsKeyed := by
  refine apply_preserves (P := AccountState.PositionsKeyed) (fun _ _ kept => kept) (fun _ _ kept => kept)
    (fun _ position kept => upsertPosition_keyed kept position) (fun before order next stored kept => ?_)
    state message now keyed
  rw [AccountState.upsertOrder] at stored
  cases identified : order.identity with
  | error error =>
      rw [identified] at stored
      cases stored
  | ok identity =>
      rw [identified] at stored
      cases stored
      exact kept

end BinanceUserEventHandler

namespace AccountReconciler

theorem positionMap_keyed {positions : List PositionState}
    (same : state.positions = AccountState.positionMap positions) : state.PositionsKeyed := by
  intro key position found
  rw [same, AccountState.positionMap, OrderedDict.get?_ofList] at found
  obtain ⟨entry, last, rfl⟩ := Option.map_eq_some_iff.mp found
  obtain ⟨listed, rfl⟩ := OrderedDict.lastWith_eq_some Prod.fst last
  obtain ⟨position, -, rfl⟩ := List.mem_map.mp listed
  rfl

theorem countMismatch_maps (state : AccountState) (snapshot : ParsedSnapshot) :
    (final (countMismatch state snapshot)).positions = state.positions ∧
      (final (countMismatch state snapshot)).orders = state.orders := by
  simp only [countMismatch]
  cases (if hasExistingState state then isMismatch state snapshot else .ok false) with
  | error error => exact ⟨rfl, rfl⟩
  | ok mismatch =>
      cases mismatch with
      | false => exact ⟨rfl, rfl⟩
      | true =>
          change (state.recordStateMismatch mismatchReason).positions = _ ∧
            (state.recordStateMismatch mismatchReason).orders = _
          unfold AccountState.recordStateMismatch
          dsimp only
          split <;> exact ⟨rfl, rfl⟩

/-- An attempt that raises has replaced the positions at most. -/
theorem attempt_raised {reads : ReconcileReads} {clock : ReconcileClock} {left : AccountState} {error : PyError}
    (raised : attempt state reads clock = .error (left, error)) :
    (left.positions = state.positions ∨ ∃ positions, left.positions = AccountState.positionMap positions) ∧
      left.orders = state.orders := by
  cases parsed : readSnapshot reads clock with
  | error failure =>
      rw [attempt, parsed] at raised
      cases raised
      exact ⟨.inl rfl, rfl⟩
  | ok snapshot =>
      have maps := countMismatch_maps state snapshot
      cases counts : countMismatch state snapshot with
      | error failure =>
          rw [attempt, parsed] at raised
          change (countMismatch state snapshot >>= fun counted => commit counted snapshot clock.markedAt) = _
            at raised
          rw [counts] at raised maps
          cases raised
          exact ⟨.inl maps.1, maps.2⟩
      | ok counted =>
          rw [counts] at maps
          rw [attempt_counted parsed counts] at raised
          simp only [commit, AccountState.replaceOrders] at raised
          cases mapped : AccountState.orderMap snapshot.orders with
          | ok orders =>
              rw [mapped] at raised
              cases raised
          | error failure =>
              rw [mapped] at raised
              cases raised
              exact ⟨.inr ⟨snapshot.positions, rfl⟩, maps.2⟩

theorem recordReconcileFailure_maps (state : AccountState) (message : String) :
    (state.recordReconcileFailure message).positions = state.positions ∧
      (state.recordReconcileFailure message).orders = state.orders := by
  obtain ⟨halted, reason, same⟩ := recordReconcileFailure_eq state message
  rw [same]
  exact ⟨rfl, rfl⟩

theorem reconcile_raised_orders {reads : ReconcileReads} {clock : ReconcileClock} {error : PyError}
    (raised : (reconcile state reads clock).2 = .error error) :
    (reconcile state reads clock).1.orders = state.orders := by
  cases outcome : attempt state reads clock with
  | ok after =>
      simp only [reconcile, outcome] at raised
      cases raised
  | error failure =>
      simp only [reconcile, outcome]
      exact (recordReconcileFailure_maps _ _).2.trans (attempt_raised outcome).2

theorem reconcile_keyed (reads : ReconcileReads) (clock : ReconcileClock) (keyed : state.PositionsKeyed) :
    (reconcile state reads clock).1.PositionsKeyed := by
  cases outcome : attempt state reads clock with
  | ok after =>
      have returned : reconcile state reads clock = (after, .ok ()) := by simp only [reconcile, outcome]
      obtain ⟨snapshot, -, positions, -⟩ := returned_snapshot returned
      rw [returned]
      exact positionMap_keyed positions
  | error failure =>
      have failed := (recordReconcileFailure_maps failure.1 failure.2.message).1
      simp only [reconcile, outcome]
      rcases (attempt_raised outcome).1 with same | ⟨positions, replaced⟩
      · intro key position found
        rw [failed, same] at found
        exact keyed key position found
      · exact positionMap_keyed (failed.trans replaced)

end AccountReconciler

/-- The guardian's checks write the kill switch alone, and find every open
position that is not protected. -/
theorem collectGuardianAlerts_spec (guardian : PositionGuardian) (state : AccountState) (eventType : String)
    (message : PyValue) :
    let left := (collectGuardianAlerts (some guardian) state eventType message).1
    left.orders = state.orders ∧ left.positions = state.positions ∧
      (left.killSwitchActive = true ∨ ∀ position ∈ left.positions.values, position.isOpen = true →
        PositionGuardian.hasActiveProtection left position = true) := by
  intro left
  obtain ⟨checked, orders, positions, found⟩ : ∃ checked : AccountState, checked.orders = state.orders ∧
      checked.positions = state.positions ∧ left = (PositionGuardian.findUnprotectedPositions checked).1 := by
    by_cases algo : eventType = "ALGO_UPDATE"
    · cases resolved : resolvePrivateOrder state message with
      | none => exact ⟨state, rfl, rfl, by simp [left, collectGuardianAlerts, algo, resolved]⟩
      | some order =>
          have frame := PositionGuardian.handleProtectionOrderUpdate_frame state order
          exact ⟨_, frame.1, frame.2, by simp [left, collectGuardianAlerts, algo, resolved]⟩
    · exact ⟨state, rfl, rfl, by simp [left, collectGuardianAlerts, algo]⟩
  obtain ⟨-, scannedOrders, scannedPositions, halted⟩ :=
    PositionGuardian.scan_eq checked.positions.values checked []
  change (PositionGuardian.findUnprotectedPositions checked).1.orders = _ at scannedOrders
  change (PositionGuardian.findUnprotectedPositions checked).1.positions = _ at scannedPositions
  rw [← found] at scannedOrders scannedPositions
  refine ⟨scannedOrders.trans orders, scannedPositions.trans positions, ?_⟩
  cases bare : checked.positions.values.any (PositionGuardian.unprotected checked) with
  | true =>
      refine .inl ?_
      rw [found, PositionGuardian.findUnprotectedPositions_killSwitch, bare, Bool.or_true]
  | false =>
      refine .inr fun position listed isOpen => ?_
      rw [scannedPositions] at listed
      have covered := List.any_eq_false.mp bare position listed
      rw [← PositionGuardian.unprotected_congr scannedOrders, PositionGuardian.unprotected, isOpen] at covered
      simpa using covered

end Moves

namespace Gateway
open BinanceWebSocketBase BinanceUserEventHandler

/-- What a run is counted by: the account rebuilt, a message handled. -/
inductive Mark where
  | rebuilt | algoMessage | otherMessage
  deriving DecidableEq

section Counting

variable (process : GatewayProcess) (codec : FloatText) (guardian : PositionGuardian) (listenKey : String)

/-- What a step does to the account of the private stream. -/
def marks (gateway : Gateway) (op : GatewayOp) : List Mark :=
  let consumer := gateway.consumers .privateStream
  if op.stream ≠ .privateStream ∨ consumer.stopped.isSome then []
  else
    match yielded codec consumer.connected op.event with
    | some delivery => [if eventType delivery.message = "ALGO_UPDATE" then .algoMessage else .otherMessage]
    | none =>
        match consumer.connected, op.event with
        | false, .opened reads clock =>
            if (AccountReconciler.reconcile gateway.account reads clock).2.isOk then [.rebuilt] else []
        | _, _ => []

/-- How many algo messages were handled since the account was last rebuilt. -/
def algoMessagesSince (history : List Mark) : ℕ := sinceLast (· = .rebuilt) (· = .algoMessage) 0 history

/-- The stops known, and the messages they can have come from. -/
structure Covered (gateway : Gateway) (history : List Mark) : Prop where
  keyed : gateway.account.PositionsKeyed
  stops : gateway.account.stopKeys.card ≤ algoMessagesSince history
  messages : algoMessagesSince history ≤ (gateway.consumers .privateStream).taken

variable {process codec guardian listenKey} {gateway : Gateway} {op : GatewayOp} {history : List Mark}

theorem algoMessagesSince_append (history : List Mark) (mark : Mark) :
    algoMessagesSince (history ++ [mark]) =
      if mark = .rebuilt then 0 else algoMessagesSince history + if mark = .algoMessage then 1 else 0 := by
  rw [algoMessagesSince, sinceLast_append]
  simp [algoMessagesSince]

variable (process codec guardian listenKey) in
/-- The public streams leave the account and the private consumer alone. -/
theorem step_other (gateway : Gateway) (other : op.stream ≠ .privateStream) :
    (step process codec (mainArgs guardian listenKey) gateway op).account = gateway.account ∧
      (step process codec (mainArgs guardian listenKey) gateway op).consumers .privateStream =
        gateway.consumers .privateStream := by
  obtain ⟨-, consumer, -, consumers⟩ := step_spec process codec (mainArgs guardian listenKey) gateway op
  refine ⟨?_, by rw [consumers, Function.update_of_ne (Ne.symm other)]⟩
  obtain ⟨stream, event⟩ := op
  have plain : (mainArgs guardian listenKey stream).userHandler = false ∧
      (mainArgs guardian listenKey stream).onConnect = false := by
    cases stream with
    | privateStream => exact absurd rfl other
    | _ => exact ⟨rfl, rfl⟩
  simp only [step]
  split
  · rfl
  · split
    · simp only [runConnectHook, setConsumer, plain.2]
      split <;> simp
    · next delivery _ =>
      have calm : ∃ files, handleMessage process codec (mainArgs guardian listenKey stream) gateway delivery =
          .ok { gateway with files } := by
        simp [handleMessage, plain.1]
      obtain ⟨files, calm⟩ := calm
      rw [consumeMessage, calm]
      cases process.infoEnabled <;> rfl

section Private

variable (process codec guardian listenKey) (own : op.stream = .privateStream)
  (running : (gateway.consumers .privateStream).stopped = none)

include own running

/-- A message on the private stream is applied. If that raises nothing else happens
to the account, nor when the helpers are not there yet; else the guardian checks it. -/
theorem step_message {delivery : Delivery}
    (yields : yielded codec (gateway.consumers .privateStream).connected op.event = some delivery) :
    let after := step process codec (mainArgs guardian listenKey) gateway op
    (after.consumers .privateStream).taken = (gateway.consumers .privateStream).count + 1 ∧
    ((∃ left error, apply gateway.account delivery.message delivery.appliedAt = .error (left, error) ∧
        after.account = left) ∨
      ∃ account, apply gateway.account delivery.message delivery.appliedAt = .ok account ∧
        (process.asMain = true → after.account = account ∧
          (after.consumers .privateStream).stopped = some (.error helperNameError)) ∧
        (process.asMain = false → after.account =
          (collectGuardianAlerts (some guardian) account (eventType delivery.message) delivery.message).1)) := by
  obtain ⟨stream, event⟩ := op
  cases own
  have handled : (mainArgs guardian listenKey .privateStream).name = "private" ∧
      (mainArgs guardian listenKey .privateStream).userHandler = true := ⟨rfl, rfl⟩
  have watched : (mainArgs guardian listenKey .privateStream).guardian = some guardian := rfl
  simp only [step, running, yields, Option.isSome_none, Bool.false_eq_true, if_false]
  cases applied : apply gateway.account delivery.message delivery.appliedAt with
  | error failure =>
      have raised : ∃ files, handleMessage process codec (mainArgs guardian listenKey .privateStream) gateway
          delivery = .error ({ gateway with files, account := failure.1 }, failure.2) := by
        simp [handleMessage, handled, applied]
      obtain ⟨files, raised⟩ := raised
      rw [consumeMessage, raised]
      exact ⟨by simp [setConsumer, Consumer.taken, bind, Except.bind], .inl ⟨failure.1, failure.2, rfl, rfl⟩⟩
  | ok account =>
      cases asMain : process.asMain with
      | true =>
          have unnamed : ∃ files, handleMessage process codec (mainArgs guardian listenKey .privateStream) gateway
              delivery = .error ({ gateway with files, account }, helperNameError) := by
            simp [handleMessage, handled, applied, asMain]
          obtain ⟨files, unnamed⟩ := unnamed
          rw [consumeMessage, unnamed]
          exact ⟨by simp [setConsumer, Consumer.taken, bind, Except.bind], .inr ⟨account, rfl,
            fun _ => ⟨rfl, by simp [setConsumer, bind, Except.bind]⟩, fun imported => by cases imported⟩⟩
      | false =>
          have checked : ∃ files, handleMessage process codec (mainArgs guardian listenKey .privateStream) gateway
              delivery = .ok { gateway with files, account :=
                (collectGuardianAlerts (some guardian) account (eventType delivery.message) delivery.message).1 } := by
            simp [handleMessage, handled, applied, asMain, watched]
          obtain ⟨files, checked⟩ := checked
          rw [consumeMessage, checked]
          -- the log line raises when the guardian is through
          cases process.infoEnabled with
          | true =>
              refine ⟨by simp [setConsumer, Consumer.taken, bind, Except.bind],
                .inr ⟨account, rfl, ?_, fun _ => rfl⟩⟩
              intro started
              cases started
          | false =>
              refine ⟨?_, .inr ⟨account, rfl, fun started => ?_, fun _ => rfl⟩⟩
              swap
              · cases started
              simp only [setConsumer, bind, Except.bind, Bool.false_eq_true, if_false, Function.update_self,
                Consumer.taken]
              split_ifs <;> rfl

/-- Anything else either rebuilds the account or leaves it alone. -/
theorem step_silent (silent : yielded codec (gateway.consumers .privateStream).connected op.event = none) :
    let after := step process codec (mainArgs guardian listenKey) gateway op
    (after.consumers .privateStream).taken = (gateway.consumers .privateStream).taken ∧
    (after.account = gateway.account ∧ marks codec gateway op = [] ∨
      ∃ reads clock, after.account = (AccountReconciler.reconcile gateway.account reads clock).1 ∧
        marks codec gateway op =
          if (AccountReconciler.reconcile gateway.account reads clock).2.isOk then [.rebuilt] else []) := by
  obtain ⟨stream, event⟩ := op
  cases own
  have hook : (mainArgs guardian listenKey .privateStream).onConnect = true := rfl
  refine ⟨?_, ?_⟩
  · simp [step, running, silent, setConsumer, Consumer.taken]
  · cases connected : (gateway.consumers .privateStream).connected with
    | true =>
        refine .inl ?_
        rw [connected] at silent
        simp [step, marks, running, silent, connected, setConsumer, runConnectHook]
    | false =>
        rw [connected] at silent
        cases event with
        | opened reads clock =>
            refine .inr ⟨reads, clock, ?_⟩
            simp [step, marks, running, silent, connected, setConsumer, runConnectHook, hook]
        | _ =>
            refine .inl ?_
            simp [step, marks, running, silent, connected, setConsumer, runConnectHook]

end Private

theorem marks_nil (idle : op.stream ≠ .privateStream ∨ (gateway.consumers .privateStream).stopped.isSome = true) :
    marks codec gateway op = [] := by
  unfold marks
  exact if_pos idle

theorem marks_of_yielded (own : op.stream = .privateStream)
    (running : (gateway.consumers .privateStream).stopped = none) {delivery : Delivery}
    (yields : yielded codec (gateway.consumers .privateStream).connected op.event = some delivery) :
    marks codec gateway op = [if eventType delivery.message = "ALGO_UPDATE" then .algoMessage else .otherMessage] := by
  simp [marks, own, running, yields]

/-- A handled message adds one stop at most, and counts. -/
theorem algoMessagesSince_message (history : List Mark) (message : PyValue) :
    algoMessagesSince (history ++ [if eventType message = "ALGO_UPDATE" then Mark.algoMessage else .otherMessage]) =
      algoMessagesSince history + if eventType message = "ALGO_UPDATE" then 1 else 0 := by
  rw [algoMessagesSince_append]
  split_ifs <;> simp_all

theorem collected_covers (account : AccountState) (kind : String) (message : PyValue) (keyed : account.PositionsKeyed) :
    (collectGuardianAlerts (some guardian) account kind message).1.PositionsKeyed ∧
      (collectGuardianAlerts (some guardian) account kind message).1.stopKeys = account.stopKeys := by
  obtain ⟨orders, positions, -⟩ := collectGuardianAlerts_spec guardian account kind message
  refine ⟨fun key position found => keyed key position ?_, AccountState.stopKeys_congr orders⟩
  rwa [← positions]

theorem Covered.step (process : GatewayProcess) (codec : FloatText) (guardian : PositionGuardian) (listenKey : String)
    (covered : Covered gateway history) (op : GatewayOp) :
    Covered (step process codec (mainArgs guardian listenKey) gateway op) (history ++ marks codec gateway op) := by
  obtain ⟨keyed, stops, messages⟩ := covered
  by_cases own : op.stream = .privateStream
  swap
  · obtain ⟨account, consumer⟩ := step_other process codec guardian listenKey gateway own
    rw [marks_nil (.inl own), List.append_nil]
    exact ⟨account ▸ keyed, account ▸ stops, consumer ▸ messages⟩
  cases stopped : (gateway.consumers .privateStream).stopped with
  | some outcome =>
      have same : Gateway.step process codec (mainArgs guardian listenKey) gateway op = gateway := by
        simp [Gateway.step, own, stopped]
      rw [marks_nil (.inr (by rw [stopped]; rfl)), List.append_nil, same]
      exact ⟨keyed, stops, messages⟩
  | none =>
      have taken := Consumer.taken_of_running stopped
      cases yields : yielded codec (gateway.consumers .privateStream).connected op.event with
      | some delivery =>
          have kept := apply_keyed delivery.message delivery.appliedAt keyed
          have added := apply_stopKeys_card gateway.account delivery.message delivery.appliedAt
          have counted := algoMessagesSince_message history delivery.message
          have once : (if eventType delivery.message = "ALGO_UPDATE" then 1 else 0) ≤ 1 := by split_ifs <;> simp
          rw [marks_of_yielded own stopped yields]
          obtain ⟨after, ⟨left, error, applied, account⟩ | ⟨account, applied, unchecked, checked⟩⟩ :=
            step_message process codec guardian listenKey own stopped yields
          · rw [applied] at kept added
            refine ⟨account ▸ kept, ?_, ?_⟩
            · rw [account, counted]
              exact added.trans (Nat.add_le_add_right stops _)
            · rw [after, counted]
              omega
          · rw [applied] at kept added
            obtain ⟨stillKeyed, sameStops⟩ := collected_covers account (eventType delivery.message)
              delivery.message kept
            refine ⟨?_, ?_, ?_⟩
            · cases asMain : process.asMain with
              | true => exact (unchecked asMain).1 ▸ kept
              | false => exact checked asMain ▸ stillKeyed
            · rw [counted]
              refine le_trans (le_of_eq ?_) (added.trans (Nat.add_le_add_right stops _))
              cases asMain : process.asMain with
              | true => rw [(unchecked asMain).1]; rfl
              | false => rw [checked asMain, sameStops]; rfl
            · rw [after, counted]
              omega
      | none =>
          obtain ⟨after, ⟨account, unmarked⟩ | ⟨reads, clock, account, marked⟩⟩ :=
            step_silent process codec guardian listenKey own stopped yields
          · rw [unmarked, List.append_nil]
            exact ⟨account ▸ keyed, account ▸ stops, after ▸ messages⟩
          · have kept := AccountReconciler.reconcile_keyed reads clock keyed
            cases outcome : (AccountReconciler.reconcile gateway.account reads clock).2 with
            | error error =>
                have orders := AccountReconciler.reconcile_raised_orders outcome
                rw [marked, outcome, if_neg (by simp [Except.isOk, Except.toBool]), List.append_nil]
                refine ⟨account ▸ kept, ?_, after ▸ messages⟩
                rw [account, AccountState.stopKeys_congr orders]
                exact stops
            | ok value =>
                have returned : AccountReconciler.reconcile gateway.account reads clock =
                    ((AccountReconciler.reconcile gateway.account reads clock).1, .ok ()) := Prod.ext rfl outcome
                have forgotten := AccountState.stopKeys_of_plain (AccountReconciler.returned_orders_plain returned)
                have returns : (Except.ok value : Except PyError Unit).isOk = true := rfl
                rw [marked, outcome, if_pos returns]
                refine ⟨account ▸ kept, ?_, ?_⟩
                · rw [account, forgotten]
                  exact Nat.zero_le _
                · rw [algoMessagesSince_append, if_pos rfl]
                  exact Nat.zero_le _

theorem start_covered (files : StreamFiles) : Covered (start files) [] where
  keyed := fun key position found => by cases found
  stops := Nat.zero_le _
  messages := Nat.zero_le _

theorem run_covered (process : GatewayProcess) (codec : FloatText) (guardian : PositionGuardian)
    (listenKey : String) (files : StreamFiles) (ops : List GatewayOp) :
    Covered (run (Gateway.step process codec (mainArgs guardian listenKey)) (start files) ops)
      (trace (Gateway.step process codec (mainArgs guardian listenKey)) (marks codec) (start files) ops) :=
  run_history _ (marks codec) (fun _ now history => Covered now history)
    (fun _ op _ _ covered => covered.step process codec guardian listenKey op) (start files) ops []
    (start_covered files)

/-- After every message the private consumer applied, in any run: started as
`__main__` the consumer has stopped over the helpers it does not have, and no scan was
made. To an importer the kill switch is active, or every open position is covered by a
stop. The stops known then all come from algo messages applied since the account was
last rebuilt, so there are no more open positions than these messages, and never more
than three. -/
theorem unhalted_positions_covered (process : GatewayProcess) (codec : FloatText) (guardian : PositionGuardian)
    (listenKey : String) (files : StreamFiles) (ops : List GatewayOp) (op : GatewayOp)
    (own : op.stream = .privateStream) (delivery : Delivery) (account : AccountState) :
    let gatewayStep := Gateway.step process codec (mainArgs guardian listenKey)
    let before := run gatewayStep (start files) ops
    let after := gatewayStep before op
    (before.consumers .privateStream).stopped = none →
    yielded codec (before.consumers .privateStream).connected op.event = some delivery →
    apply before.account delivery.message delivery.appliedAt = .ok account →
    (process.asMain = true → after.account = account ∧
      (after.consumers .privateStream).stopped = some (.error helperNameError)) ∧
    (process.asMain = false → after.account.killSwitchActive = true ∨
      (∀ position ∈ after.account.positions.values, position.isOpen = true →
        PositionGuardian.hasActiveProtection after.account position = true) ∧
      after.account.openPositionCount ≤
        (algoMessagesSince (trace gatewayStep (marks codec) (start files) (ops ++ [op])) : ℤ) ∧
      after.account.openPositionCount ≤ 3) := by
  intro gatewayStep before after running yields applied
  obtain ⟨-, ⟨left, error, refused, -⟩ | ⟨found, same, unchecked, checked⟩⟩ :=
    step_message process codec guardian listenKey own running yields
  · rw [applied] at refused
    cases refused
  rw [applied] at same
  cases same
  refine ⟨unchecked, fun imported => ?_⟩
  obtain ⟨-, -, guarded⟩ :=
    collectGuardianAlerts_spec guardian account (eventType delivery.message) delivery.message
  rw [← checked imported] at guarded
  refine guarded.imp_right fun guarded => ?_
  have ended : run gatewayStep (start files) (ops ++ [op]) = after := by rw [run_append, run_cons, run_nil]
  have covered := run_covered process codec guardian listenKey files (ops ++ [op])
  have follows := run_follows process codec (mainArgs_distinct guardian listenKey) files (ops ++ [op]) .privateStream
  change Covered (run gatewayStep (start files) (ops ++ [op])) _ at covered
  rw [ended] at covered
  have most : (after.consumers .privateStream).taken ≤ 3 := ended ▸ follows.bounded
  have open_ := AccountState.openPositionCount_le_stopKeys covered.keyed guarded
  have stops := covered.stops
  have messages := covered.messages
  exact ⟨guarded, open_.trans (Int.ofNat_le.mpr stops), by omega⟩

end Counting

section Sample
open StreamFiles

/-- The private stream connects, the account is rebuilt with an open long, and
the next message acknowledges its stop. -/
def longRebuilt : List GatewayOp := [⟨.privateStream, .opened AccountReconciler.longStillOpen ⟨0, 0, 0, 0⟩⟩]

def stopFrame : GatewayOp :=
  ⟨.privateStream, .frame (some (dumps sampleFloats AccountReconciler.stopAcknowledged)) 0 0⟩

def longGateway (process : GatewayProcess) : Gateway :=
  run (Gateway.step process sampleFloats (mainArgs watcher "key")) (start noFiles) longRebuilt

def acknowledgedLong (process : GatewayProcess) : Gateway :=
  Gateway.step process sampleFloats (mainArgs watcher "key") (longGateway process) stopFrame

theorem stopFrame_yields : yielded sampleFloats true stopFrame.event =
    some ⟨AccountReconciler.stopAcknowledged, 0, 0⟩ := by
  have ready : Dumpable sampleFloats AccountReconciler.stopAcknowledged := by
    simp [AccountReconciler.stopAcknowledged, Dumpable, DumpableEntries]
  simp only [stopFrame, yielded, readFrame, loads_dumps ready]
  rfl

theorem longGateway_running (process : GatewayProcess) :
    (longGateway process).consumers .privateStream = { connected := true } := by
  simp [longGateway, longRebuilt, run, step, start, yielded, setConsumer, afterEvent]

theorem longGateway_applies (process : GatewayProcess) :
    apply (longGateway process).account AccountReconciler.stopAcknowledged 0 =
      .ok (final (apply (longGateway process).account AccountReconciler.stopAcknowledged 0)) := by
  have returned : (apply (longGateway process).account AccountReconciler.stopAcknowledged 0).isOk = true := by
    obtain ⟨infoEnabled, asMain⟩ := process
    cases infoEnabled <;> cases asMain <;> decide +kernel
  cases applied : apply (longGateway process).account AccountReconciler.stopAcknowledged 0 with
  | error failure => simp [applied, Except.isOk, Except.toBool] at returned
  | ok account => rfl

/-- To an importer the scan is made before the log line raises; as `__main__` it is not. -/
theorem unhalted_positions_covered_long :
    ((acknowledgedLong ⟨true, false⟩).account.openPositionCount = 1 ∧
      ∀ position ∈ (acknowledgedLong ⟨true, false⟩).account.positions.values, position.isOpen = true →
        PositionGuardian.hasActiveProtection (acknowledgedLong ⟨true, false⟩).account position = true) ∧
    ((acknowledgedLong {}).consumers .privateStream).stopped = some (.error helperNameError) := by
  have applied (process : GatewayProcess) := unhalted_positions_covered process sampleFloats watcher "key" noFiles
    longRebuilt stopFrame rfl ⟨AccountReconciler.stopAcknowledged, 0, 0⟩ _
    (congrArg Consumer.stopped (longGateway_running process))
    (by change yielded _ ((longGateway process).consumers .privateStream).connected _ = _
        rw [longGateway_running, stopFrame_yields])
    (longGateway_applies process)
  have imported : (⟨true, false⟩ : GatewayProcess).asMain = false := rfl
  have started : ({} : GatewayProcess).asMain = true := rfl
  have unhalted : ¬(acknowledgedLong ⟨true, false⟩).account.killSwitchActive = true := by decide +kernel
  have count : (acknowledgedLong ⟨true, false⟩).account.openPositionCount = 1 := by decide +kernel
  unfold acknowledgedLong longGateway at unhalted count ⊢
  have stopped := (applied {}).1 started
  have checked := (applied ⟨true, false⟩).2 imported
  exact ⟨⟨count, (checked.resolve_left unhalted).1⟩, stopped.2⟩

end Sample

end Gateway

end CatsPy
