import CatsPy.Reconciliation

/-!
# What a reconcile commits

The commit replaces two maps before it asks the orders for their identity. A
reconcile is all-or-nothing except when an order of the snapshot has no usable
id and neither the comparison nor an unchanged state hides the difference.
-/
namespace CatsPy
open PythonValues StateRuns

section Identities

/-- Some identifier of the order is truthy. -/
def OrderState.identified (order : OrderState) : Bool :=
  (ofOptional order.algoOrderId).truthy || (ofOptional order.orderId).truthy || order.clientOrderId.truthy

theorem OrderState.identity_isOk (order : OrderState) : order.identity.isOk = order.identified := by
  unfold OrderState.identity OrderState.identified
  split_ifs <;> simp_all [Except.isOk, Except.toBool]

/-- The order map exists exactly when every order has an id. -/
theorem orderMap_isOk (orders : List OrderState) :
    (AccountState.orderMap orders).isOk = orders.all OrderState.identified := by
  simp only [AccountState.orderMap, map_isOk, mapM_isOk, OrderState.identity_isOk]

end Identities

namespace AccountReconciler

section Comparison

/-- The comparison needs every id only when it reaches the orders. -/
theorem isMismatch_isOk (state : AccountState) (snapshot : ParsedSnapshot) :
    (isMismatch state snapshot).isOk =
      (balancesDiffer state snapshot.balances || positionsDiffer state snapshot.positions ||
        snapshot.orders.all OrderState.identified) := by
  have rows : (snapshot.orders.mapM fun (order : OrderState) =>
      order.identity.map fun identity => orderRow identity order).isOk =
      snapshot.orders.all OrderState.identified := by
    simp only [mapM_isOk, map_isOk, OrderState.identity_isOk]
  unfold isMismatch
  cases balancesDiffer state snapshot.balances with
  | true => rfl
  | false =>
      cases positionsDiffer state snapshot.positions with
      | true => rfl
      | false =>
          rw [← rows]
          cases snapshot.orders.mapM fun (order : OrderState) =>
            order.identity.map fun identity => orderRow identity order <;> rfl

theorem isMismatch_of_differ {state : AccountState} {snapshot : ParsedSnapshot}
    (differ : (balancesDiffer state snapshot.balances || positionsDiffer state snapshot.positions) = true) :
    isMismatch state snapshot = .ok true := by
  unfold isMismatch
  cases balances : balancesDiffer state snapshot.balances with
  | true => rfl
  | false =>
      simp only [balances, Bool.false_or] at differ
      simp [differ]

end Comparison

section Outcome

/-- On an exception only the failure counter, its error and the kill switch have
moved; on a return the three maps are the parsed snapshot. -/
def AllOrNothing (state : AccountState) (reads : ReconcileReads) (clock : ReconcileClock) : Prop :=
  match reconcile state reads clock with
  | (after, .error error) => ∃ halted reason, after = { state with
      reconcileFailureCount := state.reconcileFailureCount + 1
      lastReconcileError := some error.message
      killSwitchActive := halted
      lastKillSwitchReason := reason }
  | (after, .ok ()) => ∃ snapshot orders, readSnapshot reads clock = .ok snapshot ∧
      AccountState.orderMap snapshot.orders = .ok orders ∧
      after.balances = AccountState.balanceMap snapshot.balances ∧
      after.positions = AccountState.positionMap snapshot.positions ∧ after.orders = orders

/-- All three responses parse, some order has no usable id, and the call gets to
the commit with something to change: the stored state differs before the orders
are compared, or nothing was stored and the snapshot or the mismatch record is
not empty. -/
def PartialCommit (state : AccountState) (reads : ReconcileReads) (clock : ReconcileClock) : Prop :=
  ∃ snapshot, readSnapshot reads clock = .ok snapshot ∧
    snapshot.orders.all OrderState.identified = false ∧
    if hasExistingState state then
      (balancesDiffer state snapshot.balances || positionsDiffer state snapshot.positions) = true
    else snapshot.balances ≠ [] ∨ snapshot.positions ≠ [] ∨ state.stateMismatchCount ≠ 0 ∨
      state.lastMismatchReason ≠ none

section Frames

variable (state : AccountState) (message : String)

theorem recordReconcileFailure_eq :
    ∃ halted reason, state.recordReconcileFailure message = { state with
      reconcileFailureCount := state.reconcileFailureCount + 1
      lastReconcileError := some message
      killSwitchActive := halted
      lastKillSwitchReason := reason } := by
  unfold AccountState.recordReconcileFailure
  by_cases reached : 2 ≤ state.reconcileFailureCount + 1
  · simp only [if_pos reached]
    exact ⟨_, _, rfl⟩
  · simp only [if_neg reached]
    exact ⟨_, _, rfl⟩

theorem recordReconcileFailure_frame :
    let failed := state.recordReconcileFailure message
    failed.balances = state.balances ∧ failed.positions = state.positions ∧
      failed.stateMismatchCount = state.stateMismatchCount ∧
      failed.lastMismatchReason = state.lastMismatchReason := by
  obtain ⟨halted, reason, same⟩ := recordReconcileFailure_eq state message
  rw [same]
  exact ⟨rfl, rfl, rfl, rfl⟩

theorem recordStateMismatch_mismatchCount :
    (state.recordStateMismatch message).stateMismatchCount = state.stateMismatchCount + 1 := by
  unfold AccountState.recordStateMismatch
  by_cases reached : 2 ≤ state.stateMismatchCount + 1
  · simp only [if_pos reached]
    rfl
  · simp only [if_neg reached]

end Frames

variable {state counted : AccountState} {reads : ReconcileReads} {clock : ReconcileClock}
  {snapshot : ParsedSnapshot}

theorem maps_empty_of_fresh (fresh : hasExistingState state = false) :
    state.balances = .empty ∧ state.positions = .empty := by
  simp only [hasExistingState, Bool.or_eq_false_iff, Bool.not_eq_false', OrderedDict.isEmpty_iff] at fresh
  exact ⟨fresh.1.1, fresh.1.2⟩

/-- A call that raises before the commit has touched nothing else. -/
theorem allOrNothing_of_untouched (error : PyError)
    (raised : attempt state reads clock = .error (state, error)) : AllOrNothing state reads clock := by
  simp only [AllOrNothing, reconcile, raised]
  exact recordReconcileFailure_eq state error.message

theorem attempt_counted (parsed : readSnapshot reads clock = .ok snapshot)
    (counts : countMismatch state snapshot = .ok counted) :
    attempt state reads clock = commit counted snapshot clock.markedAt := by
  rw [attempt, parsed]
  change (countMismatch state snapshot >>= fun counted => commit counted snapshot clock.markedAt) = _
  rw [counts]
  rfl

/-- A commit whose orders all have an id returns exactly the snapshot. -/
theorem allOrNothing_of_committed (parsed : readSnapshot reads clock = .ok snapshot)
    (counts : countMismatch state snapshot = .ok counted)
    (identified : snapshot.orders.all OrderState.identified = true) : AllOrNothing state reads clock := by
  rw [← orderMap_isOk] at identified
  cases mapped : AccountState.orderMap snapshot.orders with
  | error e => rw [mapped] at identified; cases identified
  | ok orders =>
      have returned : attempt state reads clock = .ok ((AccountState.markReconciled
          { (counted.replaceBalances snapshot.balances).replacePositions snapshot.positions with orders }
          clock.markedAt).clearReconcileFailure) := by
        rw [attempt_counted parsed counts]
        simp only [commit, AccountState.replaceOrders, mapped]
        rfl
      simp only [AllOrNothing, reconcile, returned]
      exact ⟨snapshot, orders, parsed, mapped, rfl, rfl, rfl⟩

/-- A commit that raises leaves the counted state with two maps replaced. -/
theorem attempt_half_committed (parsed : readSnapshot reads clock = .ok snapshot)
    (counts : countMismatch state snapshot = .ok counted)
    (unidentified : snapshot.orders.all OrderState.identified = false) :
    ∃ error, attempt state reads clock = .error
      ((counted.replaceBalances snapshot.balances).replacePositions snapshot.positions, error) := by
  rw [← orderMap_isOk] at unidentified
  cases mapped : AccountState.orderMap snapshot.orders with
  | ok orders => rw [mapped] at unidentified; cases unidentified
  | error error =>
      refine ⟨error, ?_⟩
      rw [attempt_counted parsed counts]
      simp only [commit, AccountState.replaceOrders, mapped]
      rfl

/-- A counted mismatch stays counted when the commit raises. -/
theorem not_allOrNothing_of_mismatch (parsed : readSnapshot reads clock = .ok snapshot)
    (counts : countMismatch state snapshot = .ok (state.recordStateMismatch mismatchReason))
    (unidentified : snapshot.orders.all OrderState.identified = false) :
    ¬ AllOrNothing state reads clock := by
  obtain ⟨error, raised⟩ := attempt_half_committed parsed counts unidentified
  simp only [AllOrNothing, reconcile, raised]
  rintro ⟨halted, reason, same⟩
  have frame := recordReconcileFailure_frame (((state.recordStateMismatch mismatchReason).replaceBalances
    snapshot.balances).replacePositions snapshot.positions) error.message
  rw [same] at frame
  have counted : state.stateMismatchCount = (state.recordStateMismatch mismatchReason).stateMismatchCount :=
    frame.2.2.1
  rw [recordStateMismatch_mismatchCount] at counted
  omega

/-- On an empty state the half commit shows unless it has nothing to write. -/
theorem allOrNothing_fresh_iff (parsed : readSnapshot reads clock = .ok snapshot)
    (fresh : hasExistingState state = false)
    (counts : countMismatch state snapshot = .ok state.clearStateMismatch)
    (unidentified : snapshot.orders.all OrderState.identified = false) :
    AllOrNothing state reads clock ↔ snapshot.balances = [] ∧ snapshot.positions = [] ∧
      state.stateMismatchCount = 0 ∧ state.lastMismatchReason = none := by
  obtain ⟨error, raised⟩ := attempt_half_committed parsed counts unidentified
  obtain ⟨noBalances, noPositions⟩ := maps_empty_of_fresh fresh
  simp only [AllOrNothing, reconcile, raised]
  constructor
  · rintro ⟨halted, reason, same⟩
    have frame := recordReconcileFailure_frame ((state.clearStateMismatch.replaceBalances
      snapshot.balances).replacePositions snapshot.positions) error.message
    rw [same] at frame
    obtain ⟨balances, positions, counter, noted⟩ := frame
    change state.balances = AccountState.balanceMap snapshot.balances at balances
    change state.positions = AccountState.positionMap snapshot.positions at positions
    rw [noBalances, AccountState.balanceMap, eq_comm, OrderedDict.ofList_eq_empty_iff,
      List.map_eq_nil_iff] at balances
    rw [noPositions, AccountState.positionMap, eq_comm, OrderedDict.ofList_eq_empty_iff,
      List.map_eq_nil_iff] at positions
    exact ⟨balances, positions, counter, noted⟩
  · rintro ⟨balances, positions, counter, noted⟩
    have unchanged : (state.clearStateMismatch.replaceBalances snapshot.balances).replacePositions
        snapshot.positions = state := by
      rw [balances, positions]
      cases state
      simp_all [AccountState.clearStateMismatch, AccountState.replaceBalances,
        AccountState.replacePositions, AccountState.balanceMap, AccountState.positionMap,
        OrderedDict.ofList]
    rw [unchanged]
    exact recordReconcileFailure_eq state error.message

theorem countMismatch_fresh (fresh : hasExistingState state = false) (snapshot : ParsedSnapshot) :
    countMismatch state snapshot = .ok state.clearStateMismatch := by
  simp only [countMismatch, fresh]
  rfl

theorem countMismatch_existing (existing : hasExistingState state = true) (snapshot : ParsedSnapshot) :
    countMismatch state snapshot =
      match isMismatch state snapshot with
      | .error error => .error (state, error)
      | .ok true => .ok (state.recordStateMismatch mismatchReason)
      | .ok false => .ok state.clearStateMismatch := by
  simp only [countMismatch, existing, if_true]
  match isMismatch state snapshot with
  | .error _ => rfl
  | .ok true => rfl
  | .ok false => rfl

theorem allOrNothing_of_comparison_raised {left : AccountState} {error : PyError}
    (parsed : readSnapshot reads clock = .ok snapshot)
    (raised : countMismatch state snapshot = .error (left, error)) : AllOrNothing state reads clock := by
  have untouched : left = state := by
    cases existing : hasExistingState state with
    | false =>
        rw [countMismatch_fresh existing] at raised
        cases raised
    | true =>
        rw [countMismatch_existing existing] at raised
        split at raised
        · cases raised
          rfl
        · cases raised
        · cases raised
  apply allOrNothing_of_untouched error
  rw [attempt, parsed]
  change (countMismatch state snapshot >>= fun counted => commit counted snapshot clock.markedAt) = _
  rw [raised, untouched]
  rfl

/-- On a state that holds something the half commit shows unless the comparison
reached the orders and raised first. -/
theorem allOrNothing_existing_iff (parsed : readSnapshot reads clock = .ok snapshot)
    (existing : hasExistingState state = true)
    (unidentified : snapshot.orders.all OrderState.identified = false) :
    AllOrNothing state reads clock ↔
      (balancesDiffer state snapshot.balances || positionsDiffer state snapshot.positions) = false := by
  have counts := countMismatch_existing existing snapshot
  cases differ : (balancesDiffer state snapshot.balances || positionsDiffer state snapshot.positions) with
  | true =>
      rw [isMismatch_of_differ differ] at counts
      simp [not_allOrNothing_of_mismatch parsed counts unidentified]
  | false =>
      have compared := isMismatch_isOk state snapshot
      rw [differ, unidentified] at compared
      cases outcome : isMismatch state snapshot with
      | ok mismatch => rw [outcome] at compared; cases compared
      | error error =>
          rw [outcome] at counts
          simp [allOrNothing_of_comparison_raised parsed counts]

theorem partialCommit_iff (parsed : readSnapshot reads clock = .ok snapshot) :
    PartialCommit state reads clock ↔ snapshot.orders.all OrderState.identified = false ∧
      if hasExistingState state then
        (balancesDiffer state snapshot.balances || positionsDiffer state snapshot.positions) = true
      else snapshot.balances ≠ [] ∨ snapshot.positions ≠ [] ∨ state.stateMismatchCount ≠ 0 ∨
        state.lastMismatchReason ≠ none := by
  simp only [PartialCommit, parsed, Except.ok.injEq, exists_eq_left']

/-- The partial commit is the only exception, and it always is one. -/
theorem reconcile_allOrNothing_iff (state : AccountState) (reads : ReconcileReads) (clock : ReconcileClock) :
    AllOrNothing state reads clock ↔ ¬ PartialCommit state reads clock := by
  cases parsed : readSnapshot reads clock with
  | error error =>
      have untouched : AllOrNothing state reads clock := by
        apply allOrNothing_of_untouched error
        rw [attempt, parsed]
        rfl
      simp [untouched, PartialCommit, parsed]
  | ok snapshot =>
      rw [partialCommit_iff parsed]
      cases identified : snapshot.orders.all OrderState.identified with
      | true =>
          have whole : AllOrNothing state reads clock := by
            cases counts : countMismatch state snapshot with
            | ok counted => exact allOrNothing_of_committed parsed counts identified
            | error failure => exact allOrNothing_of_comparison_raised parsed counts
          simp [whole]
      | false =>
          cases existing : hasExistingState state with
          | false =>
              rw [allOrNothing_fresh_iff parsed existing (countMismatch_fresh existing snapshot) identified]
              simp
          | true =>
              rw [allOrNothing_existing_iff parsed existing identified]
              simp

end Outcome

section Samples

/-- What the all-or-nothing rule says about a call that raised. -/
theorem raised_unchanged {state : AccountState} {reads : ReconcileReads} {clock : ReconcileClock}
    (whole : AllOrNothing state reads clock) {error : PyError}
    (raised : (reconcile state reads clock).2 = .error error) :
    let after := (reconcile state reads clock).1
    after.balances = state.balances ∧ after.positions = state.positions ∧ after.orders = state.orders ∧
      after.lastReconciledAt = state.lastReconciledAt ∧
      after.stateMismatchCount = state.stateMismatchCount := by
  unfold AllOrNothing at whole
  generalize reconcile state reads clock = outcome at whole raised
  match outcome, whole, raised with
  | (after, .error _), whole, _ =>
      obtain ⟨halted, reason, same⟩ := whole
      subst same
      exact ⟨rfl, rfl, rfl, rfl, rfl⟩

/-- Both REST routes answer with their rows under `data`. -/
def responses (assets positions orders : List PyValue) : ReconcileReads where
  accountInfo := .ok (.dict [("data", .dict [("assets", .list assets), ("positions", .list positions)])])
  positionRisk := .ok (.dict [("data", .list [])])
  openOrders := .ok (.dict [("data", .list orders)])

def usdtAsset : PyValue := .dict [("asset", .str "USDT"), ("walletBalance", .str "100")]

/-- An open order whose row carries neither an order id nor a client id. -/
def anonymousOrder : PyValue := .dict [("symbol", .str "BTCUSDT"), ("status", .str "NEW")]

def noon : ReconcileClock := ⟨0, 0, 0, 0⟩

/-- The first reconcile raises on the order, and the balance is already stored. -/
theorem anonymous_order_half_commits :
    let reads := responses [usdtAsset] [] [anonymousOrder]
    let outcome := reconcile {} reads noon
    outcome.1.balances.keys = ["USDT"] ∧ outcome.1.lastReconciledAt = none ∧
      outcome.2.toOption.isNone = true ∧ ¬ AllOrNothing {} reads noon := by
  have stored : (reconcile {} (responses [usdtAsset] [] [anonymousOrder]) noon).1.balances.keys =
      ["USDT"] := by
    decide +kernel
  have raised : (reconcile {} (responses [usdtAsset] [] [anonymousOrder]) noon).2.toOption.isNone =
      true := by
    decide +kernel
  refine ⟨stored, by decide +kernel, raised, ?_⟩
  intro whole
  cases outcome : (reconcile {} (responses [usdtAsset] [] [anonymousOrder]) noon).2 with
  | ok _ => rw [outcome] at raised; cases raised
  | error error =>
      rw [(raised_unchanged whole outcome).1] at stored
      cases stored

end Samples

end AccountReconciler

end CatsPy
