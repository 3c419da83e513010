import CatsPy.ReconcileCommit

/-!
# Snapshot comparison

When the reconciler finds no difference between the stored maps and a parsed
snapshot, and what a reconcile that returns has counted and stored.
-/
namespace CatsPy
open PythonValues StateRuns

namespace AccountReconciler

section Rows

theorem sorted_eq_iff {α : Type} [LinearOrder α] (l next : List α) :
    sorted l = sorted next ↔ l.Perm next := by
  have left : (sorted l).Perm l := List.perm_insertionSort _ l
  have right : (sorted next).Perm next := List.perm_insertionSort _ next
  constructor
  · intro same
    exact (left.symm.trans (.of_eq same)).trans right
  · intro perm
    exact ((left.trans perm).trans right.symm).eq_of_pairwise'
      (List.pairwise_insertionSort _ l) (List.pairwise_insertionSort _ next)

/-- The orders under their identities. -/
def identifiedOrders (orders : List OrderState) : Except PyError (List (String × OrderState)) :=
  orders.mapM fun (order : OrderState) => order.identity.map fun identity => (identity, order)

theorem orderMap_eq (orders : List OrderState) :
    AccountState.orderMap orders = (identifiedOrders orders).map .ofList := rfl

theorem identity_eq_ok {order : OrderState} {entry : String × OrderState}
    (identified : (order.identity.map fun identity => (identity, order)) = .ok entry) :
    order.identity = .ok entry.1 ∧ entry.2 = order := by
  cases outcome : order.identity with
  | error error =>
      rw [outcome] at identified
      cases identified
  | ok identity =>
      rw [outcome] at identified
      cases identified
      exact ⟨rfl, rfl⟩

/-- Identified orders are the orders, and any rows built from them are known. -/
theorem identifiedOrders_ok {orders : List OrderState} {entries : List (String × OrderState)}
    (identified : identifiedOrders orders = .ok entries) : entries.map Prod.snd = orders ∧
      ∀ {ρ : Type} (row : String → OrderState → ρ),
        (orders.mapM fun (order : OrderState) => order.identity.map fun identity => row identity order) =
          .ok (entries.map fun entry => row entry.1 entry.2) := by
  induction orders generalizing entries with
  | nil =>
      cases identified
      exact ⟨rfl, fun _ => rfl⟩
  | cons first rest ih =>
      rw [identifiedOrders, List.mapM_cons] at identified
      obtain ⟨entry, named, identified⟩ := bind_ok identified
      obtain ⟨later, others, identified⟩ := bind_ok identified
      cases identified
      obtain ⟨identity, rfl⟩ := identity_eq_ok named
      obtain ⟨orders_eq, rows⟩ := ih others
      refine ⟨by rw [List.map_cons, orders_eq], fun row => ?_⟩
      rw [List.mapM_cons, identity, rows row]
      rfl

end Rows

section Comparison

/-- The stored maps and the snapshot have the same rows. -/
structure Agrees (state : AccountState) (snapshot : ParsedSnapshot)
    (entries : List (String × OrderState)) : Prop where
  balances : (state.balances.entries.map fun entry => balanceRow entry.1 entry.2).Perm
    (snapshot.balances.map fun balance => balanceRow balance.asset balance)
  positions : (state.positions.entries.map fun entry => positionRow entry.1 entry.2).Perm
    (snapshot.positions.map fun position => positionRow position.key position)
  orders : (state.orders.entries.map fun entry => orderRow entry.1 entry.2).Perm
    (entries.map fun entry => orderRow entry.1 entry.2)

theorem balancesDiffer_eq_false_iff (state : AccountState) (balances : List BalanceState) :
    balancesDiffer state balances = false ↔
      (state.balances.entries.map fun entry => balanceRow entry.1 entry.2).Perm
        (balances.map fun balance => balanceRow balance.asset balance) := by
  rw [balancesDiffer, decide_eq_false_iff_not, not_not, sorted_eq_iff]

theorem positionsDiffer_eq_false_iff (state : AccountState) (positions : List PositionState) :
    positionsDiffer state positions = false ↔
      (state.positions.entries.map fun entry => positionRow entry.1 entry.2).Perm
        (positions.map fun position => positionRow position.key position) := by
  rw [positionsDiffer, decide_eq_false_iff_not, not_not, sorted_eq_iff]

/-- With every order identified the comparison returns, and it returns no
mismatch exactly when the rows agree. -/
theorem isMismatch_identified (state : AccountState) {snapshot : ParsedSnapshot}
    {entries : List (String × OrderState)} (identified : identifiedOrders snapshot.orders = .ok entries) :
    ∃ mismatch, isMismatch state snapshot = .ok mismatch ∧
      (mismatch = false ↔ Agrees state snapshot entries) := by
  have rows := (identifiedOrders_ok identified).2 orderRow
  cases balances : balancesDiffer state snapshot.balances with
  | true =>
      refine ⟨true, by simp only [isMismatch, balances, if_true], by simp, fun agrees => ?_⟩
      have same := (balancesDiffer_eq_false_iff state snapshot.balances).mpr agrees.balances
      rw [balances] at same
      cases same
  | false =>
      cases positions : positionsDiffer state snapshot.positions with
      | true =>
          refine ⟨true, by simp [isMismatch, balances, positions], by simp, fun agrees => ?_⟩
          have same := (positionsDiffer_eq_false_iff state snapshot.positions).mpr agrees.positions
          rw [positions] at same
          cases same
      | false =>
          have compared : isMismatch state snapshot =
              .ok (sorted (state.orders.entries.map fun entry => orderRow entry.1 entry.2) ≠
                sorted (entries.map fun entry => orderRow entry.1 entry.2) : Bool) := by
            simp only [isMismatch, balances, positions, Bool.false_eq_true, if_false, rows]
            rfl
          refine ⟨_, compared, ?_⟩
          rw [decide_eq_false_iff_not, not_not, sorted_eq_iff]
          exact ⟨fun orders => ⟨(balancesDiffer_eq_false_iff _ _).mp balances,
            (positionsDiffer_eq_false_iff _ _).mp positions, orders⟩, Agrees.orders⟩

/-- The state a returning reconcile leaves. -/
def committed (counted : AccountState) (snapshot : ParsedSnapshot) (entries : List (String × OrderState))
    (now : Datetime) : AccountState :=
  AccountState.clearReconcileFailure <| AccountState.markReconciled
    { counted with
      balances := AccountState.balanceMap snapshot.balances
      positions := AccountState.positionMap snapshot.positions
      orders := .ofList entries } now

def countedFor (state : AccountState) (mismatch : Bool) : AccountState :=
  if mismatch then state.recordStateMismatch mismatchReason else state.clearStateMismatch

variable {state after : AccountState} {reads : ReconcileReads} {clock : ReconcileClock}
  {snapshot : ParsedSnapshot} {entries : List (String × OrderState)}

/-- A reconcile whose reads parse and whose orders have ids returns, and counts a
mismatch unless nothing was stored or the rows agree. -/
theorem reconcile_identified (state : AccountState) (parsed : readSnapshot reads clock = .ok snapshot)
    (identified : identifiedOrders snapshot.orders = .ok entries) :
    ∃ mismatch, (mismatch = false ↔ hasExistingState state = false ∨ Agrees state snapshot entries) ∧
      reconcile state reads clock =
        (committed (countedFor state mismatch) snapshot entries clock.markedAt, .ok ()) := by
  obtain ⟨mismatch, compared, agrees⟩ := isMismatch_identified state identified
  have mapped : AccountState.orderMap snapshot.orders = .ok (.ofList entries) := by
    rw [orderMap_eq, identified]
    rfl
  have returns (found : Bool) (counts : countMismatch state snapshot = .ok (countedFor state found)) :
      reconcile state reads clock =
        (committed (countedFor state found) snapshot entries clock.markedAt, .ok ()) := by
    have attempted : attempt state reads clock =
        .ok (committed (countedFor state found) snapshot entries clock.markedAt) := by
      rw [attempt_counted parsed counts]
      simp only [commit, AccountState.replaceOrders, mapped]
      rfl
    simp only [reconcile, attempted]
  cases existing : hasExistingState state with
  | false => exact ⟨false, by simp, returns false (countMismatch_fresh existing snapshot)⟩
  | true =>
      refine ⟨mismatch, by simp [agrees], returns mismatch ?_⟩
      rw [countMismatch_existing existing, compared]
      cases mismatch <;> rfl

/-- A reconcile that returned parsed its reads and identified the orders. -/
theorem returned_identified (returned : reconcile state reads clock = (after, .ok ())) :
    ∃ snapshot entries, readSnapshot reads clock = .ok snapshot ∧
      identifiedOrders snapshot.orders = .ok entries := by
  unfold reconcile at returned
  split at returned
  next attempted =>
    cases returned
    obtain ⟨snapshot, parsed, attempted⟩ := bind_ok attempted
    obtain ⟨counted, -, attempted⟩ := bind_ok attempted
    obtain ⟨ordered, replaced, -⟩ := bind_ok attempted
    have replaced := raiseFrom_ok replaced
    simp only [AccountState.replaceOrders, orderMap_eq] at replaced
    cases identified : identifiedOrders snapshot.orders with
    | error error =>
        rw [identified] at replaced
        cases replaced
    | ok entries => exact ⟨snapshot, entries, raiseFrom_ok parsed, identified⟩
  next => cases returned

/-- What it counted and what it stored. -/
theorem reconcile_returned (returned : reconcile state reads clock = (after, .ok ())) :
    ∃ snapshot entries mismatch, readSnapshot reads clock = .ok snapshot ∧
      identifiedOrders snapshot.orders = .ok entries ∧
      (mismatch = false ↔ hasExistingState state = false ∨ Agrees state snapshot entries) ∧
      after = committed (countedFor state mismatch) snapshot entries clock.markedAt := by
  obtain ⟨snapshot, entries, parsed, identified⟩ := returned_identified returned
  obtain ⟨mismatch, agrees, outcome⟩ := reconcile_identified state parsed identified
  exact ⟨snapshot, entries, mismatch, parsed, identified, agrees,
    congrArg Prod.fst (returned.symm.trans outcome)⟩

end Comparison

end AccountReconciler

end CatsPy
