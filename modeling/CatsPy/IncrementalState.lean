import CatsPy.MovingPrices

/-!
# Incremental state

What a reconcile finds after any stream of events when the venue reports the
wallet balances, the positions and the open orders just as they are stored.
-/
namespace CatsPy
open PythonValues StateRuns

namespace AccountReconciler

section Reports

/-- The snapshot reports the stored wallet balances, the stored quantities and
entry prices, and exactly the stored orders that are open. -/
structure Reports (snapshot : ParsedSnapshot) (entries : List (String × OrderState))
    (state : AccountState) : Prop where
  identified : identifiedOrders snapshot.orders = .ok entries
  balances : (snapshot.balances.map fun balance => (balance.asset, balance.walletBalance)).Perm
    (state.balances.entries.map fun entry => (entry.1, entry.2.walletBalance))
  positions : (snapshot.positions.map fun position =>
      (position.key, position.quantity, position.entryPrice)).Perm
    (state.positions.entries.map fun entry => (entry.1, entry.2.quantity, entry.2.entryPrice))
  orders : (entries.map fun entry => orderRow entry.1 entry.2).Perm
    ((state.orders.entries.filter fun entry => entry.2.isOpen).map fun entry =>
      orderRow entry.1 entry.2)

/-- What the comparison asks for beyond that. -/
structure ReportsAll (snapshot : ParsedSnapshot) (state : AccountState) : Prop where
  balances : ∀ balance ∈ snapshot.balances, ∀ stored, state.balances.get? balance.asset = some stored →
    balance.availableBalance = stored.availableBalance ∧
      balance.crossWalletBalance = stored.crossWalletBalance
  positions : ∀ position ∈ snapshot.positions, ∀ stored,
    state.positions.get? position.key = some stored → position.prices = stored.prices
  orders : ∀ order ∈ state.orders.values, order.isOpen = true

variable {state : AccountState} {snapshot : ParsedSnapshot} {entries : List (String × OrderState)}

/-- A row found among the parts of a dictionary's entries is the part of the stored value. -/
theorem part_of_stored {κ ν π : Type} [DecidableEq κ] (d : OrderedDict κ ν) (part : ν → π)
    {listed : List (κ × π)} (same : listed.Perm (d.entries.map fun entry => (entry.1, part entry.2)))
    {k : κ} {p : π} (member : (k, p) ∈ listed) {v : ν} (stored : d.get? k = some v) : p = part v := by
  obtain ⟨⟨k', w⟩, found, own⟩ := List.mem_map.mp (same.mem_iff.mp member)
  cases own
  rw [(d.get?_eq_some_iff _ _).mpr found] at stored
  cases stored
  rfl

theorem balances_agree_iff (reports : Reports snapshot entries state) :
    (state.balances.entries.map fun entry => balanceRow entry.1 entry.2).Perm
        (snapshot.balances.map fun balance => balanceRow balance.asset balance) ↔
      ∀ balance ∈ snapshot.balances, ∀ stored, state.balances.get? balance.asset = some stored →
        balance.availableBalance = stored.availableBalance ∧
          balance.crossWalletBalance = stored.crossWalletBalance := by
  have keys : ((snapshot.balances.map fun balance => (balance.asset, balance)).map Prod.fst).Perm
      state.balances.keys := by
    simpa [OrderedDict.keys, Function.comp_def] using reports.balances.map Prod.fst
  have compared := OrderedDict.perm_entries_iff (fun entry : String × BalanceState =>
    balanceRow entry.1 entry.2) (fun row => (ofLex row).1) (fun _ => rfl) state.balances keys
  simp only [List.map_map, Function.comp_def, List.forall_mem_map] at compared
  rw [compared]
  refine forall₄_congr fun balance listed stored found => ?_
  have wallet := part_of_stored state.balances BalanceState.walletBalance reports.balances
    (List.mem_map.mpr ⟨balance, listed, rfl⟩) found
  simp [balanceRow, wallet, eq_comm]

theorem positionRow_eq_iff (key : String × String) (stored position : PositionState) :
    positionRow key stored = positionRow key position ↔ stored.quantity = position.quantity ∧
      stored.entryPrice = position.entryPrice ∧ stored.prices = position.prices := by
  simp only [positionRow, PositionState.prices, toLex_inj, Prod.mk.injEq, true_and]

theorem positions_agree_iff (reports : Reports snapshot entries state) :
    (state.positions.entries.map fun entry => positionRow entry.1 entry.2).Perm
        (snapshot.positions.map fun position => positionRow position.key position) ↔
      ∀ position ∈ snapshot.positions, ∀ stored, state.positions.get? position.key = some stored →
        position.prices = stored.prices := by
  have keys : ((snapshot.positions.map fun position => (position.key, position)).map Prod.fst).Perm
      state.positions.keys := by
    simpa [OrderedDict.keys, Function.comp_def] using reports.positions.map Prod.fst
  have compared := OrderedDict.perm_entries_iff (fun entry : (String × String) × PositionState =>
    positionRow entry.1 entry.2) (fun row => ((ofLex row).1, (ofLex (ofLex row).2).1)) (fun _ => rfl)
    state.positions keys
  simp only [List.map_map, Function.comp_def, List.forall_mem_map] at compared
  rw [compared]
  refine forall₄_congr fun position listed stored found => ?_
  have held := part_of_stored state.positions (fun stored => (stored.quantity, stored.entryPrice))
    reports.positions (List.mem_map.mpr ⟨position, listed, rfl⟩) found
  obtain ⟨quantity, entryPrice⟩ := Prod.mk.inj held
  rw [positionRow_eq_iff, and_iff_right quantity.symm, and_iff_right entryPrice.symm, eq_comm]

/-- A finished order is stored for good and never reported, so one is enough to differ. -/
theorem orders_agree_iff (reports : Reports snapshot entries state) :
    (state.orders.entries.map fun entry => orderRow entry.1 entry.2).Perm
        (entries.map fun entry => orderRow entry.1 entry.2) ↔
      ∀ order ∈ state.orders.values, order.isOpen = true := by
  have open_iff : (∀ order ∈ state.orders.values, order.isOpen = true) ↔
      ∀ entry ∈ state.orders.entries, entry.2.isOpen = true := by
    simp only [OrderedDict.values, List.forall_mem_map]
  rw [open_iff]
  constructor
  · intro perm
    have lengths := (perm.trans reports.orders).length_eq
    rw [List.length_map, List.length_map] at lengths
    exact List.length_filter_eq_length_iff.mp lengths.symm
  · intro all
    have whole := reports.orders.symm
    rwa [List.filter_eq_self.mpr all] at whole

theorem agrees_iff_reportsAll (reports : Reports snapshot entries state) :
    Agrees state snapshot entries ↔ ReportsAll snapshot state :=
  ⟨fun agrees => ⟨(balances_agree_iff reports).mp agrees.balances,
      (positions_agree_iff reports).mp agrees.positions, (orders_agree_iff reports).mp agrees.orders⟩,
    fun all => ⟨(balances_agree_iff reports).mpr all.balances,
      (positions_agree_iff reports).mpr all.positions, (orders_agree_iff reports).mpr all.orders⟩⟩

/-- Nothing stored leaves nothing to differ from. -/
theorem reportsAll_of_fresh (fresh : hasExistingState state = false) (snapshot : ParsedSnapshot) :
    ReportsAll snapshot state := by
  simp only [hasExistingState, Bool.or_eq_false_iff, Bool.not_eq_false', OrderedDict.isEmpty_iff]
    at fresh
  obtain ⟨⟨noBalances, noPositions⟩, noOrders⟩ := fresh
  refine ⟨?_, ?_, ?_⟩
  · intro balance _ stored found
    simp [noBalances] at found
  · intro position _ stored found
    simp [noPositions] at found
  · intro order stored
    rw [noOrders] at stored
    cases stored

end Reports

section Streams

/-- A private-stream payload and the clock when it is applied. -/
abbrev StreamEvent := PyValue × Datetime

/-- The state an event leaves, applied or raising. -/
def streamStep (state : AccountState) (event : StreamEvent) : AccountState :=
  final (BinanceUserEventHandler.apply state event.1 event.2)

/-- After a reconcile and any stream of events, a reconcile whose snapshot
reports what is stored counts no mismatch exactly when the snapshot also repeats
the free balances and the prices, and no stored order is finished. -/
theorem streamed_matches_iff (before : AccountState) (producing : ReconcileCall)
    (events : List StreamEvent) (call : ReconcileCall) (snapshot : ParsedSnapshot)
    (parsed : readSnapshot call.1 call.2 = .ok snapshot) (entries : List (String × OrderState))
    (reports : Reports snapshot entries (run streamStep (reconcileStep before producing) events)) :
    (reconcileStep (run streamStep (reconcileStep before producing) events) call).stateMismatchCount = 0 ↔
      ReportsAll snapshot (run streamStep (reconcileStep before producing) events) := by
  generalize run streamStep (reconcileStep before producing) events = state at reports
  obtain ⟨mismatch, agrees, outcome⟩ := reconcile_identified state parsed reports.identified
  have matches_iff : mismatch = false ↔ ReportsAll snapshot state := by
    rw [agrees, agrees_iff_reportsAll reports]
    exact or_iff_right_of_imp fun fresh => reportsAll_of_fresh fresh snapshot
  rw [reconcileStep, outcome, ← matches_iff]
  exact countedFor_eq_zero_iff state mismatch

section Samples

/-- The wallet as it was, told again by the stream. -/
def walletEvent : StreamEvent := (.dict [("e", .str "ACCOUNT_UPDATE"), ("E", .int 1700000000000),
  ("a", .dict [("B", .list [.dict [("a", .str "USDT"), ("wb", .int 1000)]])])], 0)

/-- The end of a market order. -/
def filledEvent : StreamEvent := (.dict [("e", .str "ORDER_TRADE_UPDATE"), ("E", .int 1700000000000),
  ("o", .dict [("s", .str "BTCUSDT"), ("i", .int 7), ("X", .str "FILLED"), ("S", .str "BUY"),
    ("o", .str "MARKET"), ("q", .int 1), ("z", .int 1), ("ap", .int 50000)])], 0)

theorem streamed_matches_wallet :
    (reconcileStep (run streamStep (reconcileStep {} (longMarked 50000)) [walletEvent])
        (longMarked 50000)).stateMismatchCount = 0 ↔
      ReportsAll (longSnapshot 50000)
        (run streamStep (reconcileStep {} (longMarked 50000)) [walletEvent]) :=
  streamed_matches_iff {} (longMarked 50000) [walletEvent] (longMarked 50000) (longSnapshot 50000)
    (longMarked_parsed 50000) []
    ⟨rfl, by decide +kernel, by decide +kernel, by decide +kernel⟩

/-- The filled order is no longer reported, and the next reconcile counts it. -/
theorem filled_order_mismatches :
    let streamed := run streamStep (reconcileStep {} (longMarked 50000)) [filledEvent]
    Returns {} (longMarked 50000) ∧ streamed.stateMismatchCount = 0 ∧
      readSnapshot (longMarked 50000).1 (longMarked 50000).2 = .ok (longSnapshot 50000) ∧
      Reports (longSnapshot 50000) [] streamed ∧
      (reconcileStep streamed (longMarked 50000)).stateMismatchCount = 1 :=
  ⟨by decide +kernel, by decide +kernel, longMarked_parsed 50000,
    ⟨rfl, by decide +kernel, by decide +kernel, by decide +kernel⟩, by decide +kernel⟩

end Samples

end Streams

end AccountReconciler

end CatsPy
