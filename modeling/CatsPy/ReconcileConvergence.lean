import CatsPy.SnapshotComparison

/-!
# Convergence of reconciliation

One reconcile that returns stores exactly the parsed rows. Another one on the
same responses, at any later clock, finds no mismatch and changes timestamps only.
-/
namespace CatsPy
open PythonValues StateRuns

section Timestamps

/-- The values apart from the times they were recorded at. -/
def BalanceState.timeless (balance : BalanceState) : BalanceState := { balance with updatedAt := 0 }

def PositionState.timeless (position : PositionState) : PositionState := { position with updatedAt := 0 }

def OrderState.timeless (order : OrderState) : OrderState := { order with createdAt := 0, updatedAt := 0 }

def ParsedSnapshot.timeless (snapshot : ParsedSnapshot) : ParsedSnapshot where
  balances := snapshot.balances.map BalanceState.timeless
  positions := snapshot.positions.map PositionState.timeless
  orders := snapshot.orders.map OrderState.timeless

end Timestamps

namespace AccountReconciler

section Clocks

theorem map_bind {ε α β γ : Type} (first : Except ε α) (next : α → Except ε β) (f : β → γ) :
    (first >>= next).map f = first >>= fun a => (next a).map f := by
  cases first <;> rfl

variable {α : Type} (f : α → α)

theorem map_collectRows (row : PyValue → Except PyError (Option α)) (items : List PyValue) :
    (collectRows row items).map (List.map f) =
      collectRows (fun item => (row item).map (Option.map f)) items := by
  induction items with
  | nil => rfl
  | cons item rest ih =>
      simp only [collectRows, ← ih]
      cases row item with
      | error e => rfl
      | ok a =>
          cases collectRows row rest with
          | error e => rfl
          | ok later => cases a <;> rfl

/-- Mapping the parsed rows is parsing with the mapped parser. -/
theorem map_parseRows (key : String) (parse : PyValue → String → Except PyError α) (rows : PyValue) :
    (parseRows key parse rows).map (List.map f) =
      parseRows key (fun item text => (parse item text).map f) rows := by
  cases rows with
  | list items =>
      refine (map_collectRows f (keyedRow key parse) items).trans ?_
      congr 1
      funext item
      unfold keyedRow
      split
      · rfl
      · split
        · rfl
        · next text _ =>
          dsimp only
          cases parse item text <;> rfl
  | _ => rfl

theorem parseBalance_timeless (first second : Datetime) (item : PyValue) (asset : String) :
    (parseBalance first item asset).map BalanceState.timeless =
      (parseBalance second item asset).map BalanceState.timeless := by
  simp only [parseBalance, map_bind]
  rfl

theorem parsePosition_timeless (risk : OrderedDict (String × String) PyValue) (first second : Datetime)
    (item : PyValue) (symbol : String) :
    (parsePosition risk first item symbol).map PositionState.timeless =
      (parsePosition risk second item symbol).map PositionState.timeless := by
  simp only [parsePosition, map_bind]
  rfl

/-- Whether a time of a row can be read does not depend on the clock. -/
theorem datetimeOr_discard {β : Type} (value : PyValue) (first second : Datetime) (next : Except PyError β) :
    (datetimeOr value first >>= fun _ => next) = datetimeOr value second >>= fun _ => next := by
  unfold datetimeOr
  split
  · next given =>
    cases value with
    | none => cases given
    | _ => rfl
  · rfl

theorem parseOrder_timeless (first second : Datetime) (item : PyValue) (symbol : String) :
    (parseOrder first item symbol).map OrderState.timeless =
      (parseOrder second item symbol).map OrderState.timeless := by
  have returned (order : OrderState) : (pure order : Except PyError OrderState).map OrderState.timeless =
    .ok { order with createdAt := 0, updatedAt := 0 } := rfl
  simp only [parseOrder, map_bind, returned, datetimeOr_discard _ first second]

theorem parseBalances_timeless (accountInfo : PyValue) (first second : Datetime) :
    (parseBalances accountInfo first).map (List.map BalanceState.timeless) =
      (parseBalances accountInfo second).map (List.map BalanceState.timeless) := by
  simp only [parseBalances, map_bind, map_parseRows, parseBalance_timeless first second]

theorem parsePositions_timeless (accountInfo positionRisk : PyValue) (first second : Datetime) :
    (parsePositions accountInfo positionRisk first).map (List.map PositionState.timeless) =
      (parsePositions accountInfo positionRisk second).map (List.map PositionState.timeless) := by
  simp only [parsePositions, map_bind]
  refine bind_congr fun account => bind_congr fun positions => ?_
  cases positions with
  | list items => simp only [map_bind, map_parseRows, parsePosition_timeless _ first second]
  | _ => rfl

theorem parseOrders_timeless (openOrders : PyValue) (first second : Datetime) :
    (parseOrders openOrders first).map (List.map OrderState.timeless) =
      (parseOrders openOrders second).map (List.map OrderState.timeless) := by
  simp only [parseOrders, map_bind, map_parseRows, parseOrder_timeless first second]

theorem map_eq_ok {ε α β : Type} {f : α → β} {first second : Except ε α} {a : α}
    (same : first.map f = second.map f) (returned : first = .ok a) : ∃ b, second = .ok b ∧ f b = f a := by
  subst returned
  cases second with
  | error e => cases same
  | ok b => exact ⟨b, rfl, (Except.ok.inj same).symm⟩

/-- The same responses parse at any clock, to the same rows up to their times. -/
theorem readSnapshot_later {reads : ReconcileReads} {clock : ReconcileClock} {snapshot : ParsedSnapshot}
    (parsed : readSnapshot reads clock = .ok snapshot) (later : ReconcileClock) :
    ∃ again, readSnapshot reads later = .ok again ∧ again.timeless = snapshot.timeless := by
  obtain ⟨accountInfo, account, parsed⟩ := bind_ok parsed
  obtain ⟨positionRisk, risk, parsed⟩ := bind_ok parsed
  obtain ⟨openOrders, open_orders, parsed⟩ := bind_ok parsed
  obtain ⟨balances, balances_ok, parsed⟩ := bind_ok parsed
  obtain ⟨positions, positions_ok, parsed⟩ := bind_ok parsed
  obtain ⟨orders, orders_ok, parsed⟩ := bind_ok parsed
  cases parsed
  obtain ⟨balances', balances_again, same_balances⟩ :=
    map_eq_ok (parseBalances_timeless accountInfo clock.balancesAt later.balancesAt) balances_ok
  obtain ⟨positions', positions_again, same_positions⟩ :=
    map_eq_ok (parsePositions_timeless accountInfo positionRisk clock.positionsAt later.positionsAt)
      positions_ok
  obtain ⟨orders', orders_again, same_orders⟩ :=
    map_eq_ok (parseOrders_timeless openOrders clock.ordersAt later.ordersAt) orders_ok
  refine ⟨⟨balances', positions', orders'⟩, ?_, ?_⟩
  · simp only [readSnapshot, account, risk, open_orders, balances_again, positions_again, orders_again,
      bind, Except.bind]
    rfl
  · simp only [ParsedSnapshot.timeless, same_balances, same_positions, same_orders]

end Clocks

section Convergence

/-- The keys of the parsed rows are pairwise different. -/
structure DistinctRows (snapshot : ParsedSnapshot) : Prop where
  assets : (snapshot.balances.map BalanceState.asset).Nodup
  positions : (snapshot.positions.map PositionState.key).Nodup
  orders : (snapshot.orders.map OrderState.identity).Nodup

/-- The maps are the parsed rows, each under its own key. -/
structure HoldsExactly (state : AccountState) (snapshot : ParsedSnapshot) : Prop where
  balances : state.balances.entries = snapshot.balances.map fun balance => (balance.asset, balance)
  positions : state.positions.entries = snapshot.positions.map fun position => (position.key, position)
  orders : state.orders.values = snapshot.orders
  identified : ∀ entry ∈ state.orders.entries, entry.2.identity = .ok entry.1

/-- The maps of two states, apart from timestamps. -/
structure SameUpToTimes (state other : AccountState) : Prop where
  balances : state.balances.mapValues BalanceState.timeless = other.balances.mapValues BalanceState.timeless
  positions : state.positions.mapValues PositionState.timeless =
    other.positions.mapValues PositionState.timeless
  orders : state.orders.mapValues OrderState.timeless = other.orders.mapValues OrderState.timeless

theorem identifiedOrders_entries {orders : List OrderState} {entries : List (String × OrderState)}
    (identified : identifiedOrders orders = .ok entries) :
    entries.map (fun entry => (Except.ok entry.1 : Except PyError String)) = orders.map OrderState.identity ∧
      ∀ entry ∈ entries, entry.2.identity = .ok entry.1 := by
  induction orders generalizing entries with
  | nil =>
      cases identified
      exact ⟨rfl, by simp⟩
  | cons first rest ih =>
      rw [identifiedOrders, List.mapM_cons] at identified
      obtain ⟨entry, named, identified⟩ := bind_ok identified
      obtain ⟨later, others, identified⟩ := bind_ok identified
      cases identified
      obtain ⟨identity, stored⟩ := identity_eq_ok named
      obtain ⟨names, own⟩ := ih others
      refine ⟨by rw [List.map_cons, List.map_cons, names, identity], ?_⟩
      intro e member
      rcases List.mem_cons.mp member with rfl | rest_member
      · rw [stored, identity]
      · exact own e rest_member

/-- Entries under their own identities are what their orders are identified as. -/
theorem identifiedOrders_values {entries : List (String × OrderState)}
    (own : ∀ entry ∈ entries, entry.2.identity = .ok entry.1) :
    identifiedOrders (entries.map Prod.snd) = .ok entries := by
  induction entries with
  | nil => rfl
  | cons entry rest ih =>
      have later := ih fun e member => own e (List.mem_cons_of_mem entry member)
      rw [identifiedOrders] at later
      rw [identifiedOrders, List.map_cons, List.mapM_cons, own entry List.mem_cons_self, later]
      rfl

/-- An identity does not depend on the times of its order. -/
theorem map_identifiedOrders (orders : List OrderState) :
    (identifiedOrders orders).map (List.map fun entry => (entry.1, entry.2.timeless)) =
      identifiedOrders (orders.map OrderState.timeless) := by
  induction orders with
  | nil => rfl
  | cons first rest ih =>
      simp only [identifiedOrders] at ih
      simp only [identifiedOrders, List.map_cons, List.mapM_cons, ← ih]
      have identity : first.timeless.identity = first.identity := rfl
      rw [identity]
      cases first.identity with
      | error e => rfl
      | ok key =>
          cases rest.mapM fun (order : OrderState) => order.identity.map fun identity => (identity, order) <;>
            rfl

theorem map_eq_of_map_eq {α β γ : Type} {t : α → β} {l next : List α} (same : l.map t = next.map t)
    (g : β → γ) : l.map (g ∘ t) = next.map (g ∘ t) := by
  rw [← List.map_map, same, List.map_map]

variable {state other : AccountState} {snapshot again : ParsedSnapshot}
  {entries : List (String × OrderState)}

theorem DistinctRows.of_timeless (distinct : DistinctRows snapshot)
    (same : again.timeless = snapshot.timeless) : DistinctRows again := by
  have assets : again.balances.map BalanceState.asset = snapshot.balances.map BalanceState.asset :=
    map_eq_of_map_eq (congrArg ParsedSnapshot.balances same) BalanceState.asset
  have positions : again.positions.map PositionState.key = snapshot.positions.map PositionState.key :=
    map_eq_of_map_eq (congrArg ParsedSnapshot.positions same) PositionState.key
  have orders : again.orders.map OrderState.identity = snapshot.orders.map OrderState.identity :=
    map_eq_of_map_eq (congrArg ParsedSnapshot.orders same) OrderState.identity
  exact ⟨assets ▸ distinct.assets, positions ▸ distinct.positions, orders ▸ distinct.orders⟩

/-- A commit of distinct rows stores exactly these. -/
theorem committed_holds (counted : AccountState) (now : Datetime) (distinct : DistinctRows snapshot)
    (identified : identifiedOrders snapshot.orders = .ok entries) :
    HoldsExactly (committed counted snapshot entries now) snapshot := by
  obtain ⟨names, own⟩ := identifiedOrders_entries identified
  have keys : (entries.map Prod.fst).Nodup := by
    apply List.Nodup.of_map (Except.ok (ε := PyError))
    rw [List.map_map]
    exact names ▸ distinct.orders
  have stored : (OrderedDict.ofList entries).entries = entries := OrderedDict.entries_ofList keys
  constructor
  · apply OrderedDict.entries_ofList
    rw [List.map_map]
    exact distinct.assets
  · apply OrderedDict.entries_ofList
    rw [List.map_map]
    exact distinct.positions
  · exact (congrArg (List.map Prod.snd) stored).trans (identifiedOrders_ok identified).1
  · intro entry member
    exact own entry (stored ▸ member)

theorem HoldsExactly.identifies (held : HoldsExactly state snapshot) :
    identifiedOrders snapshot.orders = .ok state.orders.entries := by
  rw [← held.orders]
  exact identifiedOrders_values held.identified

theorem HoldsExactly.sameUpToTimes (held : HoldsExactly state snapshot) (holds : HoldsExactly other again)
    (same : again.timeless = snapshot.timeless) : SameUpToTimes other state := by
  constructor
  · apply OrderedDict.ext_entries
    simp only [OrderedDict.mapValues, held.balances, holds.balances, List.map_map]
    exact map_eq_of_map_eq (congrArg ParsedSnapshot.balances same) fun balance => (balance.asset, balance)
  · apply OrderedDict.ext_entries
    simp only [OrderedDict.mapValues, held.positions, holds.positions, List.map_map]
    exact map_eq_of_map_eq (congrArg ParsedSnapshot.positions same) fun position => (position.key, position)
  · apply OrderedDict.ext_entries
    have first := map_identifiedOrders snapshot.orders
    have second := map_identifiedOrders again.orders
    rw [show again.orders.map OrderState.timeless = snapshot.orders.map OrderState.timeless from
      congrArg ParsedSnapshot.orders same, ← first, held.identifies, holds.identifies] at second
    exact Except.ok.inj second

/-- The rows compared carry no times, so the stored ones agree with a second parse. -/
theorem HoldsExactly.agrees (held : HoldsExactly state snapshot)
    (same : again.timeless = snapshot.timeless) (identified : identifiedOrders again.orders = .ok entries) :
    Agrees state again entries := by
  constructor
  · rw [held.balances, List.map_map]
    exact .of_eq (map_eq_of_map_eq (congrArg ParsedSnapshot.balances same)
      fun balance => balanceRow balance.asset balance).symm
  · rw [held.positions, List.map_map]
    exact .of_eq (map_eq_of_map_eq (congrArg ParsedSnapshot.positions same)
      fun position => positionRow position.key position).symm
  · have first := map_identifiedOrders snapshot.orders
    have second := map_identifiedOrders again.orders
    rw [show again.orders.map OrderState.timeless = snapshot.orders.map OrderState.timeless from
      congrArg ParsedSnapshot.orders same, ← first, held.identifies, identified] at second
    exact .of_eq (map_eq_of_map_eq (Except.ok.inj second) fun entry => orderRow entry.1 entry.2).symm

/-- A reconcile that found nothing: no mismatch, no failure, only new times. -/
structure Settled (before after : AccountState) : Prop where
  stateMismatchCount : after.stateMismatchCount = 0
  lastMismatchReason : after.lastMismatchReason = none
  reconcileFailureCount : after.reconcileFailureCount = 0
  killSwitch : after.killSwitchActive = before.killSwitchActive ∧
    after.lastKillSwitchReason = before.lastKillSwitchReason
  maps : SameUpToTimes after before

/-- A returning reconcile on distinct rows stores exactly these, and another one
on the same responses settles. -/
theorem reconcile_converges {after : AccountState} {reads : ReconcileReads} {clock : ReconcileClock}
    (returned : reconcile state reads clock = (after, .ok ()))
    (parsed : readSnapshot reads clock = .ok snapshot) (distinct : DistinctRows snapshot)
    (later : ReconcileClock) :
    HoldsExactly after snapshot ∧
      ∃ settled, reconcile after reads later = (settled, .ok ()) ∧ Settled after settled := by
  obtain ⟨found, entries, mismatch, found_parsed, identified, -, rfl⟩ := reconcile_returned returned
  obtain rfl : found = snapshot := Except.ok.inj (found_parsed.symm.trans parsed)
  have held := committed_holds (countedFor state mismatch) clock.markedAt distinct identified
  obtain ⟨again, parsed_again, same⟩ := readSnapshot_later parsed later
  have identities : (identifiedOrders found.orders).map (List.map fun entry => (entry.1, entry.2.timeless)) =
      (identifiedOrders again.orders).map (List.map fun entry => (entry.1, entry.2.timeless)) := by
    rw [map_identifiedOrders, map_identifiedOrders]
    exact congrArg (fun s => identifiedOrders s.orders) same.symm
  obtain ⟨entries_again, identified_again, -⟩ := map_eq_ok identities identified
  obtain ⟨recorded, agrees, outcome⟩ := reconcile_identified
    (committed (countedFor state mismatch) found entries clock.markedAt) parsed_again identified_again
  obtain rfl : recorded = false := agrees.mpr (.inr (held.agrees same identified_again))
  refine ⟨held, _, outcome, rfl, rfl, rfl, ⟨rfl, rfl⟩, ?_⟩
  exact held.sameUpToTimes (committed_holds _ _ (distinct.of_timeless same) identified_again) same

end Convergence

section Samples

def fundedReads : ReconcileReads :=
  responses [.dict [("asset", .str "USDT"), ("walletBalance", .int 1000)]]
    [.dict [("symbol", .str "BTCUSDT"), ("positionAmt", .int 1), ("entryPrice", .int 50000)]]
    [.dict [("symbol", .str "BTCUSDT"), ("status", .str "NEW"), ("orderId", .int 7)],
      .dict [("symbol", .str "BTCUSDT"), ("status", .str "NEW"), ("clientOrderId", .str "entry")]]

def fundedOrder (orderId : Option String) (clientOrderId : PyValue) : OrderState :=
  { symbol := "BTCUSDT", status := .new, side := .buy, orderId, clientOrderId, price := some 0
    avgPrice := some 0, origQty := some 0, createdAt := 0, updatedAt := 0 }

def fundedSnapshot : ParsedSnapshot where
  balances := [{ asset := "USDT", walletBalance := (1000 : ℤ), updatedAt := 0 }]
  positions := [{ symbol := "BTCUSDT", direction := .long, quantity := (1 : ℤ), entryPrice := (50000 : ℤ)
                  updatedAt := 0 }]
  orders := [fundedOrder (some "7") .none, fundedOrder none (.str "entry")]

theorem funded_converges : ∃ after settled, reconcile {} fundedReads noon = (after, .ok ()) ∧
    HoldsExactly after fundedSnapshot ∧ reconcile after fundedReads ⟨1, 2, 3, 4⟩ = (settled, .ok ()) ∧
    Settled after settled := by
  have returned : (reconcile {} fundedReads noon).2.toOption.isSome = true := by decide +kernel
  have distinct : DistinctRows fundedSnapshot := ⟨by decide, by decide, by decide⟩
  cases outcome : reconcile {} fundedReads noon with
  | mk after result =>
      rw [outcome] at returned
      cases result with
      | error error => cases returned
      | ok _ =>
          obtain ⟨holds, settled, again, rest⟩ := reconcile_converges outcome rfl distinct ⟨1, 2, 3, 4⟩
          exact ⟨after, settled, rfl, holds, again, rest⟩

end Samples

end AccountReconciler

end CatsPy
