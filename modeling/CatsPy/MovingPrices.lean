import CatsPy.SnapshotComparison

/-!
# Moving prices

Reconciles whose responses repeat each other but for the prices. The comparison
includes the mark price, the notional and the unrealized profit, so each of
them counts a mismatch unless the prices stand still.
-/
namespace CatsPy
open PythonValues StateRuns AccountReconciler

section Snapshots

def BalanceState.untimed (balance : BalanceState) : BalanceState := { balance with updatedAt := 0 }

def OrderState.untimed (order : OrderState) : OrderState := { order with createdAt := 0, updatedAt := 0 }

def PositionState.unpriced (position : PositionState) : PositionState :=
  { position with markPrice := 0, notional := 0, unrealizedPnl := 0, updatedAt := 0 }

def PositionState.prices (position : PositionState) : ℚ × ℚ × ℚ :=
  (position.markPrice, position.notional, position.unrealizedPnl)

/-- Two responses that differ in the prices of the positions and the reading times only. -/
structure ParsedSnapshot.Repriced (next first : ParsedSnapshot) : Prop where
  balances : next.balances.map BalanceState.untimed = first.balances.map BalanceState.untimed
  positions : next.positions.map PositionState.unpriced = first.positions.map PositionState.unpriced
  orders : next.orders.map OrderState.untimed = first.orders.map OrderState.untimed

/-- The prices are those of the first response, and no row is listed twice. -/
structure ParsedSnapshot.Unmoved (next first : ParsedSnapshot) : Prop where
  prices : next.positions.map PositionState.prices = first.positions.map PositionState.prices
  assets : (next.balances.map BalanceState.asset).Nodup
  keys : (next.positions.map PositionState.key).Nodup
  identities : ∀ entries, identifiedOrders next.orders = .ok entries → (entries.map Prod.fst).Nodup

variable {α β γ : Type}

/-- Lists equal under `g` are equal under whatever is read from `g`. -/
theorem map_eq_of_factor {f : α → γ} {g : α → β} (h : β → γ) {l next : List α}
    (same : next.map g = l.map g) (factor : ∀ x, h (g x) = f x) : next.map f = l.map f := by
  simpa only [List.map_map, Function.comp_def, factor] using congrArg (List.map h) same

variable {next first : ParsedSnapshot}

theorem ParsedSnapshot.Repriced.symm (repriced : next.Repriced first) : first.Repriced next :=
  ⟨repriced.balances.symm, repriced.positions.symm, repriced.orders.symm⟩

theorem ParsedSnapshot.Repriced.trans {later : ParsedSnapshot} (repriced : later.Repriced next)
    (before : next.Repriced first) : later.Repriced first :=
  ⟨repriced.balances.trans before.balances, repriced.positions.trans before.positions,
    repriced.orders.trans before.orders⟩

theorem ParsedSnapshot.Unmoved.of_prices {prev : ParsedSnapshot} (still : next.Unmoved prev)
    (prices : prev.positions.map PositionState.prices = first.positions.map PositionState.prices) :
    next.Unmoved first :=
  ⟨still.prices.trans prices, still.assets, still.keys, still.identities⟩

/-- Up to prices, equal rows are equal prices. -/
theorem ParsedSnapshot.Repriced.rows_iff (repriced : next.Repriced first) :
    next.positions.map (fun position => positionRow position.key position) =
        first.positions.map (fun position => positionRow position.key position) ↔
      next.positions.map PositionState.prices = first.positions.map PositionState.prices := by
  constructor
  · intro rows
    exact map_eq_of_factor (fun row => (ofLex (ofLex (ofLex (ofLex (ofLex row).2).2).2).2)) rows
      (fun _ => rfl)
  · intro prices
    have both : next.positions.map (fun position => (position.unpriced, position.prices)) =
        first.positions.map fun position => (position.unpriced, position.prices) := by
      rw [← List.zip_map' (f := PositionState.unpriced), ← List.zip_map' (f := PositionState.unpriced),
        repriced.positions]
      exact congrArg _ prices
    exact map_eq_of_factor (fun both => positionRow both.1.key
      { both.1 with markPrice := both.2.1, notional := both.2.2.1, unrealizedPnl := both.2.2.2 })
      both (fun _ => rfl)

end Snapshots

namespace AccountReconciler

section Repeats

/-- The three maps of a state are those of a snapshot. -/
structure Stores (state : AccountState) (snapshot : ParsedSnapshot) (entries : List (String × OrderState)) :
    Prop where
  balances : state.balances = AccountState.balanceMap snapshot.balances
  positions : state.positions = AccountState.positionMap snapshot.positions
  identified : identifiedOrders snapshot.orders = .ok entries
  orders : state.orders = .ofList entries

variable {state : AccountState} {prev next : ParsedSnapshot} {entries later : List (String × OrderState)}

theorem balances_repeat_iff (stores : Stores state prev entries) (repriced : next.Repriced prev) :
    (state.balances.entries.map fun entry => balanceRow entry.1 entry.2).Perm
        (next.balances.map fun balance => balanceRow balance.asset balance) ↔
      (next.balances.map BalanceState.asset).Nodup := by
  have assets : next.balances.map BalanceState.asset = prev.balances.map BalanceState.asset :=
    map_eq_of_factor BalanceState.asset repriced.balances fun _ => rfl
  have rows : next.balances.map (fun balance => balanceRow balance.asset balance) =
      prev.balances.map fun balance => balanceRow balance.asset balance :=
    map_eq_of_factor (fun balance => balanceRow balance.asset balance) repriced.balances fun _ => rfl
  have compared := OrderedDict.perm_ofList_iff (fun entry : String × BalanceState =>
    balanceRow entry.1 entry.2) (fun row => (ofLex row).1) (fun _ => rfl)
    (prev.balances.map fun balance => (balance.asset, balance))
    (next.balances.map fun balance => (balance.asset, balance))
    (by simpa [Function.comp_def] using assets)
  simp only [List.map_map, Function.comp_def] at compared
  rw [stores.balances, AccountState.balanceMap, compared, assets]
  exact and_iff_left rows

theorem positions_repeat_iff (stores : Stores state prev entries) (repriced : next.Repriced prev) :
    (state.positions.entries.map fun entry => positionRow entry.1 entry.2).Perm
        (next.positions.map fun position => positionRow position.key position) ↔
      (next.positions.map PositionState.key).Nodup ∧
        next.positions.map PositionState.prices = prev.positions.map PositionState.prices := by
  have keys : next.positions.map PositionState.key = prev.positions.map PositionState.key :=
    map_eq_of_factor PositionState.key repriced.positions fun _ => rfl
  have compared := OrderedDict.perm_ofList_iff (fun entry : (String × String) × PositionState =>
    positionRow entry.1 entry.2) (fun row => ((ofLex row).1, (ofLex (ofLex row).2).1)) (fun _ => rfl)
    (prev.positions.map fun position => (position.key, position))
    (next.positions.map fun position => (position.key, position))
    (by simpa [Function.comp_def] using keys)
  simp only [List.map_map, Function.comp_def] at compared
  rw [stores.positions, AccountState.positionMap, compared, keys, repriced.rows_iff]

theorem orders_repeat_iff (stores : Stores state prev entries) (repriced : next.Repriced prev)
    (identified : identifiedOrders next.orders = .ok later) :
    (state.orders.entries.map fun entry => orderRow entry.1 entry.2).Perm
        (later.map fun entry => orderRow entry.1 entry.2) ↔ (later.map Prod.fst).Nodup := by
  have rows_of (orders : List OrderState) : (orders.map OrderState.untimed).mapM
      (fun (order : OrderState) => order.identity.map fun identity => orderRow identity order) =
        orders.mapM fun (order : OrderState) => order.identity.map fun identity =>
          orderRow identity order := List.mapM_map
  have rows : later.map (fun entry => orderRow entry.1 entry.2) =
      entries.map fun entry => orderRow entry.1 entry.2 := by
    have read := (identifiedOrders_ok identified).2 orderRow
    rw [← rows_of, repriced.orders, rows_of, (identifiedOrders_ok stores.identified).2 orderRow] at read
    exact (Except.ok.inj read).symm
  have identities : later.map Prod.fst = entries.map Prod.fst := by
    have keyed := congrArg (List.map fun row : OrderRow => (ofLex row).1) rows
    rwa [List.map_map, List.map_map] at keyed
  rw [stores.orders, OrderedDict.perm_ofList_iff (fun entry : String × OrderState =>
    orderRow entry.1 entry.2) (fun row => (ofLex row).1) (fun _ => rfl) entries later identities,
    identities]
  exact and_iff_left rows

/-- On the state of the response before, the comparison agrees exactly when the
prices stand still and no row is listed twice. -/
theorem agrees_repeat_iff (stores : Stores state prev entries) (repriced : next.Repriced prev)
    (identified : identifiedOrders next.orders = .ok later) :
    Agrees state next later ↔ next.Unmoved prev := by
  have balances := balances_repeat_iff stores repriced
  have positions := positions_repeat_iff stores repriced
  have orders := orders_repeat_iff stores repriced identified
  constructor
  · intro agrees
    obtain ⟨keys, prices⟩ := positions.mp agrees.positions
    refine ⟨prices, balances.mp agrees.balances, keys, fun entries' identified' => ?_⟩
    rw [identified] at identified'
    cases identified'
    exact orders.mp agrees.orders
  · intro unmoved
    exact ⟨balances.mpr unmoved.assets, positions.mpr ⟨unmoved.keys, unmoved.prices⟩,
      orders.mpr (unmoved.identities later identified)⟩

end Repeats

section Runs

abbrev ReconcileCall := ReconcileReads × ReconcileClock

/-- The state a call leaves, returning or raising. -/
def reconcileStep (state : AccountState) (call : ReconcileCall) : AccountState :=
  (reconcile state call.1 call.2).1

def Returns (state : AccountState) (call : ReconcileCall) : Prop :=
  (reconcile state call.1 call.2).2 = .ok ()

instance (state : AccountState) (call : ReconcileCall) : Decidable (Returns state call) :=
  inferInstanceAs (Decidable ((reconcile state call.1 call.2).2 = .ok ()))

/-- The call leaves a mismatch count of zero and the kill switch as it was. -/
def Quiet (latched : Bool) (state : AccountState) (call : ReconcileCall) : Prop :=
  (reconcileStep state call).stateMismatchCount = 0 ∧
    (reconcileStep state call).killSwitchActive = latched

variable {state : AccountState} {call : ReconcileCall} {first prev next : ParsedSnapshot}
  {entries : List (String × OrderState)}

theorem map_eq_nil_of_factor {α β : Type} {g : α → β} {l next : List α} (same : next.map g = l.map g)
    (nothing : l = []) : next = [] := by
  rwa [nothing, List.map_nil, List.map_eq_nil_iff] at same

/-- A state that stores nothing came from an empty response. -/
theorem unmoved_of_fresh (fresh : hasExistingState state = false) (stores : Stores state prev entries)
    (repriced : next.Repriced prev) : next.Unmoved prev := by
  simp only [hasExistingState, Bool.or_eq_false_iff, Bool.not_eq_false', OrderedDict.isEmpty_iff,
    stores.balances, stores.positions, stores.orders, AccountState.balanceMap,
    AccountState.positionMap, OrderedDict.ofList_eq_empty_iff, List.map_eq_nil_iff] at fresh
  obtain ⟨⟨noBalances, noPositions⟩, noOrders⟩ := fresh
  have orders := (identifiedOrders_ok stores.identified).1
  rw [noOrders, List.map_nil] at orders
  have balances := map_eq_nil_of_factor repriced.balances noBalances
  have positions := map_eq_nil_of_factor repriced.positions noPositions
  have nextOrders := map_eq_nil_of_factor repriced.orders orders.symm
  refine ⟨by rw [positions, noPositions], by simp [balances], by simp [positions], ?_⟩
  intro later identified
  rw [nextOrders] at identified
  cases identified
  simp

/-- The count that is stored is zero exactly without a mismatch. -/
theorem countedFor_eq_zero_iff (state : AccountState) (mismatch : Bool) :
    (countedFor state mismatch).stateMismatchCount = 0 ↔ mismatch = false := by
  cases mismatch with
  | false => exact ⟨fun _ => rfl, fun _ => rfl⟩
  | true =>
      simp only [countedFor, if_true, recordStateMismatch_mismatchCount]
      simp

/-- One further call: it stores its response, and is quiet exactly when the
prices stand still. -/
theorem quiet_iff (stores : Stores state prev entries)
    (parsed : readSnapshot call.1 call.2 = .ok next) (repriced : next.Repriced prev)
    (returned : Returns state call) :
    (∃ later, Stores (reconcileStep state call) next later) ∧
      (Quiet state.killSwitchActive state call ↔ next.Unmoved prev) := by
  obtain ⟨_, later, mismatch, parsed', identified, agrees, after⟩ :=
    reconcile_returned (Prod.ext rfl returned)
  rw [parsed] at parsed'
  cases parsed'
  have unmoved : mismatch = false ↔ next.Unmoved prev := by
    rw [agrees, agrees_repeat_iff stores repriced identified]
    exact or_iff_right_of_imp fun fresh => unmoved_of_fresh fresh stores repriced
  have stepped : reconcileStep state call =
      committed (countedFor state mismatch) next later call.2.markedAt := after
  refine ⟨⟨later, ?_⟩, ?_⟩
  · rw [stepped]
    exact ⟨rfl, rfl, identified, rfl⟩
  · rw [Quiet, stepped, ← unmoved]
    constructor
    · rintro ⟨counted, -⟩
      exact (countedFor_eq_zero_iff state mismatch).mp counted
    · rintro rfl
      exact ⟨rfl, rfl⟩

/-- Every further call is quiet exactly when every response repeats the first. -/
theorem run_quiet_iff (calls : List ReconcileCall) {state : AccountState}
    {entries : List (String × OrderState)} {prev : ParsedSnapshot} (stores : Stores state prev entries)
    (since : prev.Repriced first)
    (prices : prev.positions.map PositionState.prices = first.positions.map PositionState.prices)
    (returns : Along reconcileStep Returns state calls)
    (repriced : ∀ call ∈ calls, ∀ next, readSnapshot call.1 call.2 = .ok next → next.Repriced first) :
    Along reconcileStep (Quiet state.killSwitchActive) state calls ↔
      ∀ call ∈ calls, ∀ next, readSnapshot call.1 call.2 = .ok next → next.Unmoved first := by
  induction calls generalizing state entries prev with
  | nil => simp [Along]
  | cons call rest ih =>
      obtain ⟨returned, returns⟩ := returns
      obtain ⟨next, -, parsed, -⟩ := returned_identified (Prod.ext rfl returned)
      have here : next.Repriced first := repriced call List.mem_cons_self next parsed
      obtain ⟨⟨later, stored⟩, quiet⟩ := quiet_iff stores parsed (here.trans since.symm) returned
      have unmoved : next.Unmoved prev ↔ next.Unmoved first :=
        ⟨fun still => still.of_prices prices, fun still => still.of_prices prices.symm⟩
      have rest_iff (still : next.Unmoved first) :=
        ih stored here still.prices returns
          fun call member => repriced call (List.mem_cons_of_mem _ member)
      constructor
      · rintro ⟨now, later_quiet⟩
        have still := unmoved.mp (quiet.mp now)
        rw [← now.2] at later_quiet
        intro other member snapshot read
        rcases List.mem_cons.mp member with same | member
        · subst same
          rw [parsed] at read
          cases read
          exact still
        · exact (rest_iff still).mp later_quiet other member snapshot read
      · intro all
        have still := all call List.mem_cons_self next parsed
        have now := quiet.mpr (unmoved.mpr still)
        refine ⟨now, ?_⟩
        rw [← now.2]
        exact (rest_iff still).mpr fun other member => all other (List.mem_cons_of_mem _ member)

/-- After a reconcile that returned, further reconciles whose responses differ in
prices only count nothing and trip nothing exactly when the prices do not move
and no response lists a row twice. -/
theorem moving_prices_iff (before : AccountState) (producing : ReconcileCall)
    (produced : Returns before producing) (first : ParsedSnapshot)
    (parsed : readSnapshot producing.1 producing.2 = .ok first) (calls : List ReconcileCall)
    (returns : Along reconcileStep Returns (reconcileStep before producing) calls)
    (repriced : ∀ call ∈ calls, ∀ next, readSnapshot call.1 call.2 = .ok next → next.Repriced first) :
    Along reconcileStep (Quiet (reconcileStep before producing).killSwitchActive)
        (reconcileStep before producing) calls ↔
      ∀ call ∈ calls, ∀ next, readSnapshot call.1 call.2 = .ok next → next.Unmoved first := by
  obtain ⟨_, entries, mismatch, parsed', identified, -, after⟩ :=
    reconcile_returned (Prod.ext rfl produced)
  rw [parsed] at parsed'
  cases parsed'
  have stepped : reconcileStep before producing =
      committed (countedFor before mismatch) first entries producing.2.markedAt := after
  have stores : Stores (reconcileStep before producing) first entries := by
    rw [stepped]
    exact ⟨rfl, rfl, identified, rfl⟩
  exact run_quiet_iff calls stores ⟨rfl, rfl, rfl⟩ rfl returns repriced

end Runs

section Samples

/-- A funded account that holds one long, at a mark price. -/
def longReads (mark : ℤ) : ReconcileReads where
  accountInfo := .ok (.dict [
    ("assets", .list [.dict [("asset", .str "USDT"), ("walletBalance", .int 1000)]]),
    ("positions", .list [.dict [("symbol", .str "BTCUSDT"), ("positionAmt", .int 1),
      ("entryPrice", .int 50000)]])])
  positionRisk := .ok (.dict [("data", .list [.dict [("symbol", .str "BTCUSDT"),
    ("markPrice", .int mark), ("notional", .int mark)]])])
  openOrders := .ok (.dict [("data", .list [])])

def longMarked (mark : ℤ) : ReconcileCall := (longReads mark, noon)

def longPosition (mark : ℤ) : PositionState where
  symbol := "BTCUSDT"
  direction := .long
  quantity := (1 : ℤ)
  entryPrice := (50000 : ℤ)
  markPrice := mark
  notional := mark
  updatedAt := 0

def longSnapshot (mark : ℤ) : ParsedSnapshot where
  balances := [{ asset := "USDT", walletBalance := (1000 : ℤ), updatedAt := 0 }]
  positions := [longPosition mark]
  orders := []

theorem longMarked_parsed (mark : ℤ) :
    readSnapshot (longMarked mark).1 (longMarked mark).2 = .ok (longSnapshot mark) := rfl

theorem longMarked_repriced {marks : List ℤ} (first : ℤ) (call : ReconcileCall)
    (listed : call ∈ marks.map longMarked) (next : ParsedSnapshot)
    (parsed : readSnapshot call.1 call.2 = .ok next) : next.Repriced (longSnapshot first) := by
  obtain ⟨mark, -, rfl⟩ := List.mem_map.mp listed
  rw [longMarked_parsed] at parsed
  cases parsed
  exact ⟨rfl, rfl, rfl⟩

theorem moving_prices_long :
    Along reconcileStep (Quiet (reconcileStep {} (longMarked 50000)).killSwitchActive)
        (reconcileStep {} (longMarked 50000)) ([50000, 50000].map longMarked) ↔
      ∀ call ∈ [50000, 50000].map longMarked, ∀ next, readSnapshot call.1 call.2 = .ok next →
        next.Unmoved (longSnapshot 50000) :=
  moving_prices_iff {} (longMarked 50000) (by decide +kernel) (longSnapshot 50000)
    (longMarked_parsed 50000) ([50000, 50000].map longMarked)
    ⟨by decide +kernel, by decide +kernel, trivial⟩ (longMarked_repriced 50000)

/-- Two ticks of the mark price halt an account on which nothing happened. -/
theorem two_ticks_halt :
    let start := reconcileStep {} (longMarked 50000)
    let ticks := [50500, 51000].map longMarked
    Returns {} (longMarked 50000) ∧ start.stateMismatchCount = 0 ∧ start.killSwitchActive = false ∧
      Along reconcileStep Returns start ticks ∧
      (∀ call ∈ ticks, ∀ next, readSnapshot call.1 call.2 = .ok next →
        next.Repriced (longSnapshot 50000)) ∧
      (run reconcileStep start ticks).stateMismatchCount = 2 ∧
      (run reconcileStep start ticks).killSwitchActive = true :=
  ⟨by decide +kernel, by decide +kernel, by decide +kernel,
    ⟨by decide +kernel, by decide +kernel, trivial⟩, longMarked_repriced 50000,
    by decide +kernel, by decide +kernel⟩

end Samples

end AccountReconciler

end CatsPy
