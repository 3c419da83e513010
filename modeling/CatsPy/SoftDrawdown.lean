import CatsPy.CycleFrames
import CatsPy.EntryFees
import Mathlib.Data.List.MinMax

/-!
# The soft drawdown gate

The gate of the decide loop asks its question of the open symbols and of the
drawdown as they were when the loop started, while the entries of the loop pay
fees out of the equity. Every entry finds the limit kept when the gate is shut from
the start, or when no choice of symbols that may enter before another one pays so
much that the equity comes down to the limit.
-/
namespace CatsPy
open PythonValues StateRuns

/-- The limit `run_cycle()` tests: that of a default policy, whatever the kernel's. -/
def softDrawdownPct : ℚ := ({} : RiskPolicy).dailyDrawdownSoftPct

/-- What the gate asks: a position is open and the drawdown has reached the limit. -/
def SoftGateShut (openSymbols : List String) (drawdownPct : ℚ) : Prop :=
  openSymbols ≠ [] ∧ drawdownPct ≤ softDrawdownPct

instance (openSymbols : List String) (drawdownPct : ℚ) : Decidable (SoftGateShut openSymbols drawdownPct) :=
  inferInstanceAs (Decidable (_ ∧ _))

namespace PaperFill

/-- The fill opens a position from flat. -/
def Opens (fill : PaperFill) : Prop :=
  fill.before.heldQuantity fill.symbol = 0 ∧ fill.result.resultingQuantity ≠ 0

instance (fill : PaperFill) : Decidable fill.Opens := inferInstanceAs (Decidable (_ ∧ _))

/-- Just before the fill the position of another symbol is open and the drawdown
is at or below the limit. -/
def PastSoftLimit (fill : PaperFill) : Prop :=
  (∃ position ∈ fill.before.state.positions.values, position.isOpen = true ∧
    position.symbol ≠ fill.symbol) ∧ fill.before.drawdownPct ≤ softDrawdownPct

instance (fill : PaperFill) : Decidable fill.PastSoftLimit := inferInstanceAs (Decidable (_ ∧ _))

end PaperFill

namespace DecisionEngine

/-- The candidates of a feature that contend on the account. -/
def contending (engine : DecisionEngine) (feature : FeatureVector) (account : AccountSnapshot)
    (now : Datetime) : List SignalCandidate :=
  if detect (enrich feature now) = .defense then []
  else (engine.candidates (enrich feature now) (detect (enrich feature now))).filter
    fun signal => Contends engine.riskKernel account signal

/-- What is chosen on a strained account contends on the safer one. -/
theorem contender_contending {engine : DecisionEngine} {feature : FeatureVector}
    {safe risky : AccountSnapshot} (strained : safe.Strained risky) (nonneg : risky.NonNegative)
    {now : Datetime} {signal : SignalCandidate}
    (found : engine.contender feature risky now = some signal) :
    signal ∈ engine.contending feature safe now := by
  simp only [contender] at found
  simp only [contending]
  split at found
  · cases found
  · next calm =>
    rw [if_neg calm]
    have contends := List.find?_some found
    obtain ⟨scored, clears⟩ := of_decide_eq_true contends
    obtain ⟨risk, evaluated, approved⟩ := clears.approved
    obtain ⟨wider, evaluated_safe, approved_safe, -⟩ :=
      RiskKernel.strained_gets_no_more strained _ signal nonneg risk evaluated approved
    refine List.mem_filter.mpr ⟨(List.mem_insertionSort _).mp (List.mem_of_find?_eq_some found), ?_⟩
    exact decide_eq_true ⟨scored, RiskKernel.clears_of_approved evaluated_safe approved_safe⟩

end DecisionEngine

namespace DecisionRuntimeService
open PaperExecutionService

section Entrants

variable (service : DecisionRuntimeService) (input : CycleInput) (s : CycleState)
  (start : PaperExecutionService)

/-- What entering with a symbol may cost, on the account the loop starts from: one fee
for each candidate the gates and the kernel let through there. -/
def entryFees (item : String × ℕ) : List ℚ :=
  match s.features.get? item.1 with
  | none => []
  | some feature =>
      let snapshot := start.state.toSnapshot input.startedAt start.drawdownPct
      let gated := service.gate input (some start) (openSymbols (some start)) start.drawdownPct item.1 feature
      if gated.isNone then
        (service.decisionEngine.contending feature snapshot (input.decideNow item.2)).map fun signal =>
          start.entryFee signal.side feature.referencePrice
            (service.decisionEngine.riskKernel.granted snapshot signal)
      else []

def largestFee (item : String × ℕ) : ℚ := (service.entryFees input s start item).foldr max 0

/-- The symbols that may enter. -/
def entrants : List (String × ℕ) :=
  service.configuredSymbols.zipIdx.filter fun item => service.entryFees input s start item ≠ []

/-- However the entrants before the last are chosen, as many as there is room for, what
they cost leaves the equity above the limit. -/
def FeesKeepLimit : Prop :=
  ∀ earlier ∈ (service.entrants input s start).dropLast.sublists, earlier ≠ [] →
    start.state.openPositionCount + earlier.length <
        service.decisionEngine.riskKernel.policy.maxOpenPositions →
      softDrawdownPct < start.drawdownAt
        (start.state.totalEquity - (earlier.map (service.largestFee input s start)).sum)

instance : Decidable (service.FeesKeepLimit input s start) :=
  inferInstanceAs (Decidable (∀ _ ∈ _, _ → _ → _))

/-- The gate is shut from the start, or fees are no rebates, the wallet agrees with
the totals and what the entrants cost keeps the limit. -/
def GateSuffices : Prop :=
  SoftGateShut (openSymbols (some start)) start.drawdownPct ∨
    0 ≤ start.takerFeeBps ∧ start.WalletSynced ∧ service.FeesKeepLimit input s start

instance : Decidable (service.GateSuffices input s start) := inferInstanceAs (Decidable (_ ∨ _))

/-- The state the decide loop starts from, with its paper account; nothing when the
cycle raises before. -/
def loopStart (state : RuntimeState) (input : CycleInput) : Option (CycleState × PaperExecutionService) :=
  let (collected, features) := service.collectFeatures input (service.recordGlobalData input state)
  match service.settleAccount input features collected with
  | .error _ => none
  | .ok s => (service.simulated s.runtime).map fun start => (s, start)

/-- The condition on a cycle, given the state before it. -/
def StartsWithinFees (state : RuntimeState) (input : CycleInput) : Prop :=
  ∀ start ∈ service.loopStart state input, service.GateSuffices input start.1 start.2

instance (state : RuntimeState) (input : CycleInput) : Decidable (service.StartsWithinFees state input) :=
  inferInstanceAs (Decidable (∀ _ ∈ _, _))

end Entrants

section Gate

variable {service : DecisionRuntimeService} {input : CycleInput} {svc : PaperExecutionService}

theorem gate_soft_open {openAtStart : List String} {paperDd : ℚ} {symbol : String} {feature : FeatureVector}
    (passed : service.gate input (some svc) openAtStart paperDd symbol feature = none) :
    ¬ SoftGateShut openAtStart paperDd := by
  simp only [gate, ite_eq_iff, reduceCtorEq, and_false, false_or] at passed
  obtain ⟨-, -, -, soft, -⟩ := passed
  rintro ⟨listed, reached⟩
  exact soft ⟨rfl, listed, reached⟩

theorem openSymbols_ne_nil_iff : openSymbols (some svc) ≠ [] ↔
    ∃ position ∈ svc.state.positions.values, position.isOpen = true := by
  constructor
  · intro listed
    obtain ⟨symbol, member⟩ := List.exists_mem_of_ne_nil _ listed
    simp only [openSymbols, distinctSymbols, OrderedDict.mem_keys_ofList, List.map_map] at member
    obtain ⟨position, stored, -⟩ := List.mem_map.mp member
    exact ⟨position, List.mem_filter.mp stored⟩
  · rintro ⟨position, stored, isOpen⟩
    have member : position.symbol ∈ openSymbols (some svc) := by
      simp only [openSymbols, distinctSymbols, OrderedDict.mem_keys_ofList, List.map_map]
      exact List.mem_map.mpr ⟨position, List.mem_filter.mpr ⟨stored, isOpen⟩, rfl⟩
    exact List.ne_nil_of_mem member

/-- From flat, another position is open exactly when some position is. -/
theorem pastSoftLimit_iff {fill : PaperFill} (sound : fill.before.PositionsSound)
    (flat : fill.before.heldQuantity fill.symbol = 0) :
    fill.PastSoftLimit ↔ SoftGateShut (openSymbols (some fill.before)) fill.before.drawdownPct := by
  rw [PaperFill.PastSoftLimit, SoftGateShut, openSymbols_ne_nil_iff]
  refine and_congr_left fun _ => ⟨?_, ?_⟩
  · rintro ⟨position, stored, isOpen, -⟩
    exact ⟨position, stored, isOpen⟩
  · rintro ⟨position, stored, isOpen⟩
    refine ⟨position, stored, isOpen, ?_⟩
    intro own
    obtain ⟨key, found⟩ := (OrderedDict.mem_values_iff _ _).mp stored
    obtain ⟨rfl, shape⟩ := sound key position found
    rw [PositionState.key, shape.side, own] at found
    exact (heldQuantity_ne_zero_iff fill.before fill.symbol).mpr ⟨position, found, isOpen⟩ flat

end Gate

section Loop

variable {service : DecisionRuntimeService} {input : CycleInput}

theorem openSymbols_ne_nil_iff_count (svc : PaperExecutionService) :
    openSymbols (some svc) ≠ [] ↔ 0 < svc.state.openPositionCount := by
  rw [openSymbols_ne_nil_iff, AccountState.openPositionCount_eq, Int.natCast_pos, List.length_pos_iff_exists_mem]
  simp only [List.mem_filter]

/-- The gate asks about the account only when the symbol was last left. -/
theorem gate_congr {before after : PaperExecutionService} {symbol : String}
    (same : after.lastExitTime.get? symbol = before.lastExitTime.get? symbol) (openAtStart : List String)
    (paperDd : ℚ) (feature : FeatureVector) :
    service.gate input (some after) openAtStart paperDd symbol feature =
      service.gate input (some before) openAtStart paperDd symbol feature := by
  simp only [gate, isInCooldown, Option.any_some, same, Option.isSome_some]

/-- A decision that executes passed the gate, with the side and the approval of the
engine's contender. -/
theorem decideSymbol_contends {paper : Option PaperExecutionService} {openAtStart : List String} {paperDd : ℚ}
    {snapshot : AccountSnapshot} {symbol : String} {i : ℕ} {feature enriched : FeatureVector}
    {decision : TradeDecision}
    (decided : service.decideSymbol input paper openAtStart paperDd snapshot symbol i feature =
      .ok (decision, enriched)) (executes : decision.status = .execute) :
    service.gate input paper openAtStart paperDd symbol feature = none ∧
      enriched.referencePrice = feature.referencePrice ∧ ∃ signal risk,
        service.decisionEngine.contender feature snapshot (input.decideNow i) = some signal ∧
        service.decisionEngine.riskKernel.evaluate signal snapshot = .ok risk ∧ risk.status = .approved ∧
        decision.side = some signal.side ∧ decision.risk = some risk := by
  obtain ⟨passed, decided⟩ := decideSymbol_passed decided executes
  have enriched_eq := (DecisionEngine.decide_returned decided).1
  refine ⟨passed, by rw [enriched_eq]; rfl, ?_⟩
  obtain ⟨-, idle⟩ | ⟨signal, risk, first, evaluated, approved, rfl⟩ := DecisionEngine.decide_contender decided
  · exact absurd executes idle
  · exact ⟨signal, risk, first, evaluated, approved, rfl, rfl⟩

variable (service input) (s : CycleState) (start : PaperExecutionService)

/-- The decide loop so far: which entrants have entered, in order, and what that has
cost at most. What the items still to come are decided on is as it was. -/
structure Entered (items : List (String × ℕ)) (now : CycleState) (svc : PaperExecutionService)
    (earlier : List (String × ℕ)) : Prop where
  order : (earlier ++ items.filter fun item => service.entryFees input s start item ≠ []).Sublist
    (service.entrants input s start)
  burdened : start.Burdened svc
  squared : svc.Squared
  count : svc.state.openPositionCount = start.state.openPositionCount + earlier.length
  cost : ¬ svc.state.Halted →
    start.state.totalEquity - (earlier.map (service.largestFee input s start)).sum ≤ svc.state.totalEquity
  features : ∀ item ∈ items, now.features.get? item.1 = s.features.get? item.1
  exits : ∀ item ∈ items, svc.lastExitTime.get? item.1 = start.lastExitTime.get? item.1

/-- What is known of an entry just before it is made. -/
structure Entry (fill : PaperFill) (earlier : List (String × ℕ)) : Prop where
  gated : ¬ SoftGateShut (openSymbols (some start)) start.drawdownPct
  order : earlier.Sublist (service.entrants input s start).dropLast
  sound : fill.before.PositionsSound
  burdened : start.Burdened fill.before
  count : fill.before.state.openPositionCount = start.state.openPositionCount + earlier.length
  room : fill.before.state.openPositionCount < service.decisionEngine.riskKernel.policy.maxOpenPositions
  cost : start.state.totalEquity - (earlier.map (service.largestFee input s start)).sum ≤
    fill.before.state.totalEquity

variable {service input s start}

/-- An entry made while the fees keep the limit finds it kept. -/
theorem Entry.within {fill : PaperFill} {earlier : List (String × ℕ)}
    (entry : Entry service input s start fill earlier) (opens : fill.Opens)
    (keeps : service.FeesKeepLimit input s start) : ¬ fill.PastSoftLimit := by
  rw [pastSoftLimit_iff entry.sound opens.1]
  rintro ⟨listed, reached⟩
  have paid : start.drawdownAt _ ≤ start.drawdownAt _ := drawdownAt_mono entry.cost
  rw [← entry.burdened.drawdownPct_eq] at paid
  by_cases first : earlier = []
  · subst first
    rw [List.map_nil, List.sum_nil, sub_zero] at paid
    -- Nothing has entered yet, so the gate was asked about this very account.
    apply entry.gated
    refine ⟨(openSymbols_ne_nil_iff_count start).mpr ?_, paid.trans reached⟩
    have opened := (openSymbols_ne_nil_iff_count _).mp listed
    rwa [entry.count, List.length_nil, Nat.cast_zero, add_zero] at opened
  · have room := entry.room
    rw [entry.count] at room
    exact ((keeps earlier (List.mem_sublists.mpr entry.order) first room).trans_le paid).not_ge reached

/-- An entry beside another one finds the limit passed if the loop started there. -/
theorem Entry.past {fill : PaperFill} {earlier : List (String × ℕ)}
    (entry : Entry service input s start fill earlier) (opens : fill.Opens) (second : earlier ≠ [])
    (low : start.drawdownPct ≤ softDrawdownPct) : fill.PastSoftLimit := by
  rw [pastSoftLimit_iff entry.sound opens.1]
  refine ⟨(openSymbols_ne_nil_iff_count _).mpr ?_, entry.burdened.drawdown.trans low⟩
  have held : 0 ≤ start.state.openPositionCount := by
    rw [AccountState.openPositionCount_eq]
    exact Int.natCast_nonneg _
  have entered : 0 < earlier.length := List.length_pos_iff.mpr second
  rw [entry.count]
  omega

/-- One item later: nothing entered, or the item itself did. -/
theorem Entered.next {item : String × ℕ} {rest earlier more : List (String × ℕ)} {now later : CycleState}
    {svc after : PaperExecutionService} (entered : Entered service input s start (item :: rest) now svc earlier)
    (fits : (more ++ rest.filter fun item => service.entryFees input s start item ≠ []).Sublist
      ((item :: rest).filter fun item => service.entryFees input s start item ≠ []))
    (burdened : svc.Burdened after) (squared : after.Squared)
    (count : after.state.openPositionCount = svc.state.openPositionCount + more.length)
    (paid : ¬ after.state.Halted →
      svc.state.totalEquity - (more.map (service.largestFee input s start)).sum ≤ after.state.totalEquity)
    (features : ∀ item ∈ rest, later.features.get? item.1 = now.features.get? item.1)
    (exits : ∀ item ∈ rest, after.lastExitTime.get? item.1 = svc.lastExitTime.get? item.1) :
    Entered service input s start rest later after (earlier ++ more) where
  order := by
    rw [List.append_assoc]
    exact (fits.append_left earlier).trans entered.order
  burdened := entered.burdened.trans burdened
  squared := squared
  count := by
    rw [count, entered.count, List.length_append]
    push_cast
    ring
  cost running := by
    have before := entered.cost fun halted => running (burdened.halted halted)
    have here := paid running
    rw [List.map_append, List.sum_append]
    linarith
  features other member := (features other member).trans (entered.features other (List.mem_cons_of_mem item member))
  exits other member := (exits other member).trans (entered.exits other (List.mem_cons_of_mem item member))

/-- The loop is followed without an invariant of the account. -/
theorem anyAccount : CycleInvariant service input fun _ _ => True :=
  ⟨fun _ _ _ _ => trivial, fun _ _ _ => trivial, fun _ _ _ _ _ => trivial, fun _ _ _ _ _ _ => trivial,
    fun _ _ _ _ _ _ => trivial⟩

/-- One item later with nothing entered. -/
theorem Entered.idle {item : String × ℕ} {rest earlier : List (String × ℕ)} {now later : CycleState}
    {svc after : PaperExecutionService} (entered : Entered service input s start (item :: rest) now svc earlier)
    (burdened : svc.Burdened after) (squared : after.Squared)
    (count : after.state.openPositionCount = svc.state.openPositionCount)
    (paid : ¬ after.state.Halted → svc.state.totalEquity ≤ after.state.totalEquity)
    (features : ∀ item ∈ rest, later.features.get? item.1 = now.features.get? item.1)
    (exits : ∀ item ∈ rest, after.lastExitTime.get? item.1 = svc.lastExitTime.get? item.1) :
    Entered service input s start rest later after earlier := by
  have skipped : Entered service input s start rest later after (earlier ++ []) :=
    entered.next ((List.sublist_cons_self item rest).filter _) burdened squared
      (by simpa using count) (by simpa using paid) features exits
  rwa [List.append_nil] at skipped

/-- What enters was an entrant, and its fee is at most the largest it might have paid. -/
theorem entrant_fee (charged : 0 ≤ start.takerFeeBps) {svc : PaperExecutionService}
    (burdened : start.Burdened svc) {symbol : String} {i : ℕ} {feature : FeatureVector}
    (known : s.features.get? symbol = some feature)
    (passed : service.gate input (some start) (openSymbols (some start)) start.drawdownPct symbol feature = none)
    {signal : SignalCandidate} {risk : RiskDecision}
    (first : service.decisionEngine.contender feature (svc.state.toSnapshot input.startedAt svc.drawdownPct)
      (input.decideNow i) = some signal)
    (evaluated : service.decisionEngine.riskKernel.evaluate signal
      (svc.state.toSnapshot input.startedAt svc.drawdownPct) = .ok risk) (approved : risk.status = .approved) :
    service.entryFees input s start (symbol, i) ≠ [] ∧
      start.entryFee signal.side feature.referencePrice risk.approvedNotional ≤
        service.largestFee input s start (symbol, i) := by
  obtain ⟨funded, positive⟩ := RiskKernel.approved_positive evaluated approved
  have strained := burdened.strained funded input.startedAt
  have nonneg : (svc.state.toSnapshot input.startedAt svc.drawdownPct).NonNegative :=
    (AccountState.snapshot_exposures_agree funded input.startedAt svc.drawdownPct 0).nonneg
  obtain ⟨wider, evaluated_start, approved_start, more⟩ :=
    RiskKernel.strained_gets_no_more strained _ signal nonneg risk evaluated approved
  rw [RiskKernel.approvedNotional_eq evaluated_start approved_start] at more
  have listed : start.entryFee signal.side feature.referencePrice
      (service.decisionEngine.riskKernel.granted (start.state.toSnapshot input.startedAt start.drawdownPct) signal) ∈
        service.entryFees input s start (symbol, i) := by
    simp only [entryFees, known, passed, Option.isNone_none, if_true]
    exact List.mem_map_of_mem (DecisionEngine.contender_contending strained nonneg first)
  exact ⟨List.ne_nil_of_mem listed, List.le_max_of_le' 0 listed
    (entryFee_mono signal.side feature.referencePrice charged positive.le more)⟩

/-- A step that opens nothing enters with nothing, and one that opens enters with its item. -/
def EntersWith (service : DecisionRuntimeService) (input : CycleInput) (s : CycleState)
    (start : PaperExecutionService) (fills : List PaperFill) (item : String × ℕ)
    (more earlier : List (String × ℕ)) : Prop :=
  (more = [] ∧ fills.filter (fun fill => fill.Opens) = []) ∨
    more = [item] ∧ ∃ fill, fills.filter (fun fill => fill.Opens) = [fill] ∧
      Entry service input s start fill earlier

theorem sublist_dropLast {α : Type*} {shorter longer : List α} (within : shorter.Sublist longer) :
    shorter.dropLast.Sublist longer.dropLast := by
  have mirrored := within.reverse.tail
  rwa [List.tail_reverse, List.tail_reverse, List.reverse_sublist] at mirrored

/-- Who entered before the item enters early enough for the item to be an entrant too. -/
theorem Entered.order_dropLast {item : String × ℕ} {rest earlier : List (String × ℕ)} {now : CycleState}
    {svc : PaperExecutionService} (entered : Entered service input s start (item :: rest) now svc earlier)
    (entrant : service.entryFees input s start item ≠ []) :
    earlier.Sublist (service.entrants input s start).dropLast := by
  have ordered := sublist_dropLast entered.order
  rw [List.filter_cons_of_pos (by simpa using entrant), List.dropLast_append_cons] at ordered
  exact (List.sublist_append_left earlier _).trans ordered

/-- What the loop knows of the account is known of it just before an entry. -/
theorem Entered.entry {item : String × ℕ} {rest earlier : List (String × ℕ)} {now : CycleState}
    {svc : PaperExecutionService} {journal : JsonlStorage} {fill : PaperFill} {signal : SignalCandidate}
    (entered : Entered service input s start (item :: rest) now svc earlier)
    (entrant : service.entryFees input s start item ≠ []) (before : fill.before = { svc with journal })
    (gated : ¬ SoftGateShut (openSymbols (some start)) start.drawdownPct)
    (cleared : service.decisionEngine.riskKernel.Clears signal
      (svc.state.toSnapshot input.startedAt svc.drawdownPct)) :
    Entry service input s start fill earlier := by
  refine ⟨gated, entered.order_dropLast entrant, before ▸ (entered.squared.journalled journal).sound,
    before ▸ entered.burdened.trans (.journalled svc journal), ?_, ?_, ?_⟩
  · rw [before]
    exact entered.count
  · rw [before]
    exact cleared.count
  · rw [before]
    exact entered.cost fun halted => Bool.false_ne_true (cleared.running.symm.trans halted)

/-- What a fill of the loop makes of the account, and of the entrants. -/
theorem fill_entered (charged : 0 ≤ start.takerFeeBps)
    (fresh : start.state.lastUserStreamEventAt = some input.startedAt) {now later : CycleState}
    {symbol : String} {i : ℕ} {rest earlier : List (String × ℕ)} {svc : PaperExecutionService}
    {journal : JsonlStorage} {feature enriched : FeatureVector} {fill : PaperFill}
    (entered : Entered service input s start ((symbol, i) :: rest) now svc earlier)
    (known : now.features.get? symbol = some feature)
    (decided : service.decideSymbol input (some svc) (openSymbols (some start)) start.drawdownPct
      (svc.state.toSnapshot input.startedAt svc.drawdownPct) symbol i feature = .ok (fill.decision, enriched))
    (own : fill.decision.symbol = symbol) (before : fill.before = { svc with journal })
    (filled : fill.before.applyDecision fill.decision enriched input.cycleId input.startedAt =
      .ok (fill.after, some fill.result))
    (flat : svc.heldQuantity symbol = 0) (elsewhere : ∀ item ∈ rest, item.1 ≠ symbol)
    (unread : ∀ item ∈ rest, later.features.get? item.1 = now.features.get? item.1) :
    ∃ more, Entered service input s start rest later (fill.after.accountState input.startedAt) (earlier ++ more) ∧
      EntersWith service input s start [fill] (symbol, i) more earlier := by
  obtain ⟨passed, priced, signal, risk, first, evaluated, approved, side_eq, risk_eq⟩ :=
    decideSymbol_contends decided (applyDecision_executed filled)
  have reached := entered.burdened.trans (.journalled svc journal)
  have enters : EntersAt { svc with journal } (fill.after.accountState input.startedAt) fill.decision.symbol
      fill.result (start.entryFee signal.side feature.referencePrice risk.approvedNotional) := by
    rw [before] at filled
    rw [← reached.entryFee_eq, ← priced]
    exact applyDecision_entered (entered.squared.journalled journal) (reached.fee ▸ charged)
      (reached.stream.trans fresh) (own ▸ flat) side_eq risk_eq filled
  rw [gate_congr (entered.exits (symbol, i) List.mem_cons_self)] at passed
  obtain ⟨entrant, fee_le⟩ := entrant_fee charged entered.burdened
    ((entered.features (symbol, i) List.mem_cons_self).symm.trans known) passed first evaluated approved
  have burdened := (Burdened.journalled svc journal).trans enters.burdened
  have exits : ∀ item ∈ rest, (fill.after.accountState input.startedAt).lastExitTime.get? item.1 =
      svc.lastExitTime.get? item.1 := fun item member => enters.exits item.1 (own ▸ elsewhere item member)
  by_cases opened : fill.result.resultingQuantity = 0
  · refine ⟨[], ?_, .inl ⟨rfl, by simp [PaperFill.Opens, opened]⟩⟩
    rw [List.append_nil]
    refine entered.idle burdened enters.squared ?_ ?_ unread exits
    · rw [enters.count, if_pos opened, add_zero]
    · intro running
      rw [enters.cost running, enters.unopened opened, sub_zero]
  · have entry : Entry service input s start fill earlier :=
      entered.entry entrant before (gate_soft_open passed) (RiskKernel.clears_of_approved evaluated approved)
    refine ⟨[(symbol, i)], entered.next ?_ burdened enters.squared ?_ ?_ unread exits,
      .inr ⟨rfl, fill, ?_, entry⟩⟩
    · rw [List.filter_cons_of_pos (by simpa using entrant), List.singleton_append]
    · rw [enters.count, if_neg opened]
      rfl
    · intro running
      rw [enters.cost running, List.map_singleton, List.sum_singleton]
      exact sub_le_sub_left fee_le _
    · have from_flat : fill.Opens := by
        refine ⟨?_, opened⟩
        rw [PaperFill.symbol, before, own]
        exact flat
      simp [from_flat]

/-- A step of the loop enters with its item or with nothing. -/
theorem decideStep_entered (paper : RunsPaper service) (charged : 0 ≤ start.takerFeeBps)
    (fresh : start.state.lastUserStreamEventAt = some input.startedAt) {now : CycleState} {item : String × ℕ}
    {rest earlier : List (String × ℕ)} {history : List PaperFill} {svc : PaperExecutionService}
    (pending : DecidesPending input (fun _ _ => True) (openSymbols (some start)) (item :: rest) now history svc)
    (entered : Entered service input s start (item :: rest) now svc earlier) :
    ∃ after more,
      (final (service.decideStep input (openSymbols (some start)) start.drawdownPct now item)).runtime.paper =
        some after ∧
      Entered service input s start rest
        (final (service.decideStep input (openSymbols (some start)) start.drawdownPct now item)) after
        (earlier ++ more) ∧
      EntersWith service input s start
        (service.decideFills input (openSymbols (some start)) start.drawdownPct now item) item more earlier := by
  obtain ⟨symbol, i⟩ := item
  have distinct := (List.nodup_cons.mp pending.distinct).1
  have elsewhere : ∀ item ∈ rest, item.1 ≠ symbol := by
    rintro item member rfl
    exact distinct (List.mem_map.mpr ⟨item, member, rfl⟩)
  rcases decideStep_cases service input (openSymbols (some start)) start.drawdownPct now symbol i with
    ⟨left, nothing⟩ | ⟨feature, decision, enriched, known, decided, outcome⟩
  · refine ⟨svc, [], ?_, ?_, .inl ⟨rfl, ?_⟩⟩
    · rw [left]
      exact pending.paper
    · rw [left, List.append_nil]
      exact entered.idle (.refl svc) entered.squared rfl (fun _ => le_rfl) (fun _ _ => rfl) fun _ _ => rfl
    · rw [nothing]
      rfl
  · have own : feature.symbol = symbol := pending.aligned symbol feature known
    have aligned := (decideSymbol_aligned decided).trans own
    obtain ⟨journal, logged⟩ := pending.journalled anyAccount symbol i decision aligned
    have unread : ∀ item ∈ rest, (service.journalled input now symbol i decision enriched).features.get? item.1 =
        now.features.get? item.1 := fun item member =>
      OrderedDict.get?_set_of_ne _ _ (elsewhere item member)
    rcases outcome with ⟨left, nothing⟩ | ⟨account, filled, result, present, applied, left, booked⟩
    · refine ⟨{ svc with journal }, [], ?_, ?_, .inl ⟨rfl, ?_⟩⟩
      · rw [left]
        exact logged.paper
      · rw [left, List.append_nil]
        exact entered.idle (.journalled svc journal) (entered.squared.journalled journal) rfl (fun _ => le_rfl)
          unread fun _ _ => rfl
      · rw [nothing]
        rfl
    · rw [paper.simulated_eq, logged.paper] at present
      cases present
      rw [left, booked]
      have fresh_before := (entered.burdened.trans (.journalled svc journal)).stream.trans fresh
      rcases fillsOf_returned .decide applied with
        ⟨rfl, nothing⟩ | ⟨fill, one, -, -, before, decision_eq, rfl, filled⟩
      · rw [nothing]
        refine ⟨_, [], rfl, ?_, .inl ⟨rfl, rfl⟩⟩
        rw [List.append_nil]
        have squared := entered.squared.journalled journal
        exact entered.idle ((Burdened.journalled svc journal).trans (.stamped squared.marked fresh_before))
          (step_squared _ (.accountState input.startedAt) squared) rfl (fun _ => le_rfl) unread fun _ _ => rfl
      · rw [one]
        have executes := applyDecision_executed filled
        rw [paper.simulated_eq, pending.paper, pending.snapshot, ← decision_eq] at decided
        obtain ⟨passed, same_symbol, -⟩ := decideSymbol_executed paper.shipped decided executes
        have flat := pending.flat (symbol, i) List.mem_cons_self (gate_eq_none passed).2
        rw [positionFor_quantity] at flat
        have kept : ∀ item ∈ rest, (refreshed input
            (service.journalled input now symbol i decision enriched) fill.after).features.get? item.1 =
              now.features.get? item.1 := unread
        obtain ⟨more, entered_after, with_it⟩ := fill_entered charged fresh entered known decided
          (same_symbol.trans own) before (before ▸ filled) flat elsewhere kept
        exact ⟨_, more, rfl, entered_after, with_it⟩

/-- The loop with an entry for every fill that opened: the one at place `k` was made
after the first `k` entrants. -/
structure LoopKept (service : DecisionRuntimeService) (input : CycleInput) (s : CycleState)
    (start : PaperExecutionService) (items : List (String × ℕ)) (now : CycleState) (history : List PaperFill)
    (svc : PaperExecutionService) (earlier : List (String × ℕ)) : Prop where
  pending : DecidesPending input (fun _ _ => True) (openSymbols (some start)) items now history svc
  entered : Entered service input s start items now svc earlier
  counted : (history.filter fun fill => fill.Opens).length = earlier.length
  entries : ∀ k fill, (history.filter fun fill => fill.Opens)[k]? = some fill →
    Entry service input s start fill (earlier.take k)

theorem decideStep_kept (paper : RunsPaper service) (charged : 0 ≤ start.takerFeeBps)
    (fresh : start.state.lastUserStreamEventAt = some input.startedAt) (now : CycleState) (item : String × ℕ)
    (rest : List (String × ℕ)) (history : List PaperFill)
    (kept : ∃ svc earlier, LoopKept service input s start (item :: rest) now history svc earlier) :
    ∃ svc earlier, LoopKept service input s start rest
      (final (service.decideStep input (openSymbols (some start)) start.drawdownPct now item))
      (history ++ service.decideFills input (openSymbols (some start)) start.drawdownPct now item) svc earlier := by
  obtain ⟨svc, earlier, pending, entered, counted, entries⟩ := kept
  obtain ⟨after, more, present, entered_after, enters⟩ := decideStep_entered paper charged fresh pending entered
  obtain ⟨same, pending_after⟩ := decideStep_pending paper anyAccount (openSymbols (some start))
    start.drawdownPct now item rest history ⟨svc, pending⟩
  obtain rfl : same = after := Option.some.inj (pending_after.paper.symm.trans present)
  refine ⟨same, earlier ++ more, pending_after, entered_after, ?_, ?_⟩
  · rw [List.filter_append, List.length_append, List.length_append, counted]
    rcases enters with ⟨rfl, nothing⟩ | ⟨rfl, fill, one, -⟩
    · rw [nothing]
      rfl
    · rw [one]
      rfl
  · intro k fill found
    rw [List.filter_append] at found
    rcases enters with ⟨rfl, nothing⟩ | ⟨rfl, last, one, entry⟩
    · rw [nothing, List.append_nil] at found
      rw [List.append_nil]
      exact entries k fill found
    · rw [one, List.getElem?_append, counted] at found
      split at found
      · next before =>
        rw [List.take_append_of_le_length before.le]
        exact entries k fill found
      · next reached =>
        obtain ⟨place, rfl⟩ := List.getElem?_eq_some_iff.mp found
        rw [List.length_singleton] at place
        obtain rfl : k = earlier.length := by omega
        rw [List.take_left]
        simpa using entry

/-- Every opening fill of a decide phase is an entry, after as many as opened before it. -/
theorem decidePhase_entries (paper : RunsPaper service) (charged : 0 ≤ start.takerFeeBps)
    (present : s.runtime.paper = some start) (squared : start.Squared)
    (fresh : start.state.lastUserStreamEventAt = some input.startedAt)
    (snapshot : s.accountSnapshot = start.state.toSnapshot input.startedAt start.drawdownPct)
    (aligned : ∀ symbol feature, s.features.get? symbol = some feature → feature.symbol = symbol) :
    ∃ earlier : List (String × ℕ), ∀ k fill,
      ((service.decidePhaseFills input s).filter fun fill => fill.Opens)[k]? = some fill →
        Entry service input s start fill (earlier.take k) ∧ k < earlier.length := by
  have account : service.simulated s.runtime = some start := (paper.simulated_eq s.runtime).trans present
  simp only [decidePhaseFills, account]
  obtain ⟨left, svc, earlier, kept⟩ := foldlM_history _ _
    (fun items now history => ∃ svc earlier, LoopKept service input s start items now history svc earlier)
    (decideStep_kept paper charged fresh) s service.configuredSymbols.zipIdx []
    ⟨start, [], ⟨present, ⟨squared.sound, trivial⟩, snapshot, aligned, by
      rw [List.zipIdx_map_fst]
      exact paper.symbols_nodup, fun item _ closed => flat_of_not_open squared.sound closed input.startedAt⟩,
      ⟨List.Sublist.refl _, .refl start, squared, by simp, by simp, fun _ _ => rfl, fun _ _ => rfl⟩, rfl, by simp⟩
  refine ⟨earlier, fun k fill found => ⟨kept.entries k fill found, ?_⟩⟩
  obtain ⟨place, -⟩ := List.getElem?_eq_some_iff.mp found
  rw [← kept.counted]
  exact place

/-- A fill of the loop passed the gate as it was asked from the start. -/
theorem decideFills_gated {openAtStart : List String} {paperDd : ℚ} {now : CycleState} {item : String × ℕ} :
    ∀ fill ∈ service.decideFills input openAtStart paperDd now item, ¬ SoftGateShut openAtStart paperDd := by
  intro fill member
  rcases decideStep_cases service input openAtStart paperDd now item.1 item.2 with
    ⟨-, nothing⟩ | ⟨feature, decision, enriched, -, decided, ⟨-, nothing⟩ |
      ⟨account, filled, result, present, applied, -, booked⟩⟩
  · rw [nothing] at member
    cases member
  · rw [nothing] at member
    cases member
  · rw [booked] at member
    obtain ⟨svc, journal, simulates, rfl⟩ := simulated_record present
    rw [simulates] at decided
    rcases fillsOf_returned .decide applied with ⟨-, nothing⟩ | ⟨only, one, -, -, -, decision_eq, -, fills⟩
    · rw [nothing] at member
      cases member
    · have executes := applyDecision_executed fills
      rw [decision_eq] at executes
      exact gate_soft_open (decideSymbol_passed decided executes).1

theorem decidePhase_gated (present : service.simulated s.runtime = some start) :
    ∀ fill ∈ service.decidePhaseFills input s, ¬ SoftGateShut (openSymbols (some start)) start.drawdownPct := by
  simp only [decidePhaseFills, present]
  exact emitted_forall _ _ (fun _ => True) (fun _ => ¬ SoftGateShut (openSymbols (some start)) start.drawdownPct)
    (fun _ _ _ => trivial) (fun _ _ _ => decideFills_gated) s _ trivial

/-- An account with its positions, its balances and its mark in order. -/
structure Ledgered (svc : PaperExecutionService) : Prop where
  sound : svc.PositionsSound
  keys : svc.state.balances.keys = [usdt]
  marked : svc.Marked

theorem ledgered_closed : AccountClosed Ledgered where
  journal _ _ ledgered := ⟨ledgered.sound, ledgered.keys, ledgered.marked⟩
  step svc op ledgered := ⟨step_positionsSound svc op ledgered.sound, step_keys svc op ledgered.keys,
    step_marked svc op ledgered.marked⟩

theorem Ledgered.of_reachable {svc : PaperExecutionService} (reachable : svc.Reachable) : Ledgered svc := by
  obtain ⟨config, ops, rfl⟩ := reachable
  exact run_invariant PaperExecutionService.step Ledgered ledgered_closed.step (init config) ops
    ⟨init_positionsSound config, rfl, (init_equity config).le⟩

/-- What the decide loop of a paper cycle starts from. -/
structure LoopBegins (input : CycleInput) (s : CycleState) (start : PaperExecutionService) : Prop where
  present : s.runtime.paper = some start
  ledgered : Ledgered start
  fresh : start.state.lastUserStreamEventAt = some input.startedAt
  snapshot : s.accountSnapshot = start.state.toSnapshot input.startedAt start.drawdownPct
  aligned : ∀ symbol feature, s.features.get? symbol = some feature → feature.symbol = symbol

theorem LoopBegins.within (paper : RunsPaper service) (begins : LoopBegins input s start)
    (suffices_gate : service.GateSuffices input s start) :
    ∀ fill ∈ service.decidePhaseFills input s, fill.Opens → ¬ fill.PastSoftLimit := by
  intro fill member opens
  rcases suffices_gate with shut | ⟨charged, synced, keeps⟩
  · exact absurd shut (decidePhase_gated ((paper.simulated_eq _).trans begins.present) fill member)
  · obtain ⟨earlier, entries⟩ := decidePhase_entries paper charged begins.present
      ⟨begins.ledgered.sound, begins.ledgered.keys, synced, begins.ledgered.marked⟩ begins.fresh
      begins.snapshot begins.aligned
    have opening : fill ∈ (service.decidePhaseFills input s).filter fun fill => fill.Opens :=
      List.mem_filter.mpr ⟨member, decide_eq_true opens⟩
    obtain ⟨k, found⟩ := List.mem_iff_getElem?.mp opening
    exact (entries k fill found).1.within opens keeps

/-- From an account at the limit, no two positions open while the limit is kept. -/
theorem LoopBegins.once (paper : RunsPaper service) (begins : LoopBegins input s start)
    (charged : 0 ≤ start.takerFeeBps) (synced : start.WalletSynced) (low : start.drawdownPct ≤ softDrawdownPct)
    (within : ∀ fill ∈ service.decidePhaseFills input s, fill.Opens → ¬ fill.PastSoftLimit) :
    ((service.decidePhaseFills input s).filter fun fill => fill.Opens).length ≤ 1 := by
  obtain ⟨earlier, entries⟩ := decidePhase_entries paper charged begins.present
    ⟨begins.ledgered.sound, begins.ledgered.keys, synced, begins.ledgered.marked⟩ begins.fresh
    begins.snapshot begins.aligned
  by_contra several
  obtain ⟨fill, found⟩ : ∃ fill, ((service.decidePhaseFills input s).filter fun fill => fill.Opens)[1]? = some fill :=
    ⟨_, List.getElem?_eq_getElem (by omega)⟩
  obtain ⟨entry, counted⟩ := entries 1 fill found
  have listed := List.mem_filter.mp (List.mem_iff_getElem?.mpr ⟨1, found⟩)
  have opens := of_decide_eq_true listed.2
  have second : earlier.take 1 ≠ [] := by
    have held : (earlier.take 1).length = 1 := by
      rw [List.length_take]
      omega
    intro none_entered
    rw [none_entered] at held
    cases held
  exact within fill listed.1 opens (entry.past opens second low)

end Loop

section Cycles

variable {service : DecisionRuntimeService} {input : CycleInput}

theorem loopStart_begins (paper : RunsPaper service) {state : RuntimeState} (kept : AccountKept Ledgered state)
    {start : CycleState × PaperExecutionService} (starts : service.loopStart state input = some start) :
    LoopBegins input start.1 start.2 := by
  have collected := collectFeatures_keeps service input ledgered_closed kept
  have aligned : ∀ symbol feature,
      (service.collectFeatures input (service.recordGlobalData input state)).2.get? symbol = some feature →
        feature.symbol = symbol := by
    intro symbol feature found
    obtain ⟨i, built⟩ := collectFeatures_built found
    exact input.aligned i symbol feature built
  simp only [loopStart] at starts
  generalize service.collectFeatures input (service.recordGlobalData input state) = opened
    at collected aligned starts
  obtain ⟨opened, features⟩ := opened
  obtain ⟨svc, present, ledgered⟩ := collected
  have account : service.simulated opened = some svc := (paper.simulated_eq opened).trans present
  cases settled : service.settleAccount input features opened with
  | error failure => simp [settled] at starts
  | ok s =>
      obtain ⟨exited, returned, rfl⟩ := settleAccount_simulated account settled
      have exits := exitPhase_keeps service input ledgered_closed features ledgered
      rw [returned] at exits
      simp only [settled, paper.simulated_eq] at starts
      cases starts
      exact ⟨rfl, ledgered_closed.step exited (.accountState input.startedAt) exits, rfl, rfl, aligned⟩

/-- The decide-phase fills of a cycle are those of the loop it starts. -/
theorem mem_cycleFills_iff (paper : RunsPaper service) {state : RuntimeState} (kept : AccountKept Ledgered state)
    {fill : PaperFill} : fill ∈ service.cycleFills input state ∧ fill.phase = .decide ↔
      ∃ start, service.loopStart state input = some start ∧ fill ∈ service.decidePhaseFills input start.1 := by
  have collected := collectFeatures_keeps service input ledgered_closed kept
  simp only [cycleFills, loopStart]
  generalize service.collectFeatures input (service.recordGlobalData input state) = opened at collected ⊢
  obtain ⟨opened, features⟩ := opened
  obtain ⟨svc, present, -⟩ := collected
  have account : service.simulated opened = some svc := (paper.simulated_eq opened).trans present
  have exits : fill ∈ service.exitPhaseFills input features svc → fill.phase ≠ .decide := by
    intro member decides
    rw [exitPhaseFills_phase service input features svc fill member] at decides
    cases decides
  simp only [account]
  cases settled : service.settleAccount input features opened with
  | error failure => simpa using exits
  | ok s =>
      obtain ⟨exited, returned, rfl⟩ := settleAccount_simulated account settled
      simp only [paper.simulated_eq, List.mem_append]
      constructor
      · rintro ⟨exit | decide, decides⟩
        · exact absurd decides (exits exit)
        · exact ⟨_, rfl, decide⟩
      · rintro ⟨start, starts, member⟩
        cases starts
        exact ⟨.inr member, decidePhaseFills_phase service input _ fill member⟩

/-- The loop opens at most one position when it starts at or below the limit. -/
def EntersOnce (service : DecisionRuntimeService) (state : RuntimeState) (input : CycleInput) : Prop :=
  ∀ start ∈ service.loopStart state input, start.2.drawdownPct ≤ softDrawdownPct →
    0 ≤ start.2.takerFeeBps → start.2.WalletSynced →
      ((service.decidePhaseFills input start.1).filter fun fill => fill.Opens).length ≤ 1

/-- Along the runs in which every loop starts within its fees, no decide-phase fill opens
a position past the soft limit. And where none does, no loop that starts at or below the
limit opens two. -/
theorem soft_gate_holds (paper : RunsPaper service) {state : RuntimeState} {svc : PaperExecutionService}
    (present : state.paper = some svc) (reachable : svc.Reachable) (inputs : List CycleInput) :
    (Along service.cycleStep service.StartsWithinFees state inputs →
      ∀ fill ∈ service.runFills state inputs, fill.phase = .decide → fill.Opens → ¬ fill.PastSoftLimit) ∧
    ((∀ fill ∈ service.runFills state inputs, fill.phase = .decide → fill.Opens → ¬ fill.PastSoftLimit) →
      Along service.cycleStep service.EntersOnce state inputs) := by
  have ledgered : AccountKept Ledgered state := ⟨svc, present, .of_reachable reachable⟩
  have keeps : ∀ state input, AccountKept Ledgered state → AccountKept Ledgered (service.cycleStep state input) :=
    fun _ input kept => cycleStep_keeps service input ledgered_closed kept
  constructor
  · refine trace_forall service.cycleStep (fun state input => service.cycleFills input state)
      (AccountKept Ledgered) service.StartsWithinFees
      (fun fill => fill.phase = .decide → fill.Opens → ¬ fill.PastSoftLimit)
      (fun state input _ => keeps state input) ?_ state inputs ledgered
    intro state input within kept fill member decides
    obtain ⟨start, starts, decided⟩ := (mem_cycleFills_iff paper kept).mp ⟨member, decides⟩
    exact (loopStart_begins paper kept starts).within paper (within start starts) fill decided
  · refine along_of_trace service.cycleStep (fun state input => service.cycleFills input state)
      (AccountKept Ledgered) keeps (fun fill => fill.phase = .decide → fill.Opens → ¬ fill.PastSoftLimit)
      ?_ state inputs ledgered
    intro state input kept within start starts low charged synced
    apply (loopStart_begins paper kept starts).once paper charged synced low
    intro fill decided
    obtain ⟨member, decides⟩ := (mem_cycleFills_iff paper kept).mpr ⟨start, starts, decided⟩
    exact within fill member decides

end Cycles

section Samples

/-- Three core symbols and no exits. -/
def heldService : DecisionRuntimeService :=
  { paperService with
    decisionEngine :=
      { strategies := shippedStrategies
        riskKernel := { configuredKernel {} configuredTiers with
          symbolTiers := .ofList [("BTCUSDT", .core), ("ETHUSDT", .core), ("SOLUSDT", .core)] } }
    symbolConfig := { core := ["BTCUSDT", "ETHUSDT", "SOLUSDT"] }
    exitEvaluator := none }

theorem heldService_runs : RunsPaper heldService := ⟨rfl, rfl⟩

/-- Every symbol at one price, the listed ones trending up. -/
def pricedInput (price : ℚ) (trending : List String) : CycleInput :=
  { trendingInput with
    built := fun _ symbol => .ok { (if symbol ∈ trending then trendingFeature symbol
      else { symbol, ts := 0, referencePrice := price }) with symbol, referencePrice := price }
    aligned := by
      intro i symbol feature built
      cases built
      rfl }

/-- Two entries, a fall below the soft limit with a third symbol trending, and the recovery. -/
def drawnDownRun : List CycleInput :=
  [pricedInput 100 ["BTCUSDT", "ETHUSDT"], pricedInput 96 ["SOLUSDT"], pricedInput 100 ["SOLUSDT"]]

/-- Two symbols enter together within their fees, the third is kept out while the gate is
shut and enters once it is open. -/
theorem soft_gate_holds_recovered :
    (∀ fill ∈ heldService.runFills openedPaper drawnDownRun,
        fill.phase = .decide → fill.Opens → ¬ fill.PastSoftLimit) ∧
      (heldService.runFills openedPaper drawnDownRun).map (fun fill => fill.before.state.openPositionCount) =
        [0, 1, 2] ∧
      ∃ start ∈ heldService.loopStart (heldService.cycleStep openedPaper (pricedInput 100 ["BTCUSDT", "ETHUSDT"]))
          (pricedInput 96 ["SOLUSDT"]),
        SoftGateShut (openSymbols (some start.2)) start.2.drawdownPct := by
  have within : Along heldService.cycleStep heldService.StartsWithinFees openedPaper drawnDownRun :=
    ⟨by decide +kernel, by decide +kernel, by decide +kernel, trivial⟩
  exact ⟨(soft_gate_holds heldService_runs rfl (reachable_init {}) drawnDownRun).1 within, by decide +kernel,
    by decide +kernel⟩

def solTrade (side : Side) (notional price : ℚ) : PaperOp :=
  .applyDecision { marketOrder side notional with symbol := "SOLUSDT" } (quoted price) "sol" 0

/-- A long sold two percent lower: flat, and below the soft limit. -/
def losingTrade : List PaperOp := [solTrade .buy 10000 100, solTrade .sell 9800 98]

def drawnDown : RuntimeState := { paper := some ((init { slippageBps := 0 }).run losingTrade) }

def pairService : DecisionRuntimeService :=
  { paperService with symbolConfig := { core := ["BTCUSDT", "ETHUSDT"] } }

/-- No position is open when the values are captured, so the second entry of the
cycle passes the gate beside the first one. -/
theorem second_entry_past_limit :
    pairService.modeSummary.paperExecution = true ∧
      (∃ svc, drawnDown.paper = some svc ∧ svc.Reachable) ∧
      ¬ ∀ fill ∈ pairService.cycleFills trendingInput drawnDown,
        fill.phase = .decide → fill.Opens → ¬ fill.PastSoftLimit :=
  ⟨rfl, ⟨_, rfl, _, _, rfl⟩, by decide +kernel⟩

end Samples

end DecisionRuntimeService

end CatsPy
