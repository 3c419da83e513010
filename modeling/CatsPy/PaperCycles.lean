import CatsPy.CycleCommitment
import CatsPy.ExitClosure
import CatsPy.PaperFills

/-!
# Paper cycles

The fills of a paper cycle, phase by phase, and the rule for properties of
whole runs: what marking, stamping, every exit fill and every decide-phase fill
keep holds after any number of cycles. The two fill contexts say once what the
phases guarantee about a fill before it happens.
-/
namespace CatsPy
open PythonValues StateRuns

inductive CyclePhase where
  | exit | decide
  deriving DecidableEq

/-- One fill of a cycle: the account it was applied to and the account it left. -/
structure PaperFill where
  phase : CyclePhase
  decision : TradeDecision
  ts : Datetime
  before : PaperExecutionService
  after : PaperExecutionService
  result : PaperFillResult

def PaperFill.symbol (fill : PaperFill) : String := fill.decision.symbol

/-- A call of `apply_decision` fills at most once. -/
def fillsOf (phase : CyclePhase) (decision : TradeDecision) (ts : Datetime)
    (before : PaperExecutionService) :
    Except PyError (PaperExecutionService × Option PaperFillResult) → List PaperFill
  | .ok (after, some result) => [{ phase, decision, ts, before, after, result }]
  | _ => []

namespace DecisionRuntimeService

section Fills

variable (service : DecisionRuntimeService) (input : CycleInput)

def exitFills (features : OrderedDict String FeatureVector) (svc : PaperExecutionService)
    (item : TradeDecision × ℕ) : List PaperFill :=
  match features.get? item.1.symbol with
  | none => []
  | some feature => fillsOf .exit item.1 input.startedAt svc
      (svc.applyDecision item.1 feature input.cycleId input.startedAt)

def exitPhaseFills (features : OrderedDict String FeatureVector) (svc : PaperExecutionService) :
    List PaperFill :=
  let marked := svc.markToMarket features input.cycleId input.startedAt
  match service.exitEvaluator with
  | none => []
  | some evaluator => emitted (service.exitStep input features) (exitFills input features) marked
      (evaluator.evaluate marked.state features marked.positionMetadata input.startedAt).zipIdx

/-- The state of the decide loop when a decision has been journalled. -/
def journalled (s : CycleState) (symbol : String) (i : ℕ) (decision : TradeDecision)
    (feature : FeatureVector) : CycleState :=
  { s with
    runtime := s.runtime.record service.decisionStream
      (service.buildJournalEntry input (input.entryTs i) symbol feature decision s.accountSnapshot
        (service.buildOrderRequestPreview decision))
    features := s.features.set symbol feature
    decisions := s.decisions ++ [decision] }

def decideFills (openAtStart : List String) (paperDd : ℚ) (s : CycleState) (item : String × ℕ) :
    List PaperFill :=
  match s.features.get? item.1 with
  | none => []
  | some feature =>
      match service.decideSymbol input (service.simulated s.runtime) openAtStart paperDd
          s.accountSnapshot item.1 item.2 feature with
      | .error _ => []
      | .ok (decision, feature) =>
          match service.simulated (service.journalled input s item.1 item.2 decision feature).runtime with
          | none => []
          | some svc => fillsOf .decide decision input.startedAt svc
              (svc.applyDecision decision feature input.cycleId input.startedAt)

/-- A decision that returned is journalled, then settled. -/
theorem decideStep_decided {service : DecisionRuntimeService} {input : CycleInput}
    {openAtStart : List String} {paperDd : ℚ} {s : CycleState} {symbol : String} {i : ℕ}
    {feature enriched : FeatureVector} {decision : TradeDecision}
    (known : s.features.get? symbol = some feature)
    (decided : service.decideSymbol input (service.simulated s.runtime) openAtStart paperDd
      s.accountSnapshot symbol i feature = .ok (decision, enriched)) :
    service.decideStep input openAtStart paperDd s (symbol, i) =
      service.settleDecision input decision enriched
        (service.journalled input s symbol i decision enriched) := by
  simp only [decideStep, known, decided]
  rfl

/-- Settling a decision is about the account alone. -/
theorem settleDecision_kept {service : DecisionRuntimeService} {input : CycleInput} {decision : TradeDecision}
    {feature : FeatureVector} {decided next : CycleState}
    (settled : service.settleDecision input decision feature decided = .ok next) :
    next.features = decided.features ∧ next.decisions = decided.decisions := by
  unfold settleDecision at settled
  repeat' split at settled
  all_goals cases settled
  all_goals exact ⟨rfl, rfl⟩

/-- A step that returned skipped a symbol without a feature, or decided it. -/
theorem decideStep_returned {service : DecisionRuntimeService} {input : CycleInput}
    {openAtStart : List String} {paperDd : ℚ} {s next : CycleState} {symbol : String} {i : ℕ}
    (stepped : service.decideStep input openAtStart paperDd s (symbol, i) = .ok next) :
    (s.features.get? symbol = none ∧ next = s) ∨
    ∃ feature decision enriched, s.features.get? symbol = some feature ∧
      service.decideSymbol input (service.simulated s.runtime) openAtStart paperDd s.accountSnapshot symbol i
        feature = .ok (decision, enriched) ∧
      next.features = s.features.set symbol enriched ∧ next.decisions = s.decisions ++ [decision] := by
  cases known : s.features.get? symbol with
  | none =>
      simp only [decideStep, known] at stepped
      cases stepped
      exact .inl ⟨rfl, rfl⟩
  | some feature =>
      cases decided : service.decideSymbol input (service.simulated s.runtime) openAtStart paperDd
          s.accountSnapshot symbol i feature with
      | error error => simp [decideStep, known, decided] at stepped
      | ok outcome =>
          obtain ⟨decision, enriched⟩ := outcome
          rw [decideStep_decided known decided] at stepped
          exact .inr ⟨feature, decision, enriched, rfl, decided, settleDecision_kept stepped⟩

/-- The state of the decide loop when a decision has been applied to the account. -/
def refreshed (input : CycleInput) (s : CycleState) (filled : PaperExecutionService) : CycleState :=
  let stamped := filled.accountState input.startedAt
  { s with
    runtime := { s.runtime with paper := some stamped }
    accountState := stamped.state
    accountSnapshot := stamped.state.toSnapshot input.startedAt stamped.drawdownPct }

/-- What a step of the decide loop leaves and fills: nothing without a decision,
else a journalled decision, applied where a paper account takes it. -/
theorem decideStep_cases (service : DecisionRuntimeService) (input : CycleInput)
    (openAtStart : List String) (paperDd : ℚ) (s : CycleState) (symbol : String) (i : ℕ) :
    (final (service.decideStep input openAtStart paperDd s (symbol, i)) = s ∧
      service.decideFills input openAtStart paperDd s (symbol, i) = []) ∨
    ∃ feature decision enriched, s.features.get? symbol = some feature ∧
      service.decideSymbol input (service.simulated s.runtime) openAtStart paperDd s.accountSnapshot symbol i
        feature = .ok (decision, enriched) ∧
      ((final (service.decideStep input openAtStart paperDd s (symbol, i)) =
            service.journalled input s symbol i decision enriched ∧
          service.decideFills input openAtStart paperDd s (symbol, i) = []) ∨
        ∃ svc filled result,
          service.simulated (service.journalled input s symbol i decision enriched).runtime = some svc ∧
          svc.applyDecision decision enriched input.cycleId input.startedAt = .ok (filled, result) ∧
          final (service.decideStep input openAtStart paperDd s (symbol, i)) =
            refreshed input (service.journalled input s symbol i decision enriched) filled ∧
          service.decideFills input openAtStart paperDd s (symbol, i) =
            fillsOf .decide decision input.startedAt svc (.ok (filled, result))) := by
  cases known : s.features.get? symbol with
  | none =>
      simp only [decideStep, decideFills, known]
      exact .inl ⟨rfl, trivial⟩
  | some feature =>
      cases decided : service.decideSymbol input (service.simulated s.runtime) openAtStart paperDd
          s.accountSnapshot symbol i feature with
      | error error =>
          simp only [decideStep, decideFills, known, decided]
          exact .inl ⟨rfl, trivial⟩
      | ok outcome =>
          obtain ⟨decision, enriched⟩ := outcome
          refine .inr ⟨feature, decision, enriched, rfl, decided, ?_⟩
          rw [decideStep_decided known decided]
          simp only [decideFills, known, decided]
          cases account : service.simulated
              (service.journalled input s symbol i decision enriched).runtime with
          | none =>
              simp only [settleDecision, account]
              exact .inl ⟨rfl, trivial⟩
          | some svc =>
              cases applied : svc.applyDecision decision enriched input.cycleId input.startedAt with
              | error error =>
                  simp only [settleDecision, account, applied]
                  exact .inl ⟨rfl, rfl⟩
              | ok outcome =>
                  obtain ⟨filled, result⟩ := outcome
                  simp only [settleDecision, account, applied]
                  exact .inr ⟨svc, filled, result, rfl, applied, rfl, rfl⟩

def decidePhaseFills (s : CycleState) : List PaperFill :=
  let paper := service.simulated s.runtime
  let paperDd := (paper.map PaperExecutionService.drawdownPct).getD 0
  emitted (service.decideStep input (openSymbols paper) paperDd)
    (service.decideFills input (openSymbols paper) paperDd) s service.configuredSymbols.zipIdx

/-- The fills of one cycle, in order; a phase that raises ends the cycle. -/
def cycleFills (state : RuntimeState) : List PaperFill :=
  let (collected, features) := service.collectFeatures input (service.recordGlobalData input state)
  match service.simulated collected with
  | none => []
  | some svc => service.exitPhaseFills input features svc ++
      match service.settleAccount input features collected with
      | .error _ => []
      | .ok s => service.decidePhaseFills input s

end Fills

section Runs

variable (service : DecisionRuntimeService)

def cycleStep (state : RuntimeState) (input : CycleInput) : RuntimeState := (service.runCycle state input).1

/-- The state after a run of cycles, raising ones included. -/
def runCycles (state : RuntimeState) (inputs : List CycleInput) : RuntimeState :=
  run service.cycleStep state inputs

def runFills (state : RuntimeState) (inputs : List CycleInput) : List PaperFill :=
  trace service.cycleStep (fun state input => service.cycleFills input state) state inputs

end Runs

section Contexts
open PositionExitEvaluator

/-- An exit-phase fill closes a position that is stored and open. -/
structure ExitFill (input : CycleInput) (svc : PaperExecutionService) (fill : PaperFill) : Prop where
  phase : fill.phase = .exit
  ts : fill.ts = input.startedAt
  before : fill.before = svc
  filled : ∃ feature, svc.applyDecision fill.decision feature input.cycleId input.startedAt =
    .ok (fill.after, some fill.result)
  opened : ∃ position reason, fill.decision = buildExitDecision position reason ∧
    position.isOpen = true ∧
    svc.state.positions.get? (position.symbol, paperPositionSide) = some position

/-- A decide-phase fill starts from a flat symbol out of cooldown and carries an
approval of the kernel on the account as it is. -/
structure DecideFill (service : DecisionRuntimeService) (input : CycleInput) (svc : PaperExecutionService)
    (fill : PaperFill) : Prop where
  phase : fill.phase = .decide
  ts : fill.ts = input.startedAt
  before : fill.before = svc
  filled : ∃ feature, svc.applyDecision fill.decision feature input.cycleId input.startedAt =
    .ok (fill.after, some fill.result)
  flat : (svc.positionFor fill.symbol input.startedAt).quantity = 0
  cooled : svc.isInCooldown fill.symbol input.startedAt service.appConfig.exitCooldownMinutes = false
  approved : ∃ signal risk, fill.decision.risk = some risk ∧ signal.symbol = fill.symbol ∧
    signal.cluster = none ∧
    service.decisionEngine.riskKernel.evaluate signal
      (svc.state.toSnapshot input.startedAt svc.drawdownPct) = .ok risk ∧ risk.status = .approved

/-- What a property of the account and the fills so far has to survive. -/
structure CycleInvariant (service : DecisionRuntimeService) (input : CycleInput)
    (Inv : PaperExecutionService → List PaperFill → Prop) : Prop where
  journal : ∀ svc history journal, Inv svc history → Inv { svc with journal } history
  stamped : ∀ svc history, Inv svc history → Inv (svc.accountState input.startedAt) history
  marked : ∀ svc history features, svc.PositionsSound → Inv svc history →
    Inv (svc.markToMarket features input.cycleId input.startedAt) history
  exits : ∀ svc history fill, svc.PositionsSound → Inv svc history → ExitFill input svc fill →
    Inv fill.after (history ++ [fill])
  decides : ∀ svc history fill, svc.PositionsSound → Inv svc history →
    DecideFill service input svc fill → Inv fill.after (history ++ [fill])

end Contexts

section Steps
open PaperExecutionService PositionExitEvaluator

variable {service : DecisionRuntimeService} {input : CycleInput}
  {Inv : PaperExecutionService → List PaperFill → Prop}

/-- The account holds the invariant and its positions are well formed. -/
def Holds (Inv : PaperExecutionService → List PaperFill → Prop) (history : List PaperFill)
    (svc : PaperExecutionService) : Prop := svc.PositionsSound ∧ Inv svc history

theorem CycleInvariant.holds_journal (inv : CycleInvariant service input Inv) {history : List PaperFill}
    {svc : PaperExecutionService} (held : Holds Inv history svc) (journal : JsonlStorage) :
    Holds Inv history { svc with journal } := ⟨held.1, inv.journal svc history journal held.2⟩

theorem CycleInvariant.holds_stamped (inv : CycleInvariant service input Inv) {history : List PaperFill}
    {svc : PaperExecutionService} (held : Holds Inv history svc) :
    Holds Inv history (svc.accountState input.startedAt) :=
  ⟨step_positionsSound svc (.accountState input.startedAt) held.1, inv.stamped svc history held.2⟩

/-- A call that returns either fills and says so, or leaves the account alone. -/
theorem fillsOf_returned (phase : CyclePhase) {decision : TradeDecision} {ts : Datetime}
    {svc filled : PaperExecutionService} {feature : FeatureVector} {cycleId : String}
    {result : Option PaperFillResult}
    (returned : svc.applyDecision decision feature cycleId ts = .ok (filled, result)) :
    (filled = svc ∧ fillsOf phase decision ts svc (.ok (filled, result)) = []) ∨
      ∃ fill : PaperFill, fillsOf phase decision ts svc (.ok (filled, result)) = [fill] ∧
        fill.phase = phase ∧ fill.ts = ts ∧ fill.before = svc ∧ fill.decision = decision ∧
        fill.after = filled ∧
        svc.applyDecision fill.decision feature cycleId ts = .ok (fill.after, some fill.result) := by
  rcases applyDecision_cases svc decision cycleId ts feature with
    ignored | ⟨error, raised⟩ | ⟨side, risk, -, -, -, -, booked⟩
  · rw [ignored] at returned
    cases returned
    exact .inl ⟨rfl, rfl⟩
  · rw [raised] at returned
    cases returned
  · rw [booked] at returned
    cases returned
    exact .inr ⟨_, rfl, rfl, rfl, rfl, rfl, rfl, booked⟩

/-- A call for one symbol leaves the position of every other symbol. -/
theorem applyDecision_elsewhere {svc filled : PaperExecutionService} (sound : svc.PositionsSound)
    {decision : TradeDecision} {feature : FeatureVector} {cycleId : String} {ts : Datetime}
    {result : Option PaperFillResult}
    (returned : svc.applyDecision decision feature cycleId ts = .ok (filled, result)) :
    filled.PositionsSound ∧ ∀ symbol, decision.symbol ≠ symbol →
      filled.state.positions.get? (symbol, paperPositionSide) =
        svc.state.positions.get? (symbol, paperPositionSide) := by
  have stepped : svc.step (.applyDecision decision feature cycleId ts) = filled := by
    simp only [step, returned]
  rw [← stepped]
  exact ⟨step_positionsSound svc _ sound, fun symbol other => step_elsewhere sound other⟩

/-- The exit loop: what the remaining exits close is still stored and open. -/
def ExitsPending (Inv : PaperExecutionService → List PaperFill → Prop)
    (items : List (TradeDecision × ℕ)) (svc : PaperExecutionService) (history : List PaperFill) : Prop :=
  Holds Inv history svc ∧ (items.map fun item => item.1.symbol).Nodup ∧
    ∀ item ∈ items, ∃ position reason, item.1 = buildExitDecision position reason ∧
      position.isOpen = true ∧
      svc.state.positions.get? (position.symbol, paperPositionSide) = some position

theorem exitStep_pending (inv : CycleInvariant service input Inv)
    (features : OrderedDict String FeatureVector) (svc : PaperExecutionService) (item : TradeDecision × ℕ)
    (rest : List (TradeDecision × ℕ)) (history : List PaperFill)
    (pending : ExitsPending Inv (item :: rest) svc history) :
    ExitsPending Inv rest (final (service.exitStep input features svc item))
      (history ++ exitFills input features svc item) := by
  obtain ⟨held, distinct, closes⟩ := pending
  obtain ⟨absent, rest_distinct⟩ := List.nodup_cons.mp distinct
  have rest_closes := fun later member => closes later (List.mem_cons_of_mem item member)
  obtain ⟨exit, i⟩ := item
  cases known : features.get? exit.symbol with
  | none =>
      simp only [exitStep, exitFills, known, List.append_nil]
      exact ⟨held, rest_distinct, rest_closes⟩
  | some feature =>
      cases applied : svc.applyDecision exit feature input.cycleId input.startedAt with
      | error error =>
          simp only [exitStep, exitFills, known, applied, fillsOf, List.append_nil]
          exact ⟨held, rest_distinct, rest_closes⟩
      | ok outcome =>
          obtain ⟨filled, result⟩ := outcome
          obtain ⟨sound, elsewhere⟩ := applyDecision_elsewhere held.1 applied
          have booked : Holds Inv (history ++ exitFills input features svc (exit, i)) filled := by
            simp only [exitFills, known, applied]
            rcases fillsOf_returned .exit applied with
              ⟨same, nothing⟩ | ⟨fill, one, phase, ts, before, decision, after, fills⟩
            · rw [nothing, same, List.append_nil]
              exact held
            · rw [one, ← after]
              rw [← after] at sound
              refine ⟨sound, inv.exits svc history fill held.1 held.2
                ⟨phase, ts, before, ⟨feature, fills⟩, ?_⟩⟩
              rw [decision]
              exact closes (exit, i) List.mem_cons_self
          have stamped := inv.holds_journal (inv.holds_stamped booked)
          simp only [exitStep, known, applied, final_ok]
          refine ⟨stamped _, rest_distinct, ?_⟩
          intro later member
          obtain ⟨position, reason, built, opened, stored⟩ := rest_closes later member
          refine ⟨position, reason, built, opened, ?_⟩
          have other : exit.symbol ≠ position.symbol := by
            intro same
            apply absent
            refine List.mem_map.mpr ⟨later, member, ?_⟩
            rw [built]
            exact same.symm
          exact (elsewhere _ other).trans stored

/-- Marking and the exits after it. -/
theorem exitPhase_history (inv : CycleInvariant service input Inv)
    (features : OrderedDict String FeatureVector) {svc : PaperExecutionService} {history : List PaperFill}
    (held : Holds Inv history svc) :
    Holds Inv (history ++ service.exitPhaseFills input features svc)
      (final (service.exitPhase input features svc)) := by
  have marked : Holds Inv history (svc.markToMarket features input.cycleId input.startedAt) :=
    ⟨step_positionsSound svc (.markToMarket features input.cycleId input.startedAt) held.1,
      inv.marked svc history features held.1 held.2⟩
  simp only [exitPhase, exitPhaseFills]
  cases service.exitEvaluator with
  | none =>
      rw [List.append_nil]
      exact marked
  | some evaluator =>
      generalize svc.markToMarket features input.cycleId input.startedAt = account at marked
      have sound := marked.1
      obtain ⟨left, done⟩ := foldlM_history (service.exitStep input features)
        (exitFills input features) (ExitsPending Inv) (exitStep_pending inv features) account
        (evaluator.evaluate account.state features account.positionMetadata input.startedAt).zipIdx
        history (by
          refine ⟨marked, ?_, ?_⟩
          · have distinct := evaluate_symbols_nodup evaluator features account.positionMetadata
              input.startedAt sound.filed.symbols_nodup
            rw [← List.zipIdx_map_fst 0 (evaluator.evaluate _ _ _ _), List.map_map] at distinct
            exact distinct
          · intro item member
            obtain ⟨position, value, opened, -, reason, built⟩ :=
              mem_evaluate (List.fst_mem_of_mem_zipIdx member)
            obtain ⟨key, stored⟩ := (OrderedDict.mem_values_iff _ _).mp value
            obtain ⟨key_eq, shape⟩ := sound key position stored
            rw [← key_eq, PositionState.key, shape.side] at stored
            exact ⟨position, reason, built, opened, stored⟩)
      exact done.1

end Steps

section Deciding
open PaperExecutionService

/-- A service as it is built for paper mode, with the shipped strategies. -/
structure RunsPaper (service : DecisionRuntimeService) : Prop where
  summary : buildRuntimeModeSummary .paper service.symbolConfig = .ok service.modeSummary
  shipped : service.decisionEngine.strategies = shippedStrategies

variable {service : DecisionRuntimeService} {input : CycleInput}
  {Inv : PaperExecutionService → List PaperFill → Prop}

theorem RunsPaper.simulated_eq (paper : RunsPaper service) (state : RuntimeState) :
    service.simulated state = state.paper := by
  have flags := Except.ok.inj paper.summary
  rw [simulated, ← flags]
  rfl

/-- Outside live_micro every symbol is decided once. -/
theorem RunsPaper.symbols_nodup (paper : RunsPaper service) : service.configuredSymbols.Nodup := by
  have flags := Except.ok.inj paper.summary
  simp only [configuredSymbols, ← flags, reduceCtorEq, if_false]
  exact OrderedDict.nodup _

theorem paperService_runs : RunsPaper paperService := ⟨rfl, rfl⟩

theorem gate_eq_none {paper : Option PaperExecutionService} {openAtStart : List String} {paperDd : ℚ}
    {symbol : String} {feature : FeatureVector}
    (passed : service.gate input paper openAtStart paperDd symbol feature = none) :
    (∀ svc ∈ paper, svc.isInCooldown symbol input.startedAt service.appConfig.exitCooldownMinutes =
      false) ∧ symbol ∉ openAtStart := by
  simp only [gate, ite_eq_iff, reduceCtorEq, and_false, false_or] at passed
  obtain ⟨-, cooled, closed, -⟩ := passed
  refine ⟨?_, closed⟩
  intro svc present
  rw [Option.mem_def.mp present] at cooled
  simpa using cooled

/-- What a gate blocks is no trade. -/
theorem decideSymbol_passed {paper : Option PaperExecutionService} {openAtStart : List String}
    {paperDd : ℚ} {snapshot : AccountSnapshot} {symbol : String} {i : ℕ} {feature enriched : FeatureVector}
    {decision : TradeDecision}
    (decided : service.decideSymbol input paper openAtStart paperDd snapshot symbol i feature =
      .ok (decision, enriched)) (executes : decision.status = .execute) :
    service.gate input paper openAtStart paperDd symbol feature = none ∧
      service.decisionEngine.decide feature snapshot (input.decideNow i) (input.decisionId i) =
        .ok (decision, enriched) := by
  simp only [decideSymbol] at decided
  cases gated : service.gate input paper openAtStart paperDd symbol feature with
  | some blocked =>
      simp only [gated] at decided
      cases decided
      rw [gate_noTrade gated] at executes
      cases executes
  | none =>
      simp only [gated] at decided
      exact ⟨rfl, decided⟩

/-- A decision that fills passed the gates and was approved on the snapshot. -/
theorem decideSymbol_executed (shipped : service.decisionEngine.strategies = shippedStrategies)
    {paper : Option PaperExecutionService} {openAtStart : List String} {paperDd : ℚ}
    {snapshot : AccountSnapshot} {symbol : String} {i : ℕ} {feature enriched : FeatureVector}
    {decision : TradeDecision}
    (decided : service.decideSymbol input paper openAtStart paperDd snapshot symbol i feature =
      .ok (decision, enriched)) (executes : decision.status = .execute) :
    service.gate input paper openAtStart paperDd symbol feature = none ∧
      decision.symbol = feature.symbol ∧
      ∃ signal risk, decision.risk = some risk ∧ signal.symbol = decision.symbol ∧ signal.cluster = none ∧
        service.decisionEngine.riskKernel.evaluate signal snapshot = .ok risk ∧
        risk.status = .approved := by
  obtain ⟨passed, decided⟩ := decideSymbol_passed decided executes
  obtain ⟨signal, risk, carried, same, listed, approval⟩ := DecisionEngine.decide_execute decided executes
  obtain ⟨strategy, member, raw, generated, symbol_eq, cluster_eq⟩ := DecisionEngine.mem_candidates listed
  rw [shipped] at member
  obtain ⟨raw_symbol, raw_cluster⟩ := shipped_signal member generated
  refine ⟨passed, ?_, signal, risk, carried, same.symm, cluster_eq.trans raw_cluster, approval⟩
  rw [same, symbol_eq, raw_symbol]
  rfl

/-- The decide loop: the snapshot is the account's, and the symbols still to be
decided are flat unless they were open at the start. -/
structure DecidesPending (input : CycleInput) (Inv : PaperExecutionService → List PaperFill → Prop)
    (openAtStart : List String) (items : List (String × ℕ)) (s : CycleState) (history : List PaperFill)
    (svc : PaperExecutionService) : Prop where
  paper : s.runtime.paper = some svc
  held : Holds Inv history svc
  snapshot : s.accountSnapshot = svc.state.toSnapshot input.startedAt svc.drawdownPct
  aligned : ∀ symbol feature, s.features.get? symbol = some feature → feature.symbol = symbol
  distinct : (items.map Prod.fst).Nodup
  flat : ∀ item ∈ items, item.1 ∉ openAtStart → (svc.positionFor item.1 input.startedAt).quantity = 0

theorem positionFor_congr {svc svc' : PaperExecutionService} {symbol : String} (ts : Datetime)
    (same : svc'.state.positions.get? (symbol, paperPositionSide) =
      svc.state.positions.get? (symbol, paperPositionSide)) :
    svc'.positionFor symbol ts = svc.positionFor symbol ts := by
  simp only [positionFor, OrderedDict.getD, same]

theorem DecidesPending.tail {openAtStart : List String} {item : String × ℕ} {rest : List (String × ℕ)}
    {s : CycleState} {history : List PaperFill} {svc : PaperExecutionService}
    (pending : DecidesPending input Inv openAtStart (item :: rest) s history svc) :
    DecidesPending input Inv openAtStart rest s history svc :=
  { pending with
    distinct := (List.nodup_cons.mp pending.distinct).2
    flat := fun later member => pending.flat later (List.mem_cons_of_mem item member) }

/-- Deciding leaves the feature on its symbol. -/
theorem decideSymbol_aligned {paper : Option PaperExecutionService} {openAtStart : List String}
    {paperDd : ℚ} {snapshot : AccountSnapshot} {symbol : String} {i : ℕ} {feature enriched : FeatureVector}
    {decision : TradeDecision}
    (decided : service.decideSymbol input paper openAtStart paperDd snapshot symbol i feature =
      .ok (decision, enriched)) : enriched.symbol = feature.symbol := by
  simp only [decideSymbol] at decided
  split at decided
  · cases decided
    rfl
  · rw [(DecisionEngine.decide_returned decided).1]
    rfl

theorem record_paper {state : RuntimeState} {svc : PaperExecutionService} (present : state.paper = some svc)
    (stream : String) (payload : PyValue) :
    ∃ journal, (state.record stream payload).paper = some { svc with journal } := by
  simp only [RuntimeState.record, present]
  exact ⟨_, rfl⟩

/-- Journalling a decision touches the journal only. -/
theorem DecidesPending.journalled (inv : CycleInvariant service input Inv) {openAtStart : List String}
    {items : List (String × ℕ)} {s : CycleState} {history : List PaperFill} {svc : PaperExecutionService}
    (pending : DecidesPending input Inv openAtStart items s history svc) (symbol : String) (i : ℕ)
    (decision : TradeDecision) {feature : FeatureVector} (own : feature.symbol = symbol) :
    ∃ journal, DecidesPending input Inv openAtStart items
      (service.journalled input s symbol i decision feature) history { svc with journal } := by
  obtain ⟨journal, recorded⟩ := record_paper pending.paper service.decisionStream
    (service.buildJournalEntry input (input.entryTs i) symbol feature decision s.accountSnapshot
      (service.buildOrderRequestPreview decision))
  refine ⟨journal, recorded, inv.holds_journal pending.held journal, pending.snapshot, ?_,
    pending.distinct, pending.flat⟩
  intro other stored found
  simp only [DecisionRuntimeService.journalled, OrderedDict.get?_set] at found
  split at found
  · next same =>
    cases found
    exact own.trans same.symm
  · exact pending.aligned other stored found

/-- What a decide-phase call fills carries the context of a decide fill. -/
theorem decideFill_booked (paper : RunsPaper service) (inv : CycleInvariant service input Inv)
    {openAtStart : List String} {paperDd : ℚ} {s : CycleState} {symbol : String} {i : ℕ}
    {rest : List (String × ℕ)} {history : List PaperFill} {svc filled : PaperExecutionService}
    (pending : DecidesPending input Inv openAtStart ((symbol, i) :: rest) s history svc)
    {feature enriched : FeatureVector} {decision : TradeDecision}
    (known : s.features.get? symbol = some feature)
    (decided : service.decideSymbol input (service.simulated s.runtime) openAtStart paperDd
      s.accountSnapshot symbol i feature = .ok (decision, enriched)) {journal : JsonlStorage}
    (held : Holds Inv history { svc with journal }) {result : Option PaperFillResult}
    (applied : PaperExecutionService.applyDecision { svc with journal } decision enriched input.cycleId
      input.startedAt = .ok (filled, result)) :
    Holds Inv (history ++ fillsOf .decide decision input.startedAt { svc with journal }
      (.ok (filled, result))) filled := by
  rcases fillsOf_returned .decide applied with
    ⟨same, nothing⟩ | ⟨fill, one, phase, ts, before, decision_eq, after, fills⟩
  · rw [nothing, same, List.append_nil]
    exact held
  · have sound := (applyDecision_elsewhere held.1 applied).1
    rw [one, ← after]
    rw [← after] at sound
    have executes := applyDecision_executed fills
    rw [decision_eq] at executes
    obtain ⟨passed, own, signal, risk, carried, same_symbol, unclustered, evaluated, approved⟩ :=
      decideSymbol_executed paper.shipped decided executes
    obtain ⟨cooled, closed⟩ := gate_eq_none passed
    rw [paper.simulated_eq, pending.paper] at cooled
    have symbol_eq : fill.symbol = symbol := by
      rw [PaperFill.symbol, decision_eq, own, pending.aligned symbol feature known]
    refine ⟨sound, inv.decides _ history fill held.1 held.2
      ⟨phase, ts, before, ⟨enriched, fills⟩, ?_, ?_, signal, risk, ?_, ?_, unclustered, ?_, approved⟩⟩
    · rw [symbol_eq]
      exact pending.flat (symbol, i) List.mem_cons_self closed
    · rw [symbol_eq]
      exact cooled svc rfl
    · rw [decision_eq, carried]
    · rw [same_symbol, PaperFill.symbol, decision_eq]
    · rw [pending.snapshot] at evaluated
      exact evaluated

theorem decideStep_pending (paper : RunsPaper service) (inv : CycleInvariant service input Inv)
    (openAtStart : List String) (paperDd : ℚ) (s : CycleState) (item : String × ℕ)
    (rest : List (String × ℕ)) (history : List PaperFill)
    (pending : ∃ svc, DecidesPending input Inv openAtStart (item :: rest) s history svc) :
    ∃ svc, DecidesPending input Inv openAtStart rest
      (final (service.decideStep input openAtStart paperDd s item))
      (history ++ service.decideFills input openAtStart paperDd s item) svc := by
  obtain ⟨svc, pending⟩ := pending
  obtain ⟨symbol, i⟩ := item
  rcases decideStep_cases service input openAtStart paperDd s symbol i with
    ⟨left, nothing⟩ | ⟨feature, decision, enriched, known, decided, outcome⟩
  · rw [left, nothing, List.append_nil]
    exact ⟨svc, pending.tail⟩
  · have own : feature.symbol = symbol := pending.aligned symbol feature known
    have aligned := (decideSymbol_aligned decided).trans own
    obtain ⟨journal, logged⟩ := pending.journalled inv symbol i decision aligned
    rcases outcome with ⟨left, nothing⟩ | ⟨account, filled, result, present, applied, left, booked⟩
    · rw [left, nothing, List.append_nil]
      exact ⟨_, logged.tail⟩
    · rw [paper.simulated_eq, logged.paper] at present
      cases present
      rw [left, booked]
      have held := decideFill_booked paper inv pending known decided logged.held applied
      refine ⟨filled.accountState input.startedAt, rfl, inv.holds_stamped held, rfl, logged.aligned,
        logged.tail.distinct, ?_⟩
      intro later member closed
      obtain ⟨-, elsewhere⟩ := applyDecision_elsewhere logged.held.1 applied
      have flat := logged.flat later (List.mem_cons_of_mem _ member) closed
      by_cases executes : decision.status = .execute
      · have own_symbol := (decideSymbol_executed paper.shipped decided executes).2.1.trans own
        have other : decision.symbol ≠ later.1 := by
          intro same
          apply (List.nodup_cons.mp logged.distinct).1
          exact List.mem_map.mpr ⟨later, member, same.symm.trans own_symbol⟩
        exact (congrArg PositionState.quantity
          (positionFor_congr input.startedAt (elsewhere later.1 other))).trans flat
      · have ignored := applyDecision_of_noTrade executes applied
        rw [ignored]
        exact flat

/-- A symbol that is not listed as open is flat. -/
theorem flat_of_not_open {svc : PaperExecutionService} (sound : svc.PositionsSound) {symbol : String}
    (closed : symbol ∉ openSymbols (some svc)) (ts : Datetime) : (svc.positionFor symbol ts).quantity = 0 := by
  cases stored : svc.state.positions.get? (symbol, paperPositionSide) with
  | none => simp [positionFor, OrderedDict.getD, stored]
  | some position =>
      by_contra opened
      simp only [positionFor, OrderedDict.getD, stored, Option.getD_some] at opened
      have own : position.symbol = symbol := congrArg Prod.fst (sound _ position stored).1
      apply closed
      simp only [openSymbols, distinctSymbols, OrderedDict.mem_keys_ofList, List.map_map]
      refine List.mem_map.mpr ⟨position, List.mem_filter.mpr ⟨?_, ?_⟩, own⟩
      · exact (OrderedDict.mem_values_iff _ _).mpr ⟨_, stored⟩
      · simpa [PositionState.isOpen] using opened

theorem decidePhase_history (paper : RunsPaper service) (inv : CycleInvariant service input Inv)
    {s : CycleState} {svc : PaperExecutionService} {history : List PaperFill}
    (present : s.runtime.paper = some svc) (held : Holds Inv history svc)
    (snapshot : s.accountSnapshot = svc.state.toSnapshot input.startedAt svc.drawdownPct)
    (aligned : ∀ symbol feature, s.features.get? symbol = some feature → feature.symbol = symbol) :
    ∃ after, (final (service.decidePhase input s)).runtime.paper = some after ∧
      Holds Inv (history ++ service.decidePhaseFills input s) after := by
  have account : service.simulated s.runtime = some svc := (paper.simulated_eq s.runtime).trans present
  simp only [decidePhase, decidePhaseFills, account]
  obtain ⟨left, after, done⟩ := foldlM_history _ (service.decideFills input (openSymbols (some svc)) _)
    (fun items s history => ∃ svc', DecidesPending input Inv (openSymbols (some svc)) items s history svc')
    (decideStep_pending paper inv (openSymbols (some svc)) _) s service.configuredSymbols.zipIdx history
    ⟨svc, present, held, snapshot, aligned, by
      rw [List.zipIdx_map_fst]
      exact paper.symbols_nodup, fun item _ closed => flat_of_not_open held.1 closed input.startedAt⟩
  exact ⟨after, done.paper, done.held⟩

end Deciding

section Cycles
open PaperExecutionService

variable {service : DecisionRuntimeService} {input : CycleInput}
  {Inv : PaperExecutionService → List PaperFill → Prop}

/-- Every collected feature was built in this cycle, for the symbol it is stored under. -/
theorem collectFeatures_built {state : RuntimeState} {symbol : String} {feature : FeatureVector}
    (collected : (service.collectFeatures input state).2.get? symbol = some feature) :
    ∃ i, input.built i symbol = .ok feature := by
  have fold : ∀ (items : List (String × ℕ)) (acc : RuntimeState × OrderedDict String FeatureVector),
      (∀ symbol feature, acc.2.get? symbol = some feature → ∃ i, input.built i symbol = .ok feature) →
      ∀ symbol feature, (items.foldl (service.collectFeature input) acc).2.get? symbol = some feature →
        ∃ i, input.built i symbol = .ok feature := by
    intro items
    induction items with
    | nil => exact fun acc start => start
    | cons item rest ih =>
        intro acc known
        apply ih
        simp only [collectFeature]
        split
        · next fetched built =>
          intro symbol feature found
          rw [OrderedDict.get?_set] at found
          split at found
          · next same =>
            cases found
            exact ⟨item.2, same ▸ built⟩
          · exact known symbol feature found
        · exact known
  exact fold _ _ (fun symbol feature found => by cases found) symbol feature collected

/-- Collecting features journals failures and keeps every feature on its symbol. -/
theorem collectFeatures_paper (service : DecisionRuntimeService) (input : CycleInput)
    {state : RuntimeState} {svc : PaperExecutionService}
    (present : state.paper = some svc) :
    (∃ journal, (service.collectFeatures input state).1.paper = some { svc with journal }) ∧
      ∀ symbol feature, (service.collectFeatures input state).2.get? symbol = some feature →
        feature.symbol = symbol := by
  have fold : ∀ (items : List (String × ℕ)) (acc : RuntimeState × OrderedDict String FeatureVector),
      (∃ journal, acc.1.paper = some { svc with journal }) →
      ∃ journal, (items.foldl (service.collectFeature input) acc).1.paper = some { svc with journal } := by
    intro items
    induction items with
    | nil => exact fun acc start => start
    | cons item rest ih =>
        rintro acc ⟨journal, paper⟩
        apply ih
        simp only [collectFeature]
        split
        · exact ⟨journal, paper⟩
        · obtain ⟨journal', recorded⟩ := record_paper paper "decision_cycle_error" _
          exact ⟨journal', recorded⟩
  refine ⟨fold _ _ ⟨svc.journal, present⟩, fun symbol feature collected => ?_⟩
  obtain ⟨i, built⟩ := collectFeatures_built collected
  exact input.aligned i symbol feature built

theorem recordGlobalData_paper (service : DecisionRuntimeService) (input : CycleInput)
    {state : RuntimeState} {svc : PaperExecutionService}
    (present : state.paper = some svc) :
    ∃ journal, (service.recordGlobalData input state).paper = some { svc with journal } := by
  simp only [recordGlobalData]
  split
  · exact record_paper present _ _
  · obtain ⟨journal, logged⟩ := record_paper present "global_data_log" (globalDataRecord input)
    obtain ⟨journal', recorded⟩ := record_paper logged "global_data_diagnostic"
      (globalDataDiagnostic service.configuredSymbols input)
    exact ⟨journal', recorded⟩

/-- What the decide phase of a paper cycle starts from. -/
def settledState (input : CycleInput) (state : RuntimeState) (features : OrderedDict String FeatureVector)
    (exited : PaperExecutionService) : CycleState where
  runtime := { state with paper := some (exited.accountState input.startedAt) }
  features := features
  accountState := (exited.accountState input.startedAt).state
  accountSnapshot := (exited.accountState input.startedAt).state.toSnapshot input.startedAt
    (exited.accountState input.startedAt).drawdownPct

/-- One cycle keeps every cycle invariant over the fills it makes. -/
theorem cycleStep_history (paper : RunsPaper service) (inv : CycleInvariant service input Inv)
    {state : RuntimeState} {svc : PaperExecutionService} {history : List PaperFill}
    (present : state.paper = some svc) (held : Holds Inv history svc) :
    ∃ after, (service.cycleStep state input).paper = some after ∧
      Holds Inv (history ++ service.cycleFills input state) after := by
  obtain ⟨journal, recorded⟩ := recordGlobalData_paper service input present
  obtain ⟨⟨journal', collected⟩, aligned⟩ := collectFeatures_paper service input
    recorded
  have logged : Holds Inv history { svc with journal := journal' } := inv.holds_journal held journal'
  generalize opening : service.collectFeatures input (service.recordGlobalData input state) = opened
    at collected aligned
  obtain ⟨opened, features⟩ := opened
  have account : service.simulated opened = some { svc with journal := journal' } :=
    (paper.simulated_eq opened).trans collected
  have exited := exitPhase_history inv features logged
  cases outcome : service.exitPhase input features { svc with journal := journal' } with
  | error failure =>
      obtain ⟨left, error⟩ := failure
      rw [outcome] at exited
      simp only [cycleStep, runCycle, cycleFills, opening, settleAccount, account, outcome, List.append_nil]
      exact ⟨left, rfl, exited⟩
  | ok closed =>
      rw [outcome] at exited
      have settled : service.settleAccount input features opened =
          .ok (settledState input opened features closed) := by
        simp only [settleAccount, account, outcome]
        rfl
      obtain ⟨after, paper_after, kept⟩ := decidePhase_history paper inv
        (s := settledState input opened features closed) rfl (inv.holds_stamped exited) rfl aligned
      simp only [cycleStep, runCycle, cycleFills, opening, account, settled, ← List.append_assoc]
      refine ⟨after, ?_, kept⟩
      cases decided : service.decidePhase input (settledState input opened features closed) with
      | error failure =>
          rw [decided] at paper_after
          exact paper_after
      | ok s =>
          rw [decided] at paper_after
          exact paper_after

/-- The rule for runs: an invariant that may also speak of the cycles to come. -/
theorem runCycles_history (paper : RunsPaper service)
    (Along : List CycleInput → PaperExecutionService → List PaperFill → Prop)
    (cycle : ∀ input rest, CycleInvariant service input (Along (input :: rest)))
    (next : ∀ input rest svc history, Along (input :: rest) svc history → Along rest svc history)
    {state : RuntimeState} {svc : PaperExecutionService} (inputs : List CycleInput)
    (present : state.paper = some svc) (sound : svc.PositionsSound) (start : Along inputs svc []) :
    ∃ after, (service.runCycles state inputs).paper = some after ∧ after.PositionsSound ∧
      Along [] after (service.runFills state inputs) := by
  obtain ⟨after, paper_after, sound_after, kept⟩ := run_history service.cycleStep
    (fun state input => service.cycleFills input state)
    (fun inputs state history => ∃ svc, state.paper = some svc ∧ svc.PositionsSound ∧
      Along inputs svc history)
    (by
      rintro state input rest history ⟨svc, present, sound, held⟩
      obtain ⟨after, paper_after, sound_after, kept⟩ :=
        cycleStep_history paper (cycle input rest) present ⟨sound, held⟩
      exact ⟨after, paper_after, sound_after, next input rest after _ kept⟩)
    state inputs [] ⟨svc, present, sound, start⟩
  exact ⟨after, paper_after, sound_after, kept⟩

end Cycles

end DecisionRuntimeService

end CatsPy
