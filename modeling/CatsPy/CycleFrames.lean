import CatsPy.PaperCycles

/-!
# Cycle frames

What a cycle keeps of the paper account: every property that journalling and
the operations on the account keep. And what a stopped cycle does: while the
kernel refuses every signal on the snapshot of the decide loop, the loop decides
nothing but NO_TRADE, fills nothing and keeps refusing.
-/
namespace CatsPy
open PythonValues StateRuns

/-- No signal is approved on the snapshot. -/
def RiskKernel.Refuses (kernel : RiskKernel) (snapshot : AccountSnapshot) : Prop :=
  ∀ signal risk, kernel.evaluate signal snapshot = .ok risk → risk.status ≠ .approved

namespace DecisionRuntimeService

section Frames
open PaperExecutionService

/-- A property of the paper account that journalling and every operation keep. -/
structure AccountClosed (P : PaperExecutionService → Prop) : Prop where
  journal : ∀ svc journal, P svc → P { svc with journal }
  step : ∀ svc op, P svc → P (svc.step op)

/-- The streams the account writes itself. -/
def ledgerStreams : List String := ["paper_fill_log", "paper_pnl_log"]

/-- A property that every operation keeps, and every record on another stream. -/
structure LedgerClosed (P : PaperExecutionService → Prop) : Prop where
  record : ∀ svc stream payload, stream ∉ ledgerStreams → P svc →
    P { svc with journal := svc.journal.record stream payload }
  step : ∀ svc op, P svc → P (svc.step op)

theorem AccountClosed.ledger {P : PaperExecutionService → Prop} (closed : AccountClosed P) : LedgerClosed P where
  record := fun svc _ _ _ held => closed.journal svc _ held
  step := closed.step

theorem decisionStream_foreign (service : DecisionRuntimeService) :
    service.decisionStream ∉ ledgerStreams := by
  unfold decisionStream
  split <;> decide

/-- There is a paper account, and it has the property. -/
def AccountKept (P : PaperExecutionService → Prop) (state : RuntimeState) : Prop :=
  ∃ svc, state.paper = some svc ∧ P svc

variable {service : DecisionRuntimeService} {input : CycleInput} {P : PaperExecutionService → Prop}

theorem simulated_some {state : RuntimeState} {svc : PaperExecutionService}
    (account : service.simulated state = some svc) : state.paper = some svc := by
  simp only [simulated] at account
  split at account
  · exact account
  · cases account

theorem AccountKept.record (closed : AccountClosed P) {state : RuntimeState} (kept : AccountKept P state)
    (stream : String) (payload : PyValue) : AccountKept P (state.record stream payload) := by
  obtain ⟨svc, present, held⟩ := kept
  obtain ⟨journal, recorded⟩ := record_paper present stream payload
  exact ⟨_, recorded, closed.journal svc journal held⟩

theorem LedgerClosed.recorded (closed : LedgerClosed P) {state : RuntimeState} (kept : AccountKept P state)
    {stream : String} (foreign : stream ∉ ledgerStreams) (payload : PyValue) :
    AccountKept P (state.record stream payload) := by
  obtain ⟨svc, present, held⟩ := kept
  exact ⟨_, by rw [RuntimeState.record, present], closed.record svc stream payload foreign held⟩

/-- A call that returned made a step. -/
theorem LedgerClosed.applied (closed : LedgerClosed P) {svc filled : PaperExecutionService}
    {decision : TradeDecision} {feature : FeatureVector} {cycleId : String} {ts : Datetime}
    {result : Option PaperFillResult} (held : P svc)
    (returned : svc.applyDecision decision feature cycleId ts = .ok (filled, result)) : P filled := by
  have stepped := closed.step svc (.applyDecision decision feature cycleId ts) held
  simpa only [PaperExecutionService.step, returned] using stepped

theorem positionsSound_closed : AccountClosed PositionsSound where
  journal := fun _ _ sound => sound
  step := step_positionsSound

theorem LedgerClosed.exitStep (service : DecisionRuntimeService) (input : CycleInput)
    (closed : LedgerClosed P) (features : OrderedDict String FeatureVector) (svc : PaperExecutionService)
    (item : TradeDecision × ℕ) (held : P svc) : P (final (service.exitStep input features svc item)) := by
  obtain ⟨exit, i⟩ := item
  simp only [DecisionRuntimeService.exitStep]
  split
  · exact held
  · split
    · exact held
    · next filled fill applied =>
      have stamped := closed.step filled (.accountState input.startedAt) (closed.applied held applied)
      have decided (entry : PyValue) := closed.record _ _ entry (decisionStream_foreign service) stamped
      exact closed.record _ _ _ (by decide) (decided _)

theorem LedgerClosed.exitPhase (service : DecisionRuntimeService) (input : CycleInput)
    (closed : LedgerClosed P) (features : OrderedDict String FeatureVector)
    {svc : PaperExecutionService} (held : P svc) :
    P (final (service.exitPhase input features svc)) := by
  have marked := closed.step svc (.markToMarket features input.cycleId input.startedAt) held
  simp only [DecisionRuntimeService.exitPhase]
  split
  · exact marked
  · exact foldlM_invariant P (closed.exitStep service input features) _ _ marked

theorem exitPhase_keeps (service : DecisionRuntimeService) (input : CycleInput)
    (closed : AccountClosed P) (features : OrderedDict String FeatureVector)
    {svc : PaperExecutionService} (held : P svc) :
    P (final (service.exitPhase input features svc)) := closed.ledger.exitPhase service input features held

theorem LedgerClosed.collectFeatures (service : DecisionRuntimeService) (input : CycleInput)
    (closed : LedgerClosed P) {state : RuntimeState} (kept : AccountKept P state) :
    AccountKept P (service.collectFeatures input (service.recordGlobalData input state)).1 := by
  have recorded : AccountKept P (service.recordGlobalData input state) := by
    simp only [recordGlobalData]
    apply closed.recorded _ (by decide)
    split
    · exact kept
    · exact closed.recorded kept (by decide) _
  apply run_invariant (service.collectFeature input) (fun acc => AccountKept P acc.1) _ (_, .empty) _ recorded
  intro acc item kept
  unfold collectFeature
  split
  · exact kept
  · exact closed.recorded kept (by decide) _

theorem collectFeatures_keeps (service : DecisionRuntimeService) (input : CycleInput)
    (closed : AccountClosed P) {state : RuntimeState}
    (kept : AccountKept P state) :
    AccountKept P (service.collectFeatures input (service.recordGlobalData input state)).1 :=
  closed.ledger.collectFeatures service input kept

theorem LedgerClosed.settleAccount (service : DecisionRuntimeService) (input : CycleInput)
    (features : OrderedDict String FeatureVector) (closed : LedgerClosed P) {state : RuntimeState}
    (kept : AccountKept P state) :
    (∀ s, service.settleAccount input features state = .ok s → AccountKept P s.runtime) ∧
      ∀ left error, service.settleAccount input features state = .error (left, error) →
        AccountKept P left := by
  obtain ⟨svc, present, held⟩ := kept
  cases account : service.simulated state with
  | none =>
      simp only [DecisionRuntimeService.settleAccount, account]
      cases input.reconciled with
      | error error =>
          constructor
          · intro s returned
            cases returned
          · intro left error raised
            cases raised
            exact ⟨svc, present, held⟩
      | ok reconciled =>
          constructor
          · intro s returned
            cases returned
            exact ⟨svc, present, held⟩
          · intro left error raised
            cases raised
  | some simulated =>
      obtain rfl : simulated = svc := Option.some.inj ((simulated_some account).symm.trans present)
      have exited := closed.exitPhase service input features held
      simp only [DecisionRuntimeService.settleAccount, account]
      cases outcome : service.exitPhase input features simulated with
      | error failure =>
          rw [outcome] at exited
          constructor
          · intro s returned
            cases returned
          · intro left error raised
            cases raised
            exact ⟨_, rfl, exited⟩
      | ok finished =>
          rw [outcome] at exited
          constructor
          · intro s returned
            cases returned
            exact ⟨_, rfl, closed.step finished (.accountState input.startedAt) exited⟩
          · intro left error raised
            cases raised

/-- With a paper account the cycle decides on what its exits left, stamped. -/
theorem settleAccount_simulated {features : OrderedDict String FeatureVector} {state : RuntimeState}
    {svc : PaperExecutionService} (account : service.simulated state = some svc) {s : CycleState}
    (settled : service.settleAccount input features state = .ok s) :
    ∃ exited, service.exitPhase input features svc = .ok exited ∧
      s = settledState input state features exited := by
  simp only [settleAccount, account] at settled
  cases outcome : service.exitPhase input features svc with
  | error failure =>
      simp only [outcome] at settled
      cases settled
  | ok exited =>
      simp only [outcome] at settled
      exact ⟨exited, rfl, (Except.ok.inj settled).symm⟩

theorem LedgerClosed.decideStep (closed : LedgerClosed P) (openAtStart : List String) (paperDd : ℚ)
    (s : CycleState) (item : String × ℕ) (kept : AccountKept P s.runtime) :
    AccountKept P (final (service.decideStep input openAtStart paperDd s item)).runtime := by
  obtain ⟨symbol, i⟩ := item
  rcases decideStep_cases service input openAtStart paperDd s symbol i with
    ⟨left, -⟩ | ⟨feature, decision, enriched, -, -, outcome⟩
  · rwa [left]
  · have logged : AccountKept P (service.journalled input s symbol i decision enriched).runtime :=
      closed.recorded kept (decisionStream_foreign service) _
    rcases outcome with ⟨left, -⟩ | ⟨svc, filled, result, account, applied, left, -⟩
    · rwa [left]
    · obtain ⟨same, found, held⟩ := logged
      obtain rfl : svc = same := Option.some.inj ((simulated_some account).symm.trans found)
      rw [left]
      exact ⟨_, rfl, closed.step _ (.accountState input.startedAt) (closed.applied held applied)⟩

theorem LedgerClosed.decidePhase (service : DecisionRuntimeService) (input : CycleInput)
    (closed : LedgerClosed P) {s : CycleState} (kept : AccountKept P s.runtime) :
    AccountKept P (final (service.decidePhase input s)).runtime :=
  foldlM_invariant (fun s : CycleState => AccountKept P s.runtime)
    (closed.decideStep _ _) s _ kept

theorem decidePhase_keeps (service : DecisionRuntimeService) (input : CycleInput)
    (closed : AccountClosed P) {s : CycleState} (kept : AccountKept P s.runtime) :
    AccountKept P (final (service.decidePhase input s)).runtime :=
  closed.ledger.decidePhase service input kept

/-- A whole cycle, returning or raising. -/
theorem LedgerClosed.cycleStep (service : DecisionRuntimeService) (input : CycleInput)
    (closed : LedgerClosed P) {state : RuntimeState} (kept : AccountKept P state) :
    AccountKept P (service.cycleStep state input) := by
  have collected := closed.collectFeatures service input kept
  generalize opening : service.collectFeatures input (service.recordGlobalData input state) = opened
    at collected
  obtain ⟨opened, features⟩ := opened
  obtain ⟨settles, raises⟩ := closed.settleAccount service input features collected
  cases settled : service.settleAccount input features opened with
  | error failure =>
      simp only [DecisionRuntimeService.cycleStep, runCycle, opening, settled]
      exact raises failure.1 failure.2 settled
  | ok s =>
      have decided := closed.decidePhase service input (settles s settled)
      simp only [DecisionRuntimeService.cycleStep, runCycle, opening, settled]
      cases deciding : service.decidePhase input s with
      | error failure =>
          rw [deciding] at decided
          exact decided
      | ok next =>
          rw [deciding] at decided
          exact decided

theorem cycleStep_keeps (service : DecisionRuntimeService) (input : CycleInput)
    (closed : AccountClosed P) {state : RuntimeState} (kept : AccountKept P state) :
    AccountKept P (service.cycleStep state input) := closed.ledger.cycleStep service input kept

theorem fillsOf_phase {phase : CyclePhase} {decision : TradeDecision} {ts : Datetime}
    {before : PaperExecutionService}
    {outcome : Except PyError (PaperExecutionService × Option PaperFillResult)} :
    ∀ fill ∈ fillsOf phase decision ts before outcome, fill.phase = phase := by
  intro fill member
  unfold fillsOf at member
  split at member
  · rw [List.mem_singleton.mp member]
  · cases member

theorem exitPhaseFills_phase (service : DecisionRuntimeService) (input : CycleInput)
    (features : OrderedDict String FeatureVector) (svc : PaperExecutionService) :
    ∀ fill ∈ service.exitPhaseFills input features svc, fill.phase = .exit := by
  simp only [exitPhaseFills]
  cases service.exitEvaluator with
  | none => simp
  | some evaluator =>
      apply emitted_forall _ _ (fun _ => True) (fun fill : PaperFill => fill.phase = .exit)
        (fun _ _ _ => trivial) _ _ _ trivial
      intro svc item _ fill member
      unfold exitFills at member
      split at member
      · cases member
      · exact fillsOf_phase fill member

theorem decidePhaseFills_phase (service : DecisionRuntimeService) (input : CycleInput) (s : CycleState) :
    ∀ fill ∈ service.decidePhaseFills input s, fill.phase = .decide := by
  simp only [decidePhaseFills]
  apply emitted_forall _ _ (fun _ => True) (fun fill : PaperFill => fill.phase = .decide)
    (fun _ _ _ => trivial) _ _ _ trivial
  intro s item _ fill member
  unfold decideFills at member
  split at member
  · cases member
  · split at member
    · cases member
    · split at member
      · cases member
      · exact fillsOf_phase fill member

end Frames

section Refusals

/-- A condition of the paper account that outlives journalling and stamping, and
under which the kernel refuses. -/
structure StopCondition (service : DecisionRuntimeService) (now : Datetime)
    (Stop : PaperExecutionService → Prop) : Prop where
  journal : ∀ svc journal, Stop svc → Stop { svc with journal }
  stamped : ∀ svc, Stop svc → Stop (svc.accountState now)
  refuses : ∀ svc, Stop svc →
    service.decisionEngine.riskKernel.Refuses (svc.state.toSnapshot now svc.drawdownPct)

/-- The decide loop while it is stopped. -/
structure Refusing (service : DecisionRuntimeService) (Stop : PaperExecutionService → Prop)
    (s : CycleState) : Prop where
  snapshot : service.decisionEngine.riskKernel.Refuses s.accountSnapshot
  account : ∀ svc, service.simulated s.runtime = some svc → Stop svc
  decisions : ∀ decision ∈ s.decisions, decision.status = .noTrade

variable {service : DecisionRuntimeService} {input : CycleInput} {Stop : PaperExecutionService → Prop}

/-- Journalling changes nothing about the simulated account but its journal. -/
theorem simulated_record {state : RuntimeState} {svc : PaperExecutionService} {stream : String}
    {payload : PyValue} (logged : service.simulated (state.record stream payload) = some svc) :
    ∃ before journal, service.simulated state = some before ∧ svc = { before with journal } := by
  cases on : service.modeSummary.paperExecution with
  | false => simp [simulated, on] at logged
  | true =>
      simp only [simulated, on, if_true] at logged ⊢
      cases present : state.paper with
      | none => simp [RuntimeState.record, present] at logged
      | some before =>
          simp only [RuntimeState.record, present, Option.some.injEq] at logged
          exact ⟨before, _, rfl, logged.symm⟩

theorem decideSymbol_refused {paper : Option PaperExecutionService} {openAtStart : List String}
    {paperDd : ℚ} {snapshot : AccountSnapshot}
    (refuses : service.decisionEngine.riskKernel.Refuses snapshot) {symbol : String} {i : ℕ}
    {feature enriched : FeatureVector} {decision : TradeDecision}
    (decided : service.decideSymbol input paper openAtStart paperDd snapshot symbol i feature =
      .ok (decision, enriched)) : decision.status = .noTrade := by
  simp only [decideSymbol] at decided
  cases gated : service.gate input paper openAtStart paperDd symbol feature with
  | some blocked =>
      simp only [gated] at decided
      cases decided
      exact gate_noTrade gated
  | none =>
      simp only [gated] at decided
      cases status : decision.status with
      | noTrade => rfl
      | execute =>
          obtain ⟨signal, risk, -, -, -, evaluated, approved⟩ :=
            DecisionEngine.decide_execute decided status
          exact absurd approved (refuses signal risk evaluated)

theorem Refusing.step (stop : StopCondition service input.startedAt Stop) {openAtStart : List String}
    {paperDd : ℚ} {s : CycleState} {item : String × ℕ} (refusing : Refusing service Stop s) :
    Refusing service Stop (final (service.decideStep input openAtStart paperDd s item)) ∧
      service.decideFills input openAtStart paperDd s item = [] := by
  obtain ⟨symbol, i⟩ := item
  rcases decideStep_cases service input openAtStart paperDd s symbol i with
    ⟨left, nothing⟩ | ⟨feature, decision, enriched, -, decided, outcome⟩
  · rw [left, nothing]
    exact ⟨refusing, rfl⟩
  · have refused := decideSymbol_refused refusing.snapshot decided
    have listed : ∀ d ∈ s.decisions ++ [decision], d.status = .noTrade := by
      intro d member
      rcases List.mem_append.mp member with old | new
      · exact refusing.decisions d old
      · rwa [List.mem_singleton.mp new]
    have logged : Refusing service Stop (service.journalled input s symbol i decision enriched) := by
      refine ⟨refusing.snapshot, fun svc present => ?_, listed⟩
      obtain ⟨before, journal, held, rfl⟩ := simulated_record present
      exact stop.journal before journal (refusing.account before held)
    rcases outcome with ⟨left, nothing⟩ | ⟨svc, filled, result, account, applied, left, booked⟩
    · rw [left, nothing]
      exact ⟨logged, rfl⟩
    · rw [PaperExecutionService.applyDecision_noTrade refused] at applied
      cases applied
      rw [left, booked]
      have stopped := stop.stamped svc (logged.account svc account)
      refine ⟨⟨stop.refuses _ stopped, fun after present => ?_, listed⟩, rfl⟩
      rwa [← Option.some.inj (simulated_some present)]

/-- A cycle that settles on a stopped account starts its decisions stopped. -/
theorem StopCondition.settled (stop : StopCondition service input.startedAt Stop) (state : RuntimeState)
    (features : OrderedDict String FeatureVector) {exited : PaperExecutionService}
    (held : Stop (exited.accountState input.startedAt)) :
    Refusing service Stop (settledState input state features exited) where
  snapshot := stop.refuses _ held
  account := by
    intro svc present
    rwa [← Option.some.inj (simulated_some present)]
  decisions := by simp [settledState]

/-- A stopped decide phase, returning or raising. -/
theorem Refusing.decidePhase (stop : StopCondition service input.startedAt Stop) {s : CycleState}
    (refusing : Refusing service Stop s) :
    Refusing service Stop (final (service.decidePhase input s)) ∧ service.decidePhaseFills input s = [] := by
  simp only [DecisionRuntimeService.decidePhase, decidePhaseFills]
  generalize openSymbols (service.simulated s.runtime) = openAtStart
  generalize ((service.simulated s.runtime).map PaperExecutionService.drawdownPct).getD 0 = paperDd
  obtain ⟨left, kept, nothing⟩ := foldlM_history (service.decideStep input openAtStart paperDd)
    (service.decideFills input openAtStart paperDd)
    (fun _ s history => Refusing service Stop s ∧ history = [])
    (by
      rintro s item rest history ⟨loop, rfl⟩
      exact loop.step stop)
    s service.configuredSymbols.zipIdx [] ⟨refusing, rfl⟩
  exact ⟨kept, nothing⟩

end Refusals

end DecisionRuntimeService

end CatsPy
