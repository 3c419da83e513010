import CatsPy.DecisionRuntime
import CatsPy.PaperPositions

/-!
# Journal streams

A record on one stream leaves the others as they are, so that what the paper
account and the runtime write beside some streams keeps every property of these.
-/
namespace CatsPy
open PythonValues StateRuns

section Streams

theorem readStream_record (storage : JsonlStorage) (stream other : String) (payload : PyValue) :
    (storage.record stream payload).readStream other =
      if other = stream then storage.readStream stream ++ [payload] else storage.readStream other := by
  simp only [JsonlStorage.record, JsonlStorage.readStream, OrderedDict.getD, OrderedDict.get?_set]
  split
  · rfl
  · rfl

/-- Records on streams outside `own` keep the property. -/
def KeptBeside (own : List String) (P : JsonlStorage → Prop) : Prop :=
  ∀ storage stream payload, stream ∉ own → P storage → P (storage.record stream payload)

theorem keptBeside_readStream (stream : String) (entries : List PyValue) :
    KeptBeside [stream] fun storage => storage.readStream stream = entries := by
  intro storage other payload differs same
  rw [readStream_record, if_neg (Ne.symm (by simpa using differs)), same]

end Streams

variable {own : List String} {P : JsonlStorage → Prop}

namespace PaperExecutionService

theorem markToMarket_journal (beside : KeptBeside own P) (pnl : "paper_pnl_log" ∉ own)
    {svc : PaperExecutionService} (kept : P svc.journal) (features : OrderedDict String FeatureVector)
    (cycleId : String) (ts : Datetime) : P (svc.markToMarket features cycleId ts).journal := by
  obtain ⟨clock, metadata, fundingDelta, marked⟩ := markToMarket_eq features ts svc cycleId
  rw [marked]
  apply beside _ _ _ pnl
  split
  · exact kept
  · exact kept

theorem applyDecision_journal (beside : KeptBeside own P) (fills : "paper_fill_log" ∉ own)
    (pnl : "paper_pnl_log" ∉ own) {svc filled : PaperExecutionService} {decision : TradeDecision}
    {feature : FeatureVector} {cycleId : String} {ts : Datetime} {fill : Option PaperFillResult}
    (applied : svc.applyDecision decision feature cycleId ts = .ok (filled, fill)) (kept : P svc.journal) :
    P filled.journal := by
  rcases applyDecision_cases svc decision cycleId ts feature with
    ignored | ⟨error, raised⟩ | ⟨side, risk, -, -, -, -, booked⟩
  · rw [ignored] at applied
    cases applied
    exact kept
  · rw [raised] at applied
    cases applied
  · rw [booked] at applied
    cases applied
    exact beside _ _ _ pnl (beside _ _ _ fills kept)

end PaperExecutionService

theorem RuntimeState.record_journal (state : RuntimeState) (stream : String) (payload : PyValue) :
    (state.record stream payload).journal = state.journal.record stream payload := by
  unfold RuntimeState.record RuntimeState.journal
  cases state.paper <;> rfl

theorem KeptBeside.record (beside : KeptBeside own P) {state : RuntimeState} (kept : P state.journal)
    {stream : String} (payload : PyValue) (other : stream ∉ own) : P (state.record stream payload).journal := by
  rw [RuntimeState.record_journal]
  exact beside _ _ _ other kept

namespace DecisionRuntimeService

variable {service : DecisionRuntimeService} (input : CycleInput)

theorem simulated_journal {state : RuntimeState} {svc : PaperExecutionService}
    (simulated_eq : service.simulated state = some svc) : state.journal = svc.journal := by
  unfold simulated at simulated_eq
  split at simulated_eq
  · simp [RuntimeState.journal, simulated_eq]
  · cases simulated_eq

theorem recordGlobalData_journal (beside : KeptBeside own P) (data : "global_data_log" ∉ own)
    (diagnostic : "global_data_diagnostic" ∉ own) {state : RuntimeState} (kept : P state.journal) :
    P (service.recordGlobalData input state).journal := by
  simp only [recordGlobalData]
  apply beside.record _ _ diagnostic
  split
  · exact kept
  · exact beside.record kept _ data

theorem collectFeatures_journal (beside : KeptBeside own P) (errors : "decision_cycle_error" ∉ own)
    {state : RuntimeState} (kept : P state.journal) : P (service.collectFeatures input state).1.journal := by
  apply run_invariant (service.collectFeature input) (fun acc => P acc.1.journal) _ (state, .empty) _ kept
  intro acc item kept
  unfold collectFeature
  split
  · exact kept
  · exact beside.record kept _ errors

theorem settleDecision_journal (beside : KeptBeside own P) (fills : "paper_fill_log" ∉ own)
    (pnl : "paper_pnl_log" ∉ own) (decision : TradeDecision) (feature : FeatureVector) {decided : CycleState}
    (kept : P decided.runtime.journal) :
    P (final (service.settleDecision input decision feature decided)).runtime.journal := by
  cases simulated_eq : service.simulated decided.runtime with
  | none =>
      simp only [settleDecision, simulated_eq]
      exact kept
  | some svc =>
      cases applied : svc.applyDecision decision feature input.cycleId input.startedAt with
      | error error =>
          simp only [settleDecision, simulated_eq, applied]
          exact kept
      | ok outcome =>
          obtain ⟨filled, fill⟩ := outcome
          simp only [settleDecision, simulated_eq, applied, final_ok]
          rw [simulated_journal simulated_eq] at kept
          have held : P filled.journal :=
            PaperExecutionService.applyDecision_journal beside fills pnl applied kept
          exact held

/-- The decide phase writes the decision stream and what fills write. -/
theorem decidePhase_journal (beside : KeptBeside own P) (decisions : service.decisionStream ∉ own)
    (fills : "paper_fill_log" ∉ own) (pnl : "paper_pnl_log" ∉ own) {s : CycleState}
    (kept : P s.runtime.journal) : P (final (service.decidePhase input s)).runtime.journal := by
  simp only [decidePhase]
  apply foldlM_invariant fun s : CycleState => P s.runtime.journal
  · rintro s ⟨symbol, i⟩ kept
    simp only [decideStep]
    split
    · exact kept
    · split
      · exact kept
      · exact settleDecision_journal input beside fills pnl _ _ (beside.record kept _ decisions)
  · exact kept

/-- The journal of a call that returned a cycle state or raised on the runtime state. -/
def settledJournal : Except (RuntimeState × PyError) CycleState → JsonlStorage
  | .ok s => s.runtime.journal
  | .error (state, _) => state.journal

variable (P) in
/-- What the account phase establishes and the decide phase keeps holds after the
cycle, raising or not. -/
theorem runCycle_journal {state : RuntimeState}
    (settles : P (settledJournal (service.settleAccount input
      (service.collectFeatures input (service.recordGlobalData input state)).2
      (service.collectFeatures input (service.recordGlobalData input state)).1)))
    (decides : ∀ s : CycleState, P s.runtime.journal →
      P (final (service.decidePhase input s)).runtime.journal) :
    P (service.runCycle state input).1.journal := by
  unfold runCycle
  generalize service.collectFeatures input (service.recordGlobalData input state) = opening at settles
  obtain ⟨collected, features⟩ := opening
  cases account : service.settleAccount input features collected with
  | error failure =>
      rw [account] at settles
      simp only [account]
      exact settles
  | ok s =>
      rw [account] at settles
      have decided := decides s settles
      simp only [account]
      cases deciding : service.decidePhase input s with
      | error failure =>
          rw [deciding] at decided
          exact decided
      | ok s =>
          rw [deciding] at decided
          exact decided

end DecisionRuntimeService

end CatsPy
