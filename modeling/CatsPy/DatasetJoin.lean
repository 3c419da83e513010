import CatsPy.CycleCommitment
import CatsPy.JournalStreams
import CatsPy.PaperDataset

/-!
# What the dataset reads of a run

Every logged decision carries its id at the top level of the record, and the
reader looks for it one level deeper. The invariant says what a run of paper
cycles leaves in the two streams the rows are joined from.
-/
namespace CatsPy
open PythonValues StateRuns PaperDatasetService

section Streams

def decisionLog (storage : JsonlStorage) : List PyValue := storage.readStream "paper_decision_log"

def fillLog (storage : JsonlStorage) : List PyValue := storage.readStream "paper_fill_log"

/-- A record of a decision as the runtime writes it: the id is its own field. -/
structure RuntimeEntry (entry : PyValue) : Prop where
  fields : ∃ entries, entry = .dict entries ∧ entries.lookup "decision" = none
  decisionId : ∃ id, id ≠ "" ∧ entry.item "decision_id" = .str id

/-- Every logged decision is such a record, and no fill is logged before one. -/
structure Written (storage : JsonlStorage) : Prop where
  entries : ∀ entry ∈ decisionLog storage, RuntimeEntry entry
  fills : decisionLog storage = [] → fillLog storage = []

theorem written_beside : KeptBeside ["paper_decision_log", "paper_fill_log"] Written := by
  intro storage stream payload other written
  simp only [List.mem_cons, List.not_mem_nil, or_false, not_or] at other
  have decisions : decisionLog (storage.record stream payload) = decisionLog storage := by
    rw [decisionLog, readStream_record, if_neg (Ne.symm other.1), decisionLog]
  have fills : fillLog (storage.record stream payload) = fillLog storage := by
    rw [fillLog, readStream_record, if_neg (Ne.symm other.2), fillLog]
  constructor
  · rw [decisions]
    exact written.entries
  · rw [decisions, fills]
    exact written.fills

theorem decisionLog_record (storage : JsonlStorage) (entry : PyValue) :
    decisionLog (storage.record "paper_decision_log" entry) = decisionLog storage ++ [entry] := by
  rw [decisionLog, readStream_record, if_pos rfl, decisionLog]

/-- A decision may be logged after its fill. -/
theorem written_record {storage : JsonlStorage} (entries : ∀ entry ∈ decisionLog storage, RuntimeEntry entry)
    {entry : PyValue} (runtime : RuntimeEntry entry) :
    Written (storage.record "paper_decision_log" entry) where
  entries := by
    intro logged member
    rw [decisionLog_record] at member
    rcases List.mem_append.mp member with old | new
    · exact entries logged old
    · rwa [List.mem_singleton.mp new]
  fills := by
    intro nothing
    rw [decisionLog_record] at nothing
    simp at nothing

/-- Fills may follow once a decision is logged. -/
theorem Written.filled {storage filled : JsonlStorage} (written : Written storage)
    (same : decisionLog filled = decisionLog storage) (logged : decisionLog storage ≠ []) :
    Written filled where
  entries := by
    rw [same]
    exact written.entries
  fills := by
    intro nothing
    exact absurd (same.symm.trans nothing) logged

end Streams

section Reader

/-- On the runtime's records the reader finds no id. -/
theorem decisionIdOf_runtime {entry : PyValue} (runtime : RuntimeEntry entry) :
    decisionIdOf entry = .ok "" := by
  obtain ⟨entries, rfl, absent⟩ := runtime.fields
  simp only [decisionIdOf, PyValue.get, absent]
  rfl

/-- One row for each decision with its id, and each fill's numbers on a row of
the decision that caused it. -/
def RowsMatch (storage : JsonlStorage) : Prop :=
  ∃ rows, buildDatasetRows storage = .ok rows ∧
    rows.map (·.item "decision_id") = (readRecords storage "paper_decision_log").map (·.item "decision_id") ∧
    ∀ fill ∈ readRecords storage "paper_fill_log", ∃ row ∈ rows,
      row.item "decision_id" = fill.item "decision_id" ∧
      ∀ key ∈ ["fill_price", "fill_quantity", "realized_pnl_delta", "turnover_notional_delta",
        "fee_paid_delta"], row.item key = fill.item key

theorem buildRow_decisionId {fills pnlByCycle : OrderedDict String PyValue} {decision row : PyValue}
    (built : buildRow fills pnlByCycle decision = .ok row) :
    ∃ id, decisionIdOf decision = .ok id ∧ row.item "decision_id" = .str id := by
  unfold buildRow at built
  obtain ⟨id, found, built⟩ := bind_ok built
  obtain ⟨riskStatus, -, built⟩ := bind_ok built
  obtain ⟨riskReason, -, built⟩ := bind_ok built
  obtain ⟨approvedNotional, -, built⟩ := bind_ok built
  obtain ⟨approvedLeverage, -, built⟩ := bind_ok built
  cases built
  exact ⟨id, found, rfl⟩

theorem readRecords_nil {storage : JsonlStorage} {stream : String} (nothing : storage.readStream stream = []) :
    readRecords storage stream = [] := by
  rw [readRecords, nothing]
  rfl

/-- The rows match what was written only when nothing was. -/
theorem rowsMatch_iff {storage : JsonlStorage} (written : Written storage) :
    RowsMatch storage ↔ decisionLog storage = [] := by
  constructor
  · rintro ⟨rows, built, ids, -⟩
    cases logged : decisionLog storage with
    | nil => rfl
    | cons entry rest =>
        have runtime := written.entries entry (by rw [logged]; exact List.mem_cons_self)
        obtain ⟨entries, is_dict, -⟩ := runtime.fields
        have first : readRecords storage "paper_decision_log" = entry :: rest.filter isDict := by
          change (decisionLog storage).filter isDict = _
          rw [logged, is_dict]
          rfl
        simp only [buildDatasetRows, first] at built
        rw [List.mapM_cons] at built
        obtain ⟨row, head, built⟩ := bind_ok built
        obtain ⟨later, -, built⟩ := bind_ok built
        cases built
        obtain ⟨id, found, row_id⟩ := buildRow_decisionId head
        rw [decisionIdOf_runtime runtime] at found
        cases found
        obtain ⟨id, named, entry_id⟩ := runtime.decisionId
        rw [first, List.map_cons, List.map_cons, row_id, entry_id] at ids
        injection ids with same
        injection same with same
        exact absurd same.symm named
  · intro nothing
    have no_decisions := readRecords_nil nothing
    have no_fills : readRecords storage "paper_fill_log" = [] := readRecords_nil (written.fills nothing)
    refine ⟨[], ?_, ?_, ?_⟩
    · simp only [buildDatasetRows, no_decisions]
      rfl
    · rw [no_decisions]
    · rw [no_fills]
      intro fill member
      cases member

end Reader

section Entries

theorem RuntimeEntry.insert {entry : PyValue} (runtime : RuntimeEntry entry) (key : String)
    (item : PyValue) (no_decision : "decision" ≠ key) (no_id : "decision_id" ≠ key) :
    RuntimeEntry (entry.insert key item) := by
  obtain ⟨entries, rfl, absent⟩ := runtime.fields
  obtain ⟨updated, inserted, others⟩ := PyValue.insert_dict key item entries
  obtain ⟨id, named, entry_id⟩ := runtime.decisionId
  refine ⟨⟨updated, inserted, ?_⟩, id, named, ?_⟩
  · rw [others "decision" no_decision, absent]
  · rw [inserted, ← entry_id]
    simp only [PyValue.item, others "decision_id" no_id]

variable (service : DecisionRuntimeService) (input : CycleInput)

namespace DecisionRuntimeService

theorem buildJournalEntry_runtime (ts : Datetime) (symbol : String) (feature : FeatureVector)
    {decision : TradeDecision} (named : decision.decisionId ≠ "") (snapshot : AccountSnapshot)
    (preview : PyValue) :
    RuntimeEntry (service.buildJournalEntry input ts symbol feature decision snapshot preview) where
  fields := ⟨_, rfl, by simp [List.lookup_cons]⟩
  decisionId := ⟨decision.decisionId, named, by simp [buildJournalEntry, PyValue.item, List.lookup_cons]⟩

theorem exitJournalEntry_runtime {entry : PyValue} (runtime : RuntimeEntry entry) (exit : TradeDecision)
    (exitMeta : Option PositionEntryMeta) (exitFill : Option PaperFillResult) (startedAt : Datetime) :
    RuntimeEntry (exitJournalEntry entry exit exitMeta exitFill startedAt) := by
  cases exitMeta with
  | none =>
      cases exitFill with
      | none => exact runtime
      | some fill => exact runtime.insert "realized_pnl_delta" _ (by decide) (by decide)
  | some entryMeta =>
      have reasoned := runtime.insert "exit_reason" ((ofOptional exit.selectedStrategy).or (.str ""))
        (by decide) (by decide)
      have timed := reasoned.insert "hold_hours" (.float (RoundingGrid.quantize RoundingGrid.halfEven
        (1 / 100) (totalSeconds startedAt entryMeta.entryTime / 3600))) (by decide) (by decide)
      have held := timed.insert "entry_strategy" (.str entryMeta.strategyName) (by decide) (by decide)
      cases exitFill with
      | none => exact held
      | some fill => exact held.insert "realized_pnl_delta" _ (by decide) (by decide)

theorem blockedId_ne_empty {label : String} (named : label ≠ "") (symbol : String) :
    blockedId label symbol input ≠ "" := by
  simp [blockedId, named]

theorem gate_named {paper : Option PaperExecutionService} {openAtStart : List String} {paperDd : ℚ}
    {symbol : String} {feature : FeatureVector} {decision : TradeDecision}
    (blocked : service.gate input paper openAtStart paperDd symbol feature = some decision) :
    decision.decisionId ≠ "" := by
  obtain ⟨label, regime, rationale, named, rfl⟩ := gate_blocked blocked
  exact blockedId_ne_empty input named symbol

end DecisionRuntimeService

theorem DecisionEngine.decide_decisionId {engine : DecisionEngine} {feature enriched : FeatureVector}
    {account : AccountSnapshot} {now : Datetime} {decisionId : String} {decision : TradeDecision}
    (decided : engine.decide feature account now decisionId = .ok (decision, enriched)) :
    decision.decisionId = decisionId := by
  obtain ⟨-, ⟨regime, rationale, rfl⟩ | ⟨signal, risk, -, -, -, rfl⟩⟩ := decide_returned decided
  · rfl
  · rfl

namespace DecisionRuntimeService

theorem decideSymbol_named {paper : Option PaperExecutionService} {openAtStart : List String} {paperDd : ℚ}
    {snapshot : AccountSnapshot} {symbol : String} {i : ℕ} {feature enriched : FeatureVector}
    {decision : TradeDecision}
    (decided : service.decideSymbol input paper openAtStart paperDd snapshot symbol i feature =
      .ok (decision, enriched)) : decision.decisionId ≠ "" := by
  simp only [decideSymbol] at decided
  split at decided
  next blocked gated =>
    cases decided
    exact gate_named service input gated
  next =>
    rw [DecisionEngine.decide_decisionId decided]
    intro nameless
    have length := input.decisionId_length i
    rw [nameless] at length
    cases length

end DecisionRuntimeService

theorem PositionExitEvaluator.buildExitDecision_named (position : PositionState) (exitReason : String) :
    (buildExitDecision position exitReason).decisionId ≠ "" := by
  simp [buildExitDecision, TradeDecision.execute]

end Entries

section Runs

theorem PaperExecutionService.applyDecision_decisionLog {svc filled : PaperExecutionService}
    {decision : TradeDecision} {feature : FeatureVector} {cycleId : String} {ts : Datetime}
    {fill : Option PaperFillResult}
    (applied : svc.applyDecision decision feature cycleId ts = .ok (filled, fill)) :
    decisionLog filled.journal = decisionLog svc.journal :=
  applyDecision_journal (keptBeside_readStream "paper_decision_log" (decisionLog svc.journal)) (by decide)
    (by decide) applied rfl

namespace DecisionRuntimeService

variable {service : DecisionRuntimeService} (input : CycleInput)

theorem decisionStream_paper (paperMode : service.modeSummary.mode = .paper) :
    service.decisionStream = "paper_decision_log" := by
  simp [decisionStream, paperMode]

/-- An exit logs its decision in the same step as its fill. -/
theorem exitStep_written (paperMode : service.modeSummary.mode = .paper)
    (features : OrderedDict String FeatureVector) {svc : PaperExecutionService}
    (written : Written svc.journal) {item : TradeDecision × ℕ} (named : item.1.decisionId ≠ "") :
    Written (final (service.exitStep input features svc item)).journal := by
  obtain ⟨exit, i⟩ := item
  cases known : features.get? exit.symbol with
  | none =>
      simp only [exitStep, known]
      exact written
  | some feature =>
      cases applied : svc.applyDecision exit feature input.cycleId input.startedAt with
      | error error =>
          simp only [exitStep, known, applied]
          exact written
      | ok outcome =>
          obtain ⟨filled, exitFill⟩ := outcome
          simp only [exitStep, known, applied, final_ok]
          apply written_beside _ _ _ (by decide)
          rw [decisionStream_paper paperMode]
          apply written_record
          · intro entry logged
            change entry ∈ decisionLog filled.journal at logged
            rw [PaperExecutionService.applyDecision_decisionLog applied] at logged
            exact written.entries entry logged
          · exact exitJournalEntry_runtime (buildJournalEntry_runtime _ _ _ _ _ named _ _) _ _ _ _

theorem exitPhase_written (paperMode : service.modeSummary.mode = .paper)
    (features : OrderedDict String FeatureVector) {svc : PaperExecutionService} (written : Written svc.journal) :
    Written (final (service.exitPhase input features svc)).journal := by
  have marked := PaperExecutionService.markToMarket_journal written_beside (by decide) written features
    input.cycleId input.startedAt
  unfold exitPhase
  cases service.exitEvaluator with
  | none => exact marked
  | some evaluator =>
      apply foldlM_invariant_of fun svc : PaperExecutionService => Written svc.journal
      · intro svc item listed written
        obtain ⟨position, -, -, -, reason, built⟩ :=
          PositionExitEvaluator.mem_evaluate (List.fst_mem_of_mem_zipIdx listed)
        apply exitStep_written input paperMode features written
        rw [built]
        exact PositionExitEvaluator.buildExitDecision_named position reason
      · exact marked

theorem settleAccount_written (paperMode : service.modeSummary.mode = .paper)
    (features : OrderedDict String FeatureVector) {state : RuntimeState} (written : Written state.journal) :
    Written (settledJournal (service.settleAccount input features state)) := by
  unfold settleAccount
  cases simulated_eq : service.simulated state with
  | some svc =>
      rw [simulated_journal simulated_eq] at written
      have exited := exitPhase_written input paperMode features written
      simp only
      cases outcome : service.exitPhase input features svc with
      | error failure =>
          rw [outcome] at exited
          exact exited
      | ok svc =>
          rw [outcome] at exited
          exact exited
  | none =>
      simp only
      cases input.reconciled with
      | error error => exact written
      | ok account => exact written

theorem settleDecision_written (decision : TradeDecision) (feature : FeatureVector) {decided : CycleState}
    (written : Written decided.runtime.journal) (logged : decisionLog decided.runtime.journal ≠ []) :
    Written (final (service.settleDecision input decision feature decided)).runtime.journal := by
  cases simulated_eq : service.simulated decided.runtime with
  | none =>
      simp only [settleDecision, simulated_eq]
      exact written
  | some svc =>
      cases applied : svc.applyDecision decision feature input.cycleId input.startedAt with
      | error error =>
          simp only [settleDecision, simulated_eq, applied]
          exact written
      | ok outcome =>
          obtain ⟨filled, fill⟩ := outcome
          simp only [settleDecision, simulated_eq, applied, final_ok]
          apply written.filled _ logged
          have same := PaperExecutionService.applyDecision_decisionLog applied
          rw [simulated_journal simulated_eq]
          exact same

/-- A decision is logged before it is filled. -/
theorem decideStep_written (paperMode : service.modeSummary.mode = .paper)
    (openAtStart : List String) (paperDd : ℚ) {s : CycleState} (written : Written s.runtime.journal)
    (item : String × ℕ) :
    Written (final (service.decideStep input openAtStart paperDd s item)).runtime.journal := by
  obtain ⟨symbol, i⟩ := item
  cases known : s.features.get? symbol with
  | none =>
      simp only [decideStep, known]
      exact written
  | some feature =>
      cases decided : service.decideSymbol input (service.simulated s.runtime) openAtStart paperDd
          s.accountSnapshot symbol i feature with
      | error error =>
          simp only [decideStep, known, decided]
          exact written
      | ok outcome =>
          obtain ⟨decision, enriched⟩ := outcome
          simp only [decideStep, known, decided]
          apply settleDecision_written
          · rw [RuntimeState.record_journal, decisionStream_paper paperMode]
            exact written_record written.entries (buildJournalEntry_runtime _ _ _ _ _
              (decideSymbol_named service input decided) _ _)
          · rw [RuntimeState.record_journal, decisionStream_paper paperMode, decisionLog_record]
            simp

theorem decidePhase_written (paperMode : service.modeSummary.mode = .paper) {s : CycleState}
    (written : Written s.runtime.journal) :
    Written (final (service.decidePhase input s)).runtime.journal := by
  simp only [decidePhase]
  apply foldlM_invariant fun s : CycleState => Written s.runtime.journal
  · intro s item written
    exact decideStep_written input paperMode _ _ written item
  · exact written

theorem runCycle_written (paperMode : service.modeSummary.mode = .paper) (state : RuntimeState)
    (written : Written state.journal) : Written (service.runCycle state input).1.journal := by
  have opened : Written (service.recordGlobalData input state).journal :=
    recordGlobalData_journal input written_beside (by decide) (by decide) written
  have collected : Written (service.collectFeatures input (service.recordGlobalData input state)).1.journal :=
    collectFeatures_journal input written_beside (by decide) opened
  apply runCycle_journal Written
  · exact settleAccount_written input paperMode _ collected
  · intro s settled
    exact decidePhase_written input paperMode settled

/-- The dataset of a run of paper cycles agrees with what was journalled exactly
when no decision was journalled. -/
theorem dataset_matches_iff (service : DecisionRuntimeService) (state : RuntimeState)
    (cycles : List CycleInput) (paperMode : service.modeSummary.mode = .paper)
    (no_decisions : decisionLog state.journal = []) (no_fills : fillLog state.journal = []) :
    RowsMatch (run (fun s input => (service.runCycle s input).1) state cycles).journal ↔
      decisionLog (run (fun s input => (service.runCycle s input).1) state cycles).journal = [] := by
  apply rowsMatch_iff
  apply run_invariant _ fun s : RuntimeState => Written s.journal
  · intro s input written
    exact runCycle_written input paperMode s written
  · constructor
    · rw [no_decisions]
      intro entry member
      cases member
    · intro _
      exact no_fills

section Samples

theorem dataset_matches_btc :
    RowsMatch (run (fun s input => (paperService.runCycle s input).1) openedPaper [trendingInput]).journal ↔
      decisionLog (run (fun s input => (paperService.runCycle s input).1) openedPaper
        [trendingInput]).journal = [] :=
  dataset_matches_iff paperService openedPaper [trendingInput] rfl rfl rfl

/-- One cycle executes and fills a decision; its row has no id and no fill. -/
theorem executed_cycle_unmatched :
    let journal := (paperService.runCycle openedPaper trendingInput).1.journal
    (decisionLog journal).map (fun entry => asText (entry.item "decision_id")) =
        [some "3b1d2c5e-8a47-4f0e-b1f4-6c2f9d0a7e21"] ∧
      (fillLog journal).map (fun fill => asText (fill.item "decision_id")) =
        [some "3b1d2c5e-8a47-4f0e-b1f4-6c2f9d0a7e21"] ∧
      (buildDatasetRows journal).toOption.map (fun rows => rows.map fun row =>
        (asText (row.item "decision_id"), (row.item "fill_price").truthy)) = some [(some "", false)] ∧
      ¬ RowsMatch journal := by
  have logged : (decisionLog (paperService.runCycle openedPaper trendingInput).1.journal).map
      (fun entry => asText (entry.item "decision_id")) = [some "3b1d2c5e-8a47-4f0e-b1f4-6c2f9d0a7e21"] := by
    decide +kernel
  refine ⟨logged, by decide +kernel, by decide +kernel, ?_⟩
  have written : Written (paperService.runCycle openedPaper trendingInput).1.journal := by
    apply runCycle_written trendingInput rfl
    constructor
    · intro entry member
      cases member
    · intro _
      rfl
  rw [rowsMatch_iff written]
  intro nothing
  rw [nothing] at logged
  cases logged

end Samples

end DecisionRuntimeService

end Runs

end CatsPy
