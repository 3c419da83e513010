import CatsPy.DatasetJoin
import CatsPy.ReversalExits

/-!
# The exit log

Every exit decision that `apply_decision` takes without raising is logged. An
exit on a feature without a positive price is taken and ignored, and its entry
carries no realized profit.
-/
namespace CatsPy
open PythonValues StateRuns

def exitLog (storage : JsonlStorage) : List PyValue := storage.readStream "exit_decision_log"

theorem exitLog_beside (entries : List PyValue) :
    KeptBeside ["exit_decision_log"] fun storage => exitLog storage = entries :=
  keptBeside_readStream "exit_decision_log" entries

/-- An exit decision taken by `apply_decision`, what the call returned, and the entry of it. -/
structure AppliedExit where
  exit : TradeDecision
  fill : Option PaperFillResult
  entry : PyValue

namespace PaperExecutionService
open PositionExitEvaluator

/-- An exit raises exactly at a positive quote that slippage rounds to zero. -/
theorem buildExit_raises_iff (svc : PaperExecutionService) (position : PositionState) (reason : String)
    (feature : FeatureVector) (cycleId : String) (ts : Datetime) :
    (∃ error, svc.applyDecision (buildExitDecision position reason) feature cycleId ts = .error error) ↔
      0 < feature.referencePrice ∧ svc.applySlippage feature.referencePrice (closeSide position) = 0 := by
  by_cases priced : 0 < feature.referencePrice
  · by_cases vanished : svc.applySlippage feature.referencePrice (closeSide position) = 0
    · simp [applyDecision, buildExitDecision, exitRisk, TradeDecision.execute, not_le.mpr priced, priced,
        vanished]
    · simp [applyDecision, buildExitDecision, exitRisk, TradeDecision.execute, not_le.mpr priced, priced,
        vanished]
  · simp [applyDecision, buildExitDecision, TradeDecision.execute, not_lt.mp priced, priced]

end PaperExecutionService

namespace DecisionRuntimeService
open PaperExecutionService PositionExitEvaluator

section Exits

variable {service : DecisionRuntimeService} {input : CycleInput} {features : OrderedDict String FeatureVector}
  {svc : PaperExecutionService}

/-- The exit decisions the exit loop gets to, each with the account it is applied to. -/
def exitVisits (service : DecisionRuntimeService) (input : CycleInput)
    (features : OrderedDict String FeatureVector) (svc : PaperExecutionService) :
    List (PaperExecutionService × TradeDecision × ℕ) :=
  visits (service.exitStep input features) (svc.markToMarket features input.cycleId input.startedAt)
    (service.exitDecisions input features svc).zipIdx

theorem mem_exitDecisions_iff {exit : TradeDecision} : exit ∈ service.exitDecisions input features svc ↔
    ∃ evaluator position feature reason, service.exitEvaluator = some evaluator ∧
      position ∈ (svc.markToMarket features input.cycleId input.startedAt).state.positions.values ∧
      position.isOpen = true ∧ features.get? position.symbol = some feature ∧
      evaluator.checkExit position feature ((svc.markToMarket features input.cycleId
        input.startedAt).positionMetadata.get? position.symbol) input.startedAt = some reason ∧
      exit = buildExitDecision position reason := by
  cases equipped : service.exitEvaluator with
  | none => simp [exitDecisions, equipped]
  | some evaluator =>
      simp only [exitDecisions, equipped, evaluate, List.mem_filterMap, exitFor_eq_some_iff]
      constructor
      · rintro ⟨position, stored, opened, feature, reason, known, due, built⟩
        exact ⟨evaluator, position, feature, reason, rfl, stored, opened, known, due, built⟩
      · rintro ⟨_, position, feature, reason, ⟨⟩, stored, opened, known, due, built⟩
        exact ⟨position, stored, opened, feature, reason, known, due, built⟩

end Exits

section Entries

/-- The value is a dict with the symbol and the realized profit of the entry. -/
structure Extends (entry held : PyValue) : Prop where
  fields : ∃ entries, held = .dict entries
  symbol : held.item "symbol" = entry.item "symbol"
  realized : held.item "realized_pnl_delta" = entry.item "realized_pnl_delta"

variable {entry held : PyValue}

theorem Extends.insert (extension : Extends entry held) (key : String) (item : PyValue)
    (other_symbol : "symbol" ≠ key) (other_realized : "realized_pnl_delta" ≠ key) :
    Extends entry (held.insert key item) := by
  obtain ⟨entries, rfl⟩ := extension.fields
  obtain ⟨updated, inserted, others⟩ := PyValue.insert_dict key item entries
  rw [inserted]
  refine ⟨⟨updated, rfl⟩, ?_, ?_⟩
  · rw [← extension.symbol]
    simp only [PyValue.item, others _ other_symbol]
  · rw [← extension.realized]
    simp only [PyValue.item, others _ other_realized]

theorem Extends.fill (extension : Extends entry held) (item : PyValue) :
    (held.insert "realized_pnl_delta" item).item "symbol" = entry.item "symbol" ∧
      (held.insert "realized_pnl_delta" item).item "realized_pnl_delta" = item := by
  obtain ⟨entries, rfl⟩ := extension.fields
  obtain ⟨updated, inserted, others⟩ := PyValue.insert_dict "realized_pnl_delta" item entries
  refine ⟨?_, PyValue.item_insert_self _ item entries⟩
  rw [← extension.symbol, inserted]
  simp only [PyValue.item, others "symbol" (by decide)]

/-- The exit loop leaves the symbol of an entry, and gives it a realized profit
with a fill only. -/
theorem exitJournalEntry_items (fields : ∃ entries, entry = .dict entries) (exit : TradeDecision)
    (exitMeta : Option PositionEntryMeta) (exitFill : Option PaperFillResult) (startedAt : Datetime) :
    (exitJournalEntry entry exit exitMeta exitFill startedAt).item "symbol" = entry.item "symbol" ∧
      (exitJournalEntry entry exit exitMeta exitFill startedAt).item "realized_pnl_delta" =
        (exitFill.map fun fill => PyValue.float fill.realizedPnlDelta).getD
          (entry.item "realized_pnl_delta") := by
  have start : Extends entry entry := ⟨fields, rfl, rfl⟩
  cases exitMeta with
  | none =>
      cases exitFill with
      | none => exact ⟨rfl, rfl⟩
      | some fill => exact start.fill _
  | some entryMeta =>
      have reasoned := start.insert "exit_reason" ((ofOptional exit.selectedStrategy).or (.str ""))
        (by decide) (by decide)
      have timed := reasoned.insert "hold_hours" (.float (RoundingGrid.quantize RoundingGrid.halfEven
        (1 / 100) (totalSeconds startedAt entryMeta.entryTime / 3600))) (by decide) (by decide)
      have extended := timed.insert "entry_strategy" (.str entryMeta.strategyName) (by decide) (by decide)
      cases exitFill with
      | none => exact ⟨extended.symbol, extended.realized⟩
      | some fill => exact extended.fill _

end Entries

section Applied

variable (service : DecisionRuntimeService) (input : CycleInput) (features : OrderedDict String FeatureVector)

/-- What one pass of the exit loop applies and logs. -/
def appliedExit (svc : PaperExecutionService) (item : TradeDecision × ℕ) : List AppliedExit :=
  match features.get? item.1.symbol with
  | none => []
  | some feature =>
      match svc.applyDecision item.1 feature input.cycleId input.startedAt with
      | .error _ => []
      | .ok (filled, fill) =>
          let stamped := filled.accountState input.startedAt
          let snapshot := stamped.state.toSnapshot input.startedAt stamped.drawdownPct
          let entry := service.buildJournalEntry input (input.exitEntryTs item.2) item.1.symbol feature item.1
            snapshot .none
          let exitMeta := svc.positionMetadata.get? item.1.symbol
          [{ exit := item.1, fill, entry := exitJournalEntry entry item.1 exitMeta fill input.startedAt }]

def appliedExits (svc : PaperExecutionService) : List AppliedExit :=
  (service.exitVisits input features svc).flatMap fun visit =>
    service.appliedExit input features visit.1 visit.2

/-- The exits a whole cycle applies; none without a paper account. -/
def cycleAppliedExits (state : RuntimeState) : List AppliedExit :=
  let (collected, features) := service.collectFeatures input (service.recordGlobalData input state)
  match service.simulated collected with
  | none => []
  | some svc => service.appliedExits input features svc

variable {service input features}

theorem decisionStream_ne_exitLog : service.decisionStream ≠ "exit_decision_log" := by
  unfold decisionStream
  split <;> decide

theorem exitStep_exitLog (svc : PaperExecutionService) (item : TradeDecision × ℕ) :
    exitLog (final (service.exitStep input features svc item)).journal =
      exitLog svc.journal ++ (service.appliedExit input features svc item).map AppliedExit.entry := by
  obtain ⟨exit, i⟩ := item
  cases known : features.get? exit.symbol with
  | none => simp only [exitStep, appliedExit, known, final_ok, List.map_nil, List.append_nil]
  | some feature =>
      cases applied : svc.applyDecision exit feature input.cycleId input.startedAt with
      | error error =>
          simp only [exitStep, appliedExit, known, applied, final_error, List.map_nil, List.append_nil]
      | ok outcome =>
          obtain ⟨filled, fill⟩ := outcome
          have quiet : exitLog filled.journal = exitLog svc.journal :=
            applyDecision_journal (exitLog_beside (exitLog svc.journal)) (by decide) (by decide) applied rfl
          simp only [exitStep, appliedExit, known, applied, final_ok, List.map_cons, List.map_nil]
          rw [exitLog, readStream_record, if_pos rfl, readStream_record,
            if_neg (Ne.symm decisionStream_ne_exitLog), ← quiet]
          rfl

variable (service input features) in
theorem exitPhase_exitLog (svc : PaperExecutionService) :
    exitLog (final (service.exitPhase input features svc)).journal =
      exitLog svc.journal ++ (service.appliedExits input features svc).map AppliedExit.entry := by
  have marked : exitLog (svc.markToMarket features input.cycleId input.startedAt).journal =
      exitLog svc.journal :=
    markToMarket_journal (exitLog_beside (exitLog svc.journal)) (by decide) rfl features _ _
  rw [exitPhase_eq, foldlM_appends _ (fun svc item =>
    (service.appliedExit input features svc item).map AppliedExit.entry)
    (fun svc : PaperExecutionService => exitLog svc.journal) exitStep_exitLog, marked, emitted_eq_flatMap,
    appliedExits, List.map_flatMap, exitVisits]

theorem settleAccount_exitLog {state : RuntimeState} {svc : PaperExecutionService}
    (account : service.simulated state = some svc) :
    exitLog (settledJournal (service.settleAccount input features state)) =
      exitLog state.journal ++ (service.appliedExits input features svc).map AppliedExit.entry := by
  have exited := exitPhase_exitLog service input features svc
  rw [simulated_journal account, ← exited]
  simp only [settleAccount, account]
  cases service.exitPhase input features svc with
  | error failure => rfl
  | ok after => rfl

/-- What a cycle adds to the exit log, raising or not. -/
theorem runCycle_exitLog (state : RuntimeState) :
    exitLog (service.runCycle state input).1.journal =
      exitLog state.journal ++ (service.cycleAppliedExits input state).map AppliedExit.entry := by
  have opened : exitLog (service.recordGlobalData input state).journal = exitLog state.journal :=
    recordGlobalData_journal input (exitLog_beside (exitLog state.journal)) (by decide) (by decide) rfl
  have collected : exitLog (service.collectFeatures input (service.recordGlobalData input state)).1.journal =
      exitLog state.journal :=
    collectFeatures_journal input (exitLog_beside (exitLog state.journal)) (by decide) opened
  apply runCycle_journal fun journal => exitLog journal =
    exitLog state.journal ++ (service.cycleAppliedExits input state).map AppliedExit.entry
  · rw [cycleAppliedExits, ← collected]
    generalize service.collectFeatures input (service.recordGlobalData input state) = opening
    obtain ⟨gathered, features⟩ := opening
    cases account : service.simulated gathered with
    | some svc =>
        simp only [account]
        exact settleAccount_exitLog account
    | none =>
        simp only [settleAccount, account, List.map_nil, List.append_nil]
        cases input.reconciled with
        | error error => rfl
        | ok account => rfl
  · intro s settled
    apply decidePhase_journal input (exitLog_beside _) _ (by decide) (by decide) settled
    simpa using decisionStream_ne_exitLog

end Applied

section Outcomes

variable {service : DecisionRuntimeService} {input : CycleInput} {features : OrderedDict String FeatureVector}
  {svc : PaperExecutionService} {item : TradeDecision × ℕ}

theorem buildJournalEntry_fields (service : DecisionRuntimeService) (input : CycleInput) (ts : Datetime)
    (symbol : String) (feature : FeatureVector) (decision : TradeDecision) (snapshot : AccountSnapshot)
    (preview : PyValue) :
    ∃ entries, service.buildJournalEntry input ts symbol feature decision snapshot preview = .dict entries :=
  ⟨_, rfl⟩

/-- The entry of an applied exit names it, and says whether it was filled. -/
theorem appliedExit_entry {applied : AppliedExit} (member : applied ∈ service.appliedExit input features svc item) :
    applied.exit = item.1 ∧ applied.entry.item "symbol" = .str item.1.symbol ∧
      (applied.entry.item "realized_pnl_delta" ≠ .none ↔ applied.fill ≠ none) := by
  unfold appliedExit at member
  split at member
  · cases member
  · split at member
    · cases member
    · next filled fill returned =>
      rw [List.mem_singleton.mp member]
      simp only
      obtain ⟨symbol, realized⟩ := exitJournalEntry_items (service.buildJournalEntry_fields input
        (input.exitEntryTs item.2) item.1.symbol _ item.1
        ((filled.accountState input.startedAt).state.toSnapshot input.startedAt
          (filled.accountState input.startedAt).drawdownPct) .none) item.1
        (svc.positionMetadata.get? item.1.symbol) fill input.startedAt
      refine ⟨trivial, symbol, ?_⟩
      rw [realized]
      cases fill with
      | none => simp [buildJournalEntry, PyValue.item, List.lookup_cons]
      | some result => simp

theorem exitFills_decision : ∀ fill ∈ exitFills input features svc item, fill.decision = item.1 := by
  intro fill member
  unfold exitFills at member
  split at member
  · cases member
  · unfold fillsOf at member
    split at member
    · rw [List.mem_singleton.mp member]
    · cases member

/-- The loop fills what it applies with a fill. -/
theorem appliedExit_filled_iff :
    (∃ applied ∈ service.appliedExit input features svc item, applied.fill ≠ none) ↔
      ∃ fill, fill ∈ exitFills input features svc item := by
  cases known : features.get? item.1.symbol with
  | none => simp [appliedExit, exitFills, known]
  | some feature =>
      cases returned : svc.applyDecision item.1 feature input.cycleId input.startedAt with
      | error error => simp [appliedExit, exitFills, known, returned, fillsOf]
      | ok outcome =>
          obtain ⟨filled, fill⟩ := outcome
          cases fill with
          | none => simp [appliedExit, exitFills, known, returned, fillsOf]
          | some result => simp [appliedExit, exitFills, known, returned, fillsOf]

/-- An exit decision is applied without a fill exactly at a price that is not positive. -/
theorem appliedExit_ignored_iff (built : ∃ position reason, item.1 = buildExitDecision position reason) :
    (∃ applied ∈ service.appliedExit input features svc item, applied.fill = none) ↔
      ∃ feature, features.get? item.1.symbol = some feature ∧ feature.referencePrice ≤ 0 := by
  obtain ⟨position, reason, built⟩ := built
  cases known : features.get? item.1.symbol with
  | none => simp [appliedExit, known]
  | some feature =>
      by_cases unpriced : feature.referencePrice ≤ 0
      · have ignored : svc.applyDecision item.1 feature input.cycleId input.startedAt = .ok (svc, none) := by
          simp [built, applyDecision, buildExitDecision, TradeDecision.execute, unpriced]
        simp [appliedExit, known, ignored, unpriced]
      · by_cases vanished : svc.applySlippage feature.referencePrice (closeSide position) = 0
        · have raised : ∃ error, svc.applyDecision item.1 feature input.cycleId input.startedAt = .error error := by
            rw [built]
            exact (buildExit_raises_iff svc position reason feature _ _).mpr ⟨not_le.mp unpriced, vanished⟩
          obtain ⟨error, raised⟩ := raised
          simp [appliedExit, known, raised, unpriced]
        · have filled : ∃ after result, svc.applyDecision item.1 feature input.cycleId input.startedAt =
              .ok (after, some result) := by
            simp [built, applyDecision, buildExitDecision, TradeDecision.execute, unpriced, vanished]
          obtain ⟨after, result, filled⟩ := filled
          simp [appliedExit, known, filled, unpriced]

end Outcomes

section Cycles

variable (service : DecisionRuntimeService) (input : CycleInput)

/-- `apply_decision` fills an exit decision of the symbol in the cycle. -/
def ExitFilled (state : RuntimeState) (symbol : String) : Prop :=
  ∃ fill ∈ service.cycleFills input state, fill.phase = .exit ∧ fill.decision.symbol = symbol

/-- An exit decision of the symbol reaches `apply_decision` without a positive price. -/
def ExitIgnored (state : RuntimeState) (symbol : String) : Prop :=
  let (collected, features) := service.collectFeatures input (service.recordGlobalData input state)
  ∃ svc, service.simulated collected = some svc ∧ ∃ visit ∈ service.exitVisits input features svc,
    visit.2.1.symbol = symbol ∧ ∃ feature, features.get? symbol = some feature ∧ feature.referencePrice ≤ 0

variable {service input} {features : OrderedDict String FeatureVector} {svc : PaperExecutionService}
  {state : RuntimeState} {symbol : String}

theorem exitPhaseFills_eq : service.exitPhaseFills input features svc =
    (service.exitVisits input features svc).flatMap fun visit =>
      exitFills input features visit.1 visit.2 := by
  rw [exitVisits, ← emitted_eq_flatMap, exitPhaseFills, exitDecisions]
  cases service.exitEvaluator <;> rfl

theorem exitVisits_built {visit : PaperExecutionService × TradeDecision × ℕ}
    (reached : visit ∈ service.exitVisits input features svc) :
    ∃ position reason, visit.2.1 = buildExitDecision position reason := by
  obtain ⟨-, position, -, reason, -, -, -, -, -, built⟩ :=
    mem_exitDecisions_iff.mp (List.fst_mem_of_mem_zipIdx (mem_visits _ reached))
  exact ⟨position, reason, built⟩

/-- The filled exits of the phase are the applied ones with a fill. -/
theorem exitPhase_filled_iff :
    (∃ fill ∈ service.exitPhaseFills input features svc, fill.decision.symbol = symbol) ↔
      ∃ applied ∈ service.appliedExits input features svc, applied.exit.symbol = symbol ∧
        applied.fill ≠ none := by
  rw [exitPhaseFills_eq, appliedExits]
  constructor
  · rintro ⟨fill, listed, own⟩
    obtain ⟨visit, reached, filled⟩ := List.mem_flatMap.mp listed
    obtain ⟨applied, member, kept⟩ : ∃ applied ∈ service.appliedExit input features visit.1 visit.2,
        applied.fill ≠ none := appliedExit_filled_iff.mpr ⟨fill, filled⟩
    rw [exitFills_decision fill filled, ← (appliedExit_entry member).1] at own
    exact ⟨applied, List.mem_flatMap.mpr ⟨visit, reached, member⟩, own, kept⟩
  · rintro ⟨applied, listed, own, kept⟩
    obtain ⟨visit, reached, member⟩ := List.mem_flatMap.mp listed
    obtain ⟨fill, filled⟩ := appliedExit_filled_iff.mp ⟨applied, member, kept⟩
    rw [(appliedExit_entry member).1, ← exitFills_decision fill filled] at own
    exact ⟨fill, List.mem_flatMap.mpr ⟨visit, reached, filled⟩, own⟩

/-- The exits applied without a fill are those on a price that is not positive. -/
theorem exitPhase_ignored_iff :
    (∃ visit ∈ service.exitVisits input features svc, visit.2.1.symbol = symbol ∧
        ∃ feature, features.get? symbol = some feature ∧ feature.referencePrice ≤ 0) ↔
      ∃ applied ∈ service.appliedExits input features svc, applied.exit.symbol = symbol ∧
        applied.fill = none := by
  rw [appliedExits]
  constructor
  · rintro ⟨visit, reached, rfl, unpriced⟩
    obtain ⟨applied, member, ignored⟩ : ∃ applied ∈ service.appliedExit input features visit.1 visit.2,
        applied.fill = none := (appliedExit_ignored_iff (exitVisits_built reached)).mpr unpriced
    refine ⟨applied, List.mem_flatMap.mpr ⟨visit, reached, member⟩, ?_, ignored⟩
    rw [(appliedExit_entry member).1]
  · rintro ⟨applied, listed, own, ignored⟩
    obtain ⟨visit, reached, member⟩ := List.mem_flatMap.mp listed
    rw [(appliedExit_entry member).1] at own
    have unpriced := (appliedExit_ignored_iff (exitVisits_built reached)).mp ⟨applied, member, ignored⟩
    rw [own] at unpriced
    exact ⟨visit, reached, own, unpriced⟩

theorem exitFilled_iff : service.ExitFilled input state symbol ↔
    ∃ applied ∈ service.cycleAppliedExits input state, applied.exit.symbol = symbol ∧ applied.fill ≠ none := by
  rw [ExitFilled, cycleFills, cycleAppliedExits]
  generalize service.collectFeatures input (service.recordGlobalData input state) = opening
  obtain ⟨collected, features⟩ := opening
  cases account : service.simulated collected with
  | none => simp [account]
  | some svc =>
      simp only [account]
      rw [← exitPhase_filled_iff]
      constructor
      · rintro ⟨fill, listed, phase, own⟩
        rcases List.mem_append.mp listed with exits | decides
        · exact ⟨fill, exits, own⟩
        · split at decides
          · cases decides
          · rw [decidePhaseFills_phase _ _ _ fill decides] at phase
            cases phase
      · rintro ⟨fill, listed, own⟩
        exact ⟨fill, List.mem_append_left _ listed, exitPhaseFills_phase service input features svc fill listed, own⟩

theorem exitIgnored_iff : service.ExitIgnored input state symbol ↔
    ∃ applied ∈ service.cycleAppliedExits input state, applied.exit.symbol = symbol ∧ applied.fill = none := by
  rw [ExitIgnored, cycleAppliedExits]
  generalize service.collectFeatures input (service.recordGlobalData input state) = opening
  obtain ⟨collected, features⟩ := opening
  cases account : service.simulated collected with
  | none => simp [account]
  | some svc =>
      simp only [account, Option.some.injEq, exists_eq_left']
      exact exitPhase_ignored_iff

theorem cycleAppliedExits_entry {applied : AppliedExit} (listed : applied ∈ service.cycleAppliedExits input state) :
    applied.entry.item "symbol" = .str applied.exit.symbol ∧
      (applied.entry.item "realized_pnl_delta" ≠ .none ↔ applied.fill ≠ none) := by
  rw [cycleAppliedExits] at listed
  generalize service.collectFeatures input (service.recordGlobalData input state) = opening at listed
  obtain ⟨collected, features⟩ := opening
  simp only at listed
  split at listed
  · cases listed
  · obtain ⟨visit, -, member⟩ := List.mem_flatMap.mp listed
    obtain ⟨exit, entry⟩ := appliedExit_entry member
    rwa [exit]

/-- A cycle logs the exits of a symbol that were filled or ignored, and a
realized profit with the filled ones only. -/
theorem exit_log_iff (service : DecisionRuntimeService) (input : CycleInput) (state : RuntimeState) :
    ∃ entries, exitLog (service.runCycle state input).1.journal = exitLog state.journal ++ entries ∧
      ∀ symbol,
        ((∃ entry ∈ entries, entry.item "symbol" = .str symbol) ↔
          service.ExitFilled input state symbol ∨ service.ExitIgnored input state symbol) ∧
        ((∃ entry ∈ entries, entry.item "symbol" = .str symbol ∧ entry.item "realized_pnl_delta" ≠ .none) ↔
          service.ExitFilled input state symbol) := by
  refine ⟨_, runCycle_exitLog state, fun symbol => ?_⟩
  have named {applied : AppliedExit} (listed : applied ∈ service.cycleAppliedExits input state) :
      applied.entry.item "symbol" = .str symbol ↔ applied.exit.symbol = symbol := by
    rw [(cycleAppliedExits_entry listed).1, PyValue.str.injEq]
  rw [exitFilled_iff, exitIgnored_iff]
  constructor
  · constructor
    · rintro ⟨_, logged, own⟩
      obtain ⟨applied, listed, rfl⟩ := List.mem_map.mp logged
      by_cases ignored : applied.fill = none
      · exact .inr ⟨applied, listed, (named listed).mp own, ignored⟩
      · exact .inl ⟨applied, listed, (named listed).mp own, ignored⟩
    · rintro (⟨applied, listed, own, -⟩ | ⟨applied, listed, own, -⟩)
      · exact ⟨applied.entry, List.mem_map_of_mem listed, (named listed).mpr own⟩
      · exact ⟨applied.entry, List.mem_map_of_mem listed, (named listed).mpr own⟩
  · constructor
    · rintro ⟨_, logged, own, realized⟩
      obtain ⟨applied, listed, rfl⟩ := List.mem_map.mp logged
      exact ⟨applied, listed, (named listed).mp own, (cycleAppliedExits_entry listed).2.mp realized⟩
    · rintro ⟨applied, listed, own, filled⟩
      exact ⟨applied.entry, List.mem_map_of_mem listed, (named listed).mpr own,
        (cycleAppliedExits_entry listed).2.mpr filled⟩

end Cycles

section Samples

/-- A long marked a tenth below its entry. -/
def droppedHeld : RuntimeState :=
  { paper := some ((init {}).run [.applyDecision (marketOrder .buy 1000) (quoted 100) "open" 0,
      .markToMarket (.ofList [("BTCUSDT", quoted 90)]) "drop" 0]) }

/-- A cycle whose features carry no price. -/
def unpricedInput : CycleInput :=
  { trendingInput with
    built := fun _ symbol => .ok { symbol, ts := 0, referencePrice := 0 }
    aligned := by
      intro i symbol feature built
      cases built
      rfl }

/-- The stop loss of the stored mark is logged, and nothing is filled. -/
theorem unpriced_exit_logged :
    (∃ entry, exitLog (paperService.runCycle droppedHeld unpricedInput).1.journal =
        exitLog droppedHeld.journal ++ [entry] ∧ entry.item "symbol" = .str "BTCUSDT") ∧
      ¬ paperService.ExitFilled unpricedInput droppedHeld "BTCUSDT" := by
  have nothing : (paperService.cycleFills unpricedInput droppedHeld).length = 0 := by decide +kernel
  have logged : (exitLog (paperService.runCycle droppedHeld unpricedInput).1.journal).map
      (fun entry => asText (entry.item "symbol")) = [some "BTCUSDT"] := by
    decide +kernel
  have before : (exitLog droppedHeld.journal).length = 0 := by decide +kernel
  constructor
  · rw [List.eq_nil_of_length_eq_zero before]
    obtain ⟨entry, rest, alone, own, last⟩ := List.map_eq_cons_iff.mp logged
    rw [List.map_eq_nil_iff.mp last] at alone
    refine ⟨entry, alone, ?_⟩
    cases symbol : entry.item "symbol" with
    | str text =>
        rw [symbol] at own
        rw [Option.some.inj own]
    | _ => rw [symbol] at own; cases own
  · rintro ⟨fill, listed, -⟩
    rw [List.eq_nil_of_length_eq_zero nothing] at listed
    cases listed

end Samples

end DecisionRuntimeService

end CatsPy
