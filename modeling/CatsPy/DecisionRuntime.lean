import CatsPy.DecisionEngine
import CatsPy.ExitEvaluator
import CatsPy.StateRuns

/-!
# Decision runtime

One cycle of the decision service: journal the inputs, mark and exit the paper
positions or take the reconciled account, then decide symbol by symbol. What
the network returned and what the clock read are fields of the cycle's input.
-/
namespace CatsPy
open PythonValues StateRuns

section Settings

structure AppConfig where
  nofxStaleKillSeconds : ℤ := 45
  exitCooldownMinutes : ℚ := 30

structure SymbolConfig where
  core : List String := []
  liquidAlt : List String := []
  experimental : List String := []

structure RuntimeModeSummary where
  mode : RuntimeMode
  liveOrderSubmission : Bool
  paperExecution : Bool

/-- The flags of each mode; credentials are outside the model. -/
def buildRuntimeModeSummary (mode : RuntimeMode) (symbolConfig : SymbolConfig) :
    Except PyError RuntimeModeSummary :=
  match mode with
  | .live => .error ⟨.valueError,
      "live mode is disabled in this scaffold; use live_micro after completing safeguards"⟩
  | .shadow => .ok { mode, liveOrderSubmission := false, paperExecution := false }
  | .paper => .ok { mode, liveOrderSubmission := false, paperExecution := true }
  | .liveMicro =>
      if symbolConfig.core = [] then .error ⟨.valueError,
        "live_micro requires at least one core symbol in configs/symbols.yaml"⟩
      else .ok { mode, liveOrderSubmission := true, paperExecution := false }

end Settings

/-- The error texts recorded when a feature could not be built. -/
structure FetchFailure where
  error : String
  errorType : String
  traceback : String

/-- What one cycle reads from outside. `built i symbol` is the outcome of the
i-th concurrent feature build. -/
structure CycleInput where
  cycleId : String
  startedAt : Datetime
  queryRankMap : OrderedDict String ℤ := .empty
  ai300LevelMap : OrderedDict String ℚ := .empty
  built : ℕ → String → Except FetchFailure FeatureVector
  aligned : ∀ i symbol feature, built i symbol = .ok feature → feature.symbol = symbol
  reconciled : Except PyError AccountState
  exitEntryTs : ℕ → Datetime := fun _ => startedAt
  entryTs : ℕ → Datetime := fun _ => startedAt
  decideNow : ℕ → Datetime := fun _ => startedAt
  decisionId : ℕ → String
  decisionId_length : ∀ i, (decisionId i).length = 36

structure DecisionRuntimeResult where
  cycleId : String
  accountState : AccountState
  decisions : List TradeDecision

/-- The journal and the paper account; a paper service holds the shared journal. -/
structure RuntimeState where
  ownJournal : JsonlStorage := .empty
  paper : Option PaperExecutionService := none

namespace RuntimeState

def journal (state : RuntimeState) : JsonlStorage :=
  match state.paper with
  | some svc => svc.journal
  | none => state.ownJournal

def record (state : RuntimeState) (stream : String) (payload : PyValue) : RuntimeState :=
  match state.paper with
  | some svc => { state with paper := some { svc with journal := svc.journal.record stream payload } }
  | none => { state with ownJournal := state.ownJournal.record stream payload }

end RuntimeState

structure DecisionRuntimeService where
  decisionEngine : DecisionEngine
  appConfig : AppConfig := {}
  symbolConfig : SymbolConfig
  modeSummary : RuntimeModeSummary
  exitEvaluator : Option PositionExitEvaluator := none

namespace DecisionRuntimeService

section Symbols

/-- `list(dict.fromkeys(symbols))`: first occurrences, in order. -/
def distinctSymbols (symbols : List String) : List String :=
  (OrderedDict.ofList (symbols.map fun symbol => (symbol, ()))).keys

def configuredSymbols (service : DecisionRuntimeService) : List String :=
  if service.modeSummary.mode = .liveMicro then service.symbolConfig.core
  else distinctSymbols
    (service.symbolConfig.core ++ service.symbolConfig.liquidAlt ++ service.symbolConfig.experimental)

def setDefault (sources : OrderedDict String String) (symbol source : String) :
    OrderedDict String String :=
  if sources.contains symbol then sources else sources.set symbol source

def symbolSources (service : DecisionRuntimeService) : OrderedDict String String :=
  let core := service.symbolConfig.core.foldl (fun sources symbol => sources.set symbol "core") .empty
  let liquid := service.symbolConfig.liquidAlt.foldl (setDefault · · "liquid_alt") core
  service.symbolConfig.experimental.foldl (setDefault · · "experimental") liquid

def decisionStream (service : DecisionRuntimeService) : String :=
  match service.modeSummary.mode with
  | .shadow => "shadow_decision_log"
  | .paper => "paper_decision_log"
  | _ => "decision_log"

end Symbols

section Records

def strings (items : List String) : PyValue := .list (items.map PyValue.str)

/-- Written only when a ranking or a level list was available. -/
def globalDataRecord (input : CycleInput) : PyValue :=
  let topQr := (input.queryRankMap.entries.insertionSort fun a b => a.2 ≤ b.2).take 5
  .dict [("ts", .str (isoformat input.startedAt)), ("cycle_id", .str input.cycleId),
    ("data_type", .str "query_rank"), ("symbols_count", .int input.queryRankMap.entries.length),
    ("top_symbols", strings (topQr.map Prod.fst)),
    ("ai300_symbols_count", .int input.ai300LevelMap.entries.length)]

def globalDataDiagnostic (configured : List String) (input : CycleInput) : PyValue :=
  .dict [("ts", .str (isoformat input.startedAt)), ("cycle_id", .str input.cycleId),
    ("configured_symbols", strings configured),
    ("query_rank_covered", strings (configured.filter input.queryRankMap.contains)),
    ("query_rank_missing", strings (configured.filter fun s => !input.queryRankMap.contains s)),
    ("ai300_covered", strings (configured.filter input.ai300LevelMap.contains))]

def cycleErrorRecord (service : DecisionRuntimeService) (input : CycleInput) (symbol : String)
    (failure : FetchFailure) : PyValue :=
  .dict [("ts", .str (isoformat input.startedAt)), ("cycle_id", .str input.cycleId),
    ("symbol", .str symbol), ("mode", .str service.modeSummary.mode.value),
    ("error", .str failure.error), ("error_type", .str failure.errorType),
    ("traceback", .str failure.traceback)]

def buildOrderRequestPreview (service : DecisionRuntimeService) (decision : TradeDecision) : PyValue :=
  match decision.status, decision.side, decision.risk with
  | .execute, some side, some risk =>
      let preview := [("symbol", .str decision.symbol), ("side", .str side.value),
        ("order_type", .str OrderType.market.value), ("position_side", .str "BOTH"),
        ("target_notional", .float risk.approvedNotional),
        ("approved_leverage", .float risk.approvedLeverage),
        ("live_submission_enabled", .bool service.modeSummary.liveOrderSubmission)]
      if service.modeSummary.liveOrderSubmission then .dict preview
      else .dict (preview ++
        [("submission_blocked_by_mode", .str service.modeSummary.mode.value)])
  | _, _, _ => .none

def riskPayload : Option RiskDecision → PyValue
  | none => .none
  | some risk => .dict [("status", .str risk.status.value), ("reason", .str risk.reason),
      ("symbol_tier", ofOptional (risk.symbolTier.map SymbolTier.value)),
      ("approved_notional", .float risk.approvedNotional),
      ("approved_leverage", .float risk.approvedLeverage),
      ("risk_budget_bps", .float risk.riskBudgetBps)]

def rejectReason (decision : TradeDecision) : String :=
  match decision.rationale, decision.status with
  | first :: _, .noTrade => first
  | _, _ => ""

def buildJournalEntry (service : DecisionRuntimeService) (input : CycleInput) (ts : Datetime)
    (symbol : String) (feature : FeatureVector) (decision : TradeDecision)
    (accountSnapshot : AccountSnapshot) (orderRequestPreview : PyValue) : PyValue :=
  .dict [("ts", .str (isoformat ts)), ("cycle_id", .str input.cycleId), ("symbol", .str symbol),
    ("symbol_source", .str (service.symbolSources.getD symbol "unknown")),
    ("mode", .str service.modeSummary.mode.value), ("feature_ts", .str (isoformat feature.ts)),
    ("feature_stale_seconds", .float feature.staleSeconds),
    ("source_feature_ts", ofOptional (feature.sourceTs.map isoformat)),
    ("source_lag_seconds", .float feature.sourceLagSeconds),
    ("decision_id", .str decision.decisionId), ("decision_status", .str decision.status.value),
    ("regime", .str decision.regime.value), ("side", ofOptional (decision.side.map Side.value)),
    ("selected_strategy", ofOptional decision.selectedStrategy),
    ("action_score", .float decision.actionScore), ("rationale", strings decision.rationale),
    ("reject_reason", .str (rejectReason decision)), ("risk", riskPayload decision.risk),
    ("order_request_preview", orderRequestPreview), ("equity", .float accountSnapshot.equity),
    ("gross_exposure", .float accountSnapshot.grossExposure),
    ("open_positions", .int accountSnapshot.openPositions),
    ("daily_drawdown_pct", .float accountSnapshot.dailyDrawdownPct)]

/-- The extra keys of an exit whose position had entry metadata, and of one that filled. -/
def exitJournalEntry (entry : PyValue) (exit : TradeDecision) (exitMeta : Option PositionEntryMeta)
    (exitFill : Option PaperFillResult) (startedAt : Datetime) : PyValue :=
  let held := match exitMeta with
    | none => entry
    | some entryMeta =>
        let holdHours := RoundingGrid.quantize RoundingGrid.halfEven (1 / 100)
          (totalSeconds startedAt entryMeta.entryTime / 3600)
        ((entry.insert "exit_reason" ((ofOptional exit.selectedStrategy).or (.str ""))).insert
          "hold_hours" (.float holdHours)).insert "entry_strategy" (.str entryMeta.strategyName)
  match exitFill with
  | none => held
  | some fill => held.insert "realized_pnl_delta" (.float fill.realizedPnlDelta)

end Records

section Opening

def recordGlobalData (service : DecisionRuntimeService) (input : CycleInput) (state : RuntimeState) :
    RuntimeState :=
  let logged := if input.queryRankMap.isEmpty && input.ai300LevelMap.isEmpty then state
    else state.record "global_data_log" (globalDataRecord input)
  logged.record "global_data_diagnostic" (globalDataDiagnostic service.configuredSymbols input)

/-- One gathered result: keep the feature or journal the failure. -/
def collectFeature (service : DecisionRuntimeService) (input : CycleInput)
    (acc : RuntimeState × OrderedDict String FeatureVector) (item : String × ℕ) :
    RuntimeState × OrderedDict String FeatureVector :=
  match input.built item.2 item.1 with
  | .ok feature => (acc.1, acc.2.set item.1 feature)
  | .error failure =>
      (acc.1.record "decision_cycle_error" (cycleErrorRecord service input item.1 failure), acc.2)

def collectFeatures (service : DecisionRuntimeService) (input : CycleInput) (state : RuntimeState) :
    RuntimeState × OrderedDict String FeatureVector :=
  service.configuredSymbols.zipIdx.foldl (service.collectFeature input) (state, .empty)

end Opening

section Exits

/-- Apply, stamp, journal: the body of the exit loop. -/
def exitStep (service : DecisionRuntimeService) (input : CycleInput)
    (features : OrderedDict String FeatureVector) (svc : PaperExecutionService)
    (item : TradeDecision × ℕ) : Except (PaperExecutionService × PyError) PaperExecutionService :=
  let (exit, i) := item
  match features.get? exit.symbol with
  | none => .ok svc
  | some feature =>
      match svc.applyDecision exit feature input.cycleId input.startedAt with
      | .error error => .error (svc, error)
      | .ok (filled, exitFill) =>
          let stamped := filled.accountState input.startedAt
          let snapshot := stamped.state.toSnapshot input.startedAt stamped.drawdownPct
          let entry := exitJournalEntry
            (service.buildJournalEntry input (input.exitEntryTs i) exit.symbol feature exit snapshot .none)
            exit (svc.positionMetadata.get? exit.symbol) exitFill input.startedAt
          let logged := stamped.journal.record service.decisionStream entry
          .ok { stamped with journal := logged.record "exit_decision_log" entry }

/-- Mark to market, then run the exits on what marking left. -/
def exitPhase (service : DecisionRuntimeService) (input : CycleInput)
    (features : OrderedDict String FeatureVector) (svc : PaperExecutionService) :
    Except (PaperExecutionService × PyError) PaperExecutionService :=
  let marked := svc.markToMarket features input.cycleId input.startedAt
  match service.exitEvaluator with
  | none => .ok marked
  | some evaluator =>
      (evaluator.evaluate marked.state features marked.positionMetadata input.startedAt).zipIdx.foldlM
        (service.exitStep input features) marked

end Exits

section Deciding

structure CycleState where
  runtime : RuntimeState
  features : OrderedDict String FeatureVector
  accountState : AccountState
  accountSnapshot : AccountSnapshot
  decisions : List TradeDecision := []

/-- The paper service, in the mode that uses it. -/
def simulated (service : DecisionRuntimeService) (state : RuntimeState) : Option PaperExecutionService :=
  if service.modeSummary.paperExecution then state.paper else none

def shortId (input : CycleInput) : String := String.ofList (input.cycleId.toList.take 8)

def blockedId (label symbol : String) (input : CycleInput) : String :=
  label ++ "-" ++ symbol.toLower ++ "-" ++ shortId input

def openSymbols (paper : Option PaperExecutionService) : List String :=
  match paper with
  | none => []
  | some svc => distinctSymbols
      ((svc.state.positions.values.filter PositionState.isOpen).map PositionState.symbol)

/-- The gates in front of the engine. -/
def gate (service : DecisionRuntimeService) (input : CycleInput) (paper : Option PaperExecutionService)
    (openAtStart : List String) (paperDd : ℚ) (symbol : String) (feature : FeatureVector) :
    Option TradeDecision :=
  if (service.appConfig.nofxStaleKillSeconds : ℚ) < feature.staleSeconds then
    some (.noTrade (blockedId "stale" symbol input) symbol .defense ["nofx feature stale",
      "feature stale for " ++ formatFixed 1 feature.staleSeconds ++ "s"])
  else if paper.any fun svc =>
      svc.isInCooldown symbol input.startedAt service.appConfig.exitCooldownMinutes then
    some (.noTrade (blockedId "cooldown" symbol input) symbol .unknown ["exit cooldown active",
      "cooldown " ++ formatFixed 0 service.appConfig.exitCooldownMinutes ++ "min"])
  else if symbol ∈ openAtStart then
    some (.noTrade (blockedId "already-open" symbol input) symbol .unknown ["position already open",
      symbol ++ " has existing position"])
  else if paper.isSome ∧ openAtStart ≠ [] ∧ paperDd ≤ ({} : RiskPolicy).dailyDrawdownSoftPct then
    some (.noTrade (blockedId "drawdown-gate" symbol input) symbol .defense
      ["drawdown soft limit reached",
        "drawdown " ++ formatFixed 2 paperDd ++ "% with " ++ toString openAtStart.length ++
          " open positions"])
  else none

/-- The decision for one symbol, and the feature as the engine left it. -/
def decideSymbol (service : DecisionRuntimeService) (input : CycleInput)
    (paper : Option PaperExecutionService) (openAtStart : List String) (paperDd : ℚ)
    (snapshot : AccountSnapshot) (symbol : String) (i : ℕ) (feature : FeatureVector) :
    Except PyError (TradeDecision × FeatureVector) :=
  match service.gate input paper openAtStart paperDd symbol feature with
  | some blocked => .ok (blocked, feature)
  | none => service.decisionEngine.decide feature snapshot (input.decideNow i) (input.decisionId i)

/-- Only the paper account is refreshed between two symbols. -/
def settleDecision (service : DecisionRuntimeService) (input : CycleInput) (decision : TradeDecision)
    (feature : FeatureVector) (decided : CycleState) : Except (CycleState × PyError) CycleState :=
  match service.simulated decided.runtime with
  | none => .ok decided
  | some svc =>
      match svc.applyDecision decision feature input.cycleId input.startedAt with
      | .error error => .error (decided, error)
      | .ok (filled, _) =>
          let stamped := filled.accountState input.startedAt
          .ok { decided with
            runtime := { decided.runtime with paper := some stamped }
            accountState := stamped.state
            accountSnapshot := stamped.state.toSnapshot input.startedAt stamped.drawdownPct }

def decideStep (service : DecisionRuntimeService) (input : CycleInput) (openAtStart : List String)
    (paperDd : ℚ) (s : CycleState) (item : String × ℕ) : Except (CycleState × PyError) CycleState :=
  let (symbol, i) := item
  match s.features.get? symbol with
  | none => .ok s
  | some feature =>
      match service.decideSymbol input (service.simulated s.runtime) openAtStart paperDd
          s.accountSnapshot symbol i feature with
      | .error error => .error (s, error)
      | .ok (decision, feature) =>
          let entry := service.buildJournalEntry input (input.entryTs i) symbol feature decision
            s.accountSnapshot (service.buildOrderRequestPreview decision)
          service.settleDecision input decision feature { s with
            runtime := s.runtime.record service.decisionStream entry
            features := s.features.set symbol feature
            decisions := s.decisions ++ [decision] }

end Deciding

section Cycle

/-- The account the decisions are made on: the paper account after its exits,
or the reconciled one. -/
def settleAccount (service : DecisionRuntimeService) (input : CycleInput)
    (features : OrderedDict String FeatureVector) (state : RuntimeState) :
    Except (RuntimeState × PyError) CycleState :=
  match service.simulated state with
  | some svc =>
      match service.exitPhase input features svc with
      | .error (left, error) => .error ({ state with paper := some left }, error)
      | .ok exited =>
          let stamped := exited.accountState input.startedAt
          .ok { runtime := { state with paper := some stamped }, features
                accountState := stamped.state
                accountSnapshot := stamped.state.toSnapshot input.startedAt stamped.drawdownPct }
  | none =>
      match input.reconciled with
      | .error error => .error (state, error)
      | .ok account => .ok { runtime := state, features, accountState := account
                             accountSnapshot := account.toSnapshot input.startedAt 0 }

def decidePhase (service : DecisionRuntimeService) (input : CycleInput) (s : CycleState) :
    Except (CycleState × PyError) CycleState :=
  let paper := service.simulated s.runtime
  let paperDd := (paper.map PaperExecutionService.drawdownPct).getD 0
  service.configuredSymbols.zipIdx.foldlM (service.decideStep input (openSymbols paper) paperDd) s

/-- One cycle: the state it leaves, and its result or the exception it raised. -/
def runCycle (service : DecisionRuntimeService) (state : RuntimeState) (input : CycleInput) :
    RuntimeState × Except PyError DecisionRuntimeResult :=
  let (collected, features) := service.collectFeatures input (service.recordGlobalData input state)
  match service.settleAccount input features collected with
  | .error (left, error) => (left, .error error)
  | .ok s =>
      match service.decidePhase input s with
      | .error (left, error) => (left.runtime, .error error)
      | .ok s => (s.runtime, .ok { cycleId := input.cycleId, accountState := s.accountState
                                   decisions := s.decisions })

end Cycle

end DecisionRuntimeService

end CatsPy
