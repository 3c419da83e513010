import CatsPy.DatasetJoin
import CatsPy.KeyedJoins

/-!
# Which fill a row carries

Rows are joined with fills by the decision id alone. The id of an exit says
what was closed and why, not in which cycle, so that a second exit of the kind
takes over the rows of the first.
-/
namespace CatsPy
open PythonValues StateRuns PositionExitEvaluator

namespace PaperDatasetService

section Keys

def recordId (decision : PyValue) : String := (decisionIdOf decision).toOption.getD ""

/-- The id and the cycle of a logged decision. -/
def recordKey (decision : PyValue) : String × String :=
  (recordId decision, textOrEmpty (decision.item "cycle_id"))

/-- The id and the cycle of a logged fill. -/
def fillKey (fill : PyValue) : String × String :=
  ((fill.item "decision_id").toStr, textOrEmpty (fill.item "cycle_id"))

/-- The id of an exit decision, for one of the evaluator's reasons. -/
def ExitId (id : String) : Prop :=
  ∃ position, ∃ reason ∈ exitReasons, id = (buildExitDecision position reason).decisionId

theorem exitFor_exitId {evaluator : PositionExitEvaluator} {features : OrderedDict String FeatureVector}
    {metadata : OrderedDict String PositionEntryMeta} {now : Datetime} {position : PositionState}
    {exit : TradeDecision} (closes : evaluator.exitFor features metadata now position = some exit) :
    ExitId exit.decisionId := by
  obtain ⟨-, feature, reason, -, due, rfl⟩ := exitFor_eq_some_iff.mp closes
  exact ⟨position, reason, checkExit_reason due, rfl⟩

/-- The id is found where the reader looks, and the record has the shape it expects. -/
structure ReadableDecision (decision : PyValue) : Prop where
  decisionId : ∃ id, decisionIdOf decision = .ok id
  risk : isDict ((decision.item "risk").or (.dict [])) = true

/-- A fill as the account journals it. -/
structure WrittenFill (fill : PyValue) : Prop where
  decisionId : ∃ id, fill.item "decision_id" = .str id
  realized : ∃ q, fill.item "realized_pnl_delta" = .float q

def Filled (fills : List PyValue) (id : String) : Prop := ∃ fill ∈ fills, (fillKey fill).1 = id

/-- The two logs of a run whose ids can be read: every fill is of one logged
decision, and of the ids that were filled only those of exits come back. -/
structure RuntimeLogs (decisions fills : List PyValue) : Prop where
  readable : ∀ decision ∈ decisions, ReadableDecision decision
  written : ∀ fill ∈ fills, WrittenFill fill
  distinct : (decisions.map recordKey).Nodup
  once : (fills.map fillKey).Nodup
  logged : ∀ fill ∈ fills, ∃ decision ∈ decisions, recordKey decision = fillKey fill
  repeated : decisions.Pairwise fun earlier later => recordId earlier = recordId later →
    Filled fills (recordId later) → ExitId (recordId later)

theorem fillRecord_written (decision : TradeDecision) (side : Side) (risk : RiskDecision) (cycleId : String)
    (ts : Datetime) (result : PaperFillResult) (turnoverDelta feeDelta : ℚ) :
    WrittenFill (PaperExecutionService.fillRecord decision side risk cycleId ts result turnoverDelta feeDelta) where
  decisionId := ⟨decision.decisionId, rfl⟩
  realized := ⟨result.realizedPnlDelta, rfl⟩

end Keys

section Joining

variable {decisions fills : List PyValue}

/-- The fill whose columns the row of a decision takes. -/
def joinedFill (fills : List PyValue) (decision : PyValue) : Option PyValue :=
  (groupByDecisionId fills).get? (recordId decision)

/-- The fill of the decision's own id and cycle. -/
def ownFill (fills : List PyValue) (decision : PyValue) : Option PyValue :=
  KeyedJoins.own recordKey fillKey fills decision

theorem joinedFill_eq (written : ∀ fill ∈ fills, WrittenFill fill) (decision : PyValue) :
    joinedFill fills decision = KeyedJoins.joined recordKey fillKey fills decision := by
  have grouped : groupByDecisionId fills = .ofList (fills.map fun fill => ((fillKey fill).1, fill)) := by
    rw [groupByDecisionId, groupLastByKey, ← List.filterMap_eq_map]
    congr 1
    apply List.filterMap_congr
    intro fill listed
    obtain ⟨id, named⟩ := (written fill listed).decisionId
    simp only [named, fillKey, Function.comp_apply]
  rw [joinedFill, grouped, OrderedDict.get?_ofList, OrderedDict.lastWith_map, Option.map_map]
  exact congrFun Option.map_id _

/-- The row names its decision and takes its fill columns from the record. -/
structure Carries (decision : PyValue) (fill : Option PyValue) (row : PyValue) : Prop where
  decisionId : row.item "decision_id" = .str (recordKey decision).1
  cycleId : row.item "cycle_id" = .str (recordKey decision).2
  columns : ∀ key ∈ fillColumns, row.item key = (column fill key).2

theorem buildRow_carries {decision : PyValue} (readable : ReadableDecision decision)
    (grouped pnlByCycle : OrderedDict String PyValue) :
    ∃ row, buildRow grouped pnlByCycle decision = .ok row ∧
      Carries decision (grouped.get? (recordId decision)) row := by
  obtain ⟨id, found⟩ := readable.decisionId
  have named : recordId decision = id := by rw [recordId, found]; rfl
  have sized := readable.risk
  cases risk : (decision.item "risk").or (.dict []) with
  | dict entries =>
      simp only [buildRow, found, risk, PyValue.get, named]
      refine ⟨_, rfl, ?_, rfl, ?_⟩
      · rw [recordKey, named]
        rfl
      · intro key listed
        simp only [fillColumns, List.mem_cons, List.not_mem_nil, or_false] at listed
        rcases listed with rfl | rfl | rfl | rfl | rfl | rfl
        all_goals rfl
  | _ => rw [risk] at sized; cases sized

end Joining

section Totals

def realizedDelta (fill : PyValue) : ℚ :=
  match fill.item "realized_pnl_delta" with
  | .float q => q
  | _ => 0

theorem float_or_zero (q : ℚ) : toFloat ((PyValue.float q).or (.float 0)) = .ok q := by
  by_cases zero : q = 0
  · subst zero
    rfl
  · simp [PyValue.or, PyValue.truthy, zero, toFloat]

theorem WrittenFill.realized_float {fill : PyValue} (written : WrittenFill fill) :
    toFloat ((fill.item "realized_pnl_delta").or (.float 0)) = .ok (realizedDelta fill) := by
  obtain ⟨q, realized⟩ := written.realized
  rw [realizedDelta, realized]
  exact float_or_zero q

/-- A joined fill brings its realized profit into the row, and no fill brings none. -/
theorem column_realized {fill : Option PyValue} (written : ∀ f ∈ fill, WrittenFill f) :
    toFloat ((column fill "realized_pnl_delta").2.or (.float 0)) = .ok ((fill.map realizedDelta).getD 0) := by
  cases fill with
  | none => exact float_or_zero 0
  | some fill =>
      have wrote := written fill rfl
      obtain ⟨id, named⟩ := wrote.decisionId
      have present : fill.truthy = true := by
        cases fill with
        | dict entries =>
            cases entries with
            | nil => cases named
            | cons entry rest => rfl
        | _ => cases named
      simp only [column, Option.getD_some, PyValue.or, present, if_true]
      exact wrote.realized_float

theorem sumOf_eq {key : String} {rows : List PyValue} {amounts : List ℚ}
    (each : List.Forall₂ (fun row amount => toFloat ((row.item key).or (.float 0)) = .ok amount) rows amounts) :
    sumOf rows key = .ok amounts.sum := by
  have collected : (rows.mapM fun row => toFloat ((row.item key).or (.float 0))) = .ok amounts := by
    induction each with
    | nil => rfl
    | cons first _ ih =>
        rw [List.mapM_cons, first, ih]
        rfl
  rw [sumOf, collected]
  rfl

end Totals

section Attribution

variable {decisions fills rows : List PyValue}

/-- Each row carries the fill of its own id and cycle, and the realized profits
of the rows are those of the fills. -/
structure FillsAttributed (decisions fills rows : List PyValue) : Prop where
  joined : ∀ decision ∈ decisions, joinedFill fills decision = ownFill fills decision
  total : sumOf rows "realized_pnl_delta" = sumOf fills "realized_pnl_delta"

/-- No exit id that was filled is logged for a second decision. -/
def FilledExitsDistinct (decisions fills : List PyValue) : Prop :=
  decisions.Pairwise fun earlier later => recordId earlier = recordId later →
    ExitId (recordId later) → ¬ Filled fills (recordId later)

theorem joined_own_iff (logs : RuntimeLogs decisions fills) :
    (∀ decision ∈ decisions, joinedFill fills decision = ownFill fills decision) ↔
      FilledExitsDistinct decisions fills := by
  simp only [joinedFill_eq logs.written]
  refine (KeyedJoins.joined_eq_own_iff logs.once logs.logged).trans ⟨?_, ?_⟩
  · intro separate
    refine (List.pairwise_map.mp logs.distinct).imp_of_mem ?_
    rintro earlier later known known' differ same - ⟨fill, listed, named⟩
    have left := separate fill listed earlier known (named.trans same.symm)
    have right := separate fill listed later known' named
    exact differ (left.symm.trans right)
  · intro apart fill listed decision known shared
    obtain ⟨source, source_known, source_key⟩ := logs.logged fill listed
    by_contra differ
    have other : source ≠ decision := by
      rintro rfl
      exact differ source_key.symm
    have unfilled := (logs.repeated.and apart).imp fun both (same : recordId _ = recordId _) filled =>
      both.2 same (both.1 same filled) filled
    have symmetric : Std.Symm fun a b => recordId a = recordId b → ¬ Filled fills (recordId b) :=
      ⟨fun a b clash same => same ▸ clash same.symm⟩
    have same : recordId source = recordId decision := (congrArg Prod.fst source_key).trans shared
    exact unfilled.forall source_known known other same ⟨fill, listed, shared⟩

/-- Rows that carry their own fills add up to what the fills do. -/
theorem rows_total (logs : RuntimeLogs decisions fills)
    (joined : ∀ decision ∈ decisions, joinedFill fills decision = ownFill fills decision)
    (carried : List.Forall₂ (fun decision row =>
      decision ∈ decisions ∧ Carries decision (joinedFill fills decision) row) decisions rows) :
    sumOf rows "realized_pnl_delta" = sumOf fills "realized_pnl_delta" := by
  have of_rows : sumOf rows "realized_pnl_delta" =
      .ok (decisions.map fun decision => ((ownFill fills decision).map realizedDelta).getD 0).sum := by
    apply sumOf_eq
    rw [List.forall₂_map_right_iff]
    refine carried.flip.imp fun row decision both => ?_
    rw [both.2.columns "realized_pnl_delta" (by decide), joined decision both.1]
    apply column_realized
    intro fill own
    exact logs.written fill ((KeyedJoins.own_eq_some_iff logs.once).mp own).1
  have of_fills : sumOf fills "realized_pnl_delta" = .ok (fills.map realizedDelta).sum := by
    apply sumOf_eq
    rw [List.forall₂_map_right_iff, List.forall₂_same]
    exact fun fill listed => (logs.written fill listed).realized_float
  rw [of_rows, of_fills]
  exact congrArg Except.ok (KeyedJoins.sum_own realizedDelta logs.distinct logs.once logs.logged)

/-- The rows of readable logs, and the exact condition under which each carries
its own fill. -/
theorem fills_attributed_iff (storage : JsonlStorage)
    (logs : RuntimeLogs (readRecords storage "paper_decision_log") (readRecords storage "paper_fill_log")) :
    let decisions := readRecords storage "paper_decision_log"
    let fills := readRecords storage "paper_fill_log"
    ∃ rows, buildDatasetRows storage = .ok rows ∧
      List.Forall₂ (fun decision row => Carries decision (joinedFill fills decision) row) decisions rows ∧
      (FillsAttributed decisions fills rows ↔ FilledExitsDistinct decisions fills) := by
  intro decisions fills
  let pnlByCycle := groupLastByKey (readRecords storage "paper_pnl_log") "cycle_id"
  have each : ∀ decision ∈ decisions, ∃ row, buildRow (groupByDecisionId fills) pnlByCycle decision = .ok row ∧
      decision ∈ decisions ∧ Carries decision (joinedFill fills decision) row := by
    intro decision member
    obtain ⟨row, built, carries⟩ :=
      buildRow_carries (logs.readable decision member) (groupByDecisionId fills) pnlByCycle
    exact ⟨row, built, member, carries⟩
  obtain ⟨rows, built, carried⟩ := mapM_forall₂ each
  refine ⟨rows, built, carried.imp fun decision row both => both.2, ?_, ?_⟩
  · intro attributed
    exact (joined_own_iff logs).mp attributed.joined
  · intro apart
    have joined := (joined_own_iff logs).mpr apart
    exact ⟨joined, rows_total logs joined carried⟩

end Attribution

section Samples

def stopLossExit (symbol : String) : TradeDecision :=
  buildExitDecision { symbol, positionSide := "BOTH", updatedAt := 0 } "exit_stop_loss"

/-- A decision record whose id can be read. -/
def readableRecord (decision : TradeDecision) (cycleId : String) : PyValue :=
  .dict [("cycle_id", .str cycleId), ("decision", .dict [("decision_id", .str decision.decisionId)])]

def stopLossFill (symbol : String) (cycleId : String) (realized : ℚ) : PyValue :=
  let result : PaperFillResult :=
    { symbol, fillPrice := 90, fillQuantity := 1, realizedPnlDelta := realized, resultingQuantity := 0 }
  PaperExecutionService.fillRecord (stopLossExit symbol) .sell { status := .approved, reason := "approved" }
    cycleId 0 result 90 0

/-- Two positions stopped out in two cycles, losing 20 and 30. -/
def stopsLog (first second : String) : JsonlStorage :=
  .ofList [("paper_decision_log",
      [readableRecord (stopLossExit first) "first", readableRecord (stopLossExit second) "second"]),
    ("paper_fill_log", [stopLossFill first "first" (-20), stopLossFill second "second" (-30)])]

theorem stopsLog_runtime (first second : String) :
    RuntimeLogs (readRecords (stopsLog first second) "paper_decision_log")
      (readRecords (stopsLog first second) "paper_fill_log") := by
  have logged : readRecords (stopsLog first second) "paper_decision_log" =
      [readableRecord (stopLossExit first) "first", readableRecord (stopLossExit second) "second"] := rfl
  have filled : readRecords (stopsLog first second) "paper_fill_log" =
      [stopLossFill first "first" (-20), stopLossFill second "second" (-30)] := rfl
  have record_key (symbol cycleId : String) : recordKey (readableRecord (stopLossExit symbol) cycleId) =
      ((stopLossExit symbol).decisionId, textOrEmpty (.str cycleId)) := rfl
  have fill_key (symbol cycleId : String) (realized : ℚ) : fillKey (stopLossFill symbol cycleId realized) =
      ((stopLossExit symbol).decisionId, textOrEmpty (.str cycleId)) := rfl
  have cycles : textOrEmpty (.str "first") ≠ textOrEmpty (.str "second") := by decide
  rw [logged, filled]
  constructor
  · intro decision member
    simp only [List.mem_cons, List.not_mem_nil, or_false] at member
    rcases member with rfl | rfl
    · exact ⟨⟨_, rfl⟩, rfl⟩
    · exact ⟨⟨_, rfl⟩, rfl⟩
  · intro fill member
    simp only [List.mem_cons, List.not_mem_nil, or_false] at member
    rcases member with rfl | rfl
    · exact fillRecord_written _ _ _ _ _ _ _ _
    · exact fillRecord_written _ _ _ _ _ _ _ _
  · simp [record_key, cycles]
  · simp [fill_key, cycles]
  · simp [record_key, fill_key]
  · simp only [List.pairwise_cons, List.mem_singleton, forall_eq]
    refine ⟨fun _ _ => ⟨_, "exit_stop_loss", by decide, rfl⟩, ?_⟩
    simp

/-- The second stop of one symbol takes over the row of the first. -/
theorem repeated_stop_misattributed :
    let decisions := readRecords (stopsLog "BTCUSDT" "BTCUSDT") "paper_decision_log"
    let fills := readRecords (stopsLog "BTCUSDT" "BTCUSDT") "paper_fill_log"
    RuntimeLogs decisions fills ∧
      (buildDatasetRows (stopsLog "BTCUSDT" "BTCUSDT")).toOption.map (fun rows => rows.map realizedDelta) =
        some [-30, -30] ∧
      fills.map realizedDelta = [-20, -30] ∧
      ∀ rows, buildDatasetRows (stopsLog "BTCUSDT" "BTCUSDT") = .ok rows →
        ¬ FillsAttributed decisions fills rows := by
  refine ⟨stopsLog_runtime _ _, by decide +kernel, by decide +kernel, ?_⟩
  intro rows _ attributed
  have first := attributed.joined (readableRecord (stopLossExit "BTCUSDT") "first") List.mem_cons_self
  exact absurd (congrArg (Option.map realizedDelta) first) (by decide +kernel)

/-- Stops of two symbols are told apart. -/
theorem fills_attributed_stops :
    ∃ rows, buildDatasetRows (stopsLog "BTCUSDT" "ETHUSDT") = .ok rows ∧
      FillsAttributed (readRecords (stopsLog "BTCUSDT" "ETHUSDT") "paper_decision_log")
        (readRecords (stopsLog "BTCUSDT" "ETHUSDT") "paper_fill_log") rows := by
  obtain ⟨rows, built, -, exact_condition⟩ :=
    fills_attributed_iff (stopsLog "BTCUSDT" "ETHUSDT") (stopsLog_runtime _ _)
  refine ⟨rows, built, exact_condition.mpr ?_⟩
  have differ : recordId (readableRecord (stopLossExit "BTCUSDT") "first") ≠
      recordId (readableRecord (stopLossExit "ETHUSDT") "second") := by decide +kernel
  refine List.pairwise_cons.mpr ⟨?_, List.pairwise_singleton _ _⟩
  intro later member same
  rw [List.mem_singleton.mp member] at same
  exact absurd same differ

end Samples

end PaperDatasetService

end CatsPy
