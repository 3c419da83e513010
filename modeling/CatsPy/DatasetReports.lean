import CatsPy.FillAttribution
import CatsPy.Grouping

/-!
# Dataset reports

The summary of the dataset rows and their aggregates by strategy, by regime and
by symbol source. Each of the three groupings accounts for every row once.
-/
namespace CatsPy
open PythonValues StateRuns

namespace PaperDatasetService

/-- `row.get("decision_status") == status`. -/
def hasStatus (status : String) (row : PyValue) : Bool := asText (row.item "decision_status") = some status

/-- `float(row.get(key) or 0.0)`. -/
def amountOf (key : String) (row : PyValue) : Except PyError ℚ := toFloat ((row.item key).or (.float 0))

structure PaperReplaySummary where
  totalDecisions : ℕ
  executedDecisions : ℕ
  noTradeDecisions : ℕ
  realizedPnl : ℚ
  endingEquity : ℚ
  endingGrossExposure : ℚ

/-- `build_summary`. -/
def buildSummary (rows : List PyValue) : Except PyError PaperReplaySummary := do
  let endingRow := rows.getLast?.getD (.dict [])
  let realizedPnl ← amountOf "realized_pnl" endingRow
  let endingEquity ← amountOf "equity" endingRow
  let endingGrossExposure ← amountOf "gross_exposure" endingRow
  return {
    totalDecisions := rows.length
    executedDecisions := (rows.filter (hasStatus "EXECUTE")).length
    noTradeDecisions := (rows.filter (hasStatus "NO_TRADE")).length
    realizedPnl, endingEquity, endingGrossExposure }

/-- `asdict(summary)`. -/
def PaperReplaySummary.payload (summary : PaperReplaySummary) : PyValue := .dict [
  ("total_decisions", .int summary.totalDecisions), ("executed_decisions", .int summary.executedDecisions),
  ("no_trade_decisions", .int summary.noTradeDecisions), ("realized_pnl", .float summary.realizedPnl),
  ("ending_equity", .float summary.endingEquity), ("ending_gross_exposure", .float summary.endingGrossExposure)]

structure AggregateRow where
  groupBy : String
  groupValue : String
  totalDecisions : ℕ
  executedDecisions : ℕ
  executeRate : ℚ
  avgActionScore : ℚ
  avgApprovedNotional : ℚ
  totalRealizedPnlDelta : ℚ
  totalFeePaidDelta : ℚ
  totalTurnoverNotionalDelta : ℚ

def AggregateRow.payload (row : AggregateRow) : PyValue := .dict [
  ("group_by", .str row.groupBy), ("group_value", .str row.groupValue),
  ("total_decisions", .int row.totalDecisions), ("executed_decisions", .int row.executedDecisions),
  ("execute_rate", .float row.executeRate), ("avg_action_score", .float row.avgActionScore),
  ("avg_approved_notional", .float row.avgApprovedNotional),
  ("total_realized_pnl_delta", .float row.totalRealizedPnlDelta),
  ("total_fee_paid_delta", .float row.totalFeePaidDelta),
  ("total_turnover_notional_delta", .float row.totalTurnoverNotionalDelta)]

def groupings : List String := ["selected_strategy", "regime", "symbol_source"]

/-- `str(row.get(group_by) or "unknown")`. -/
def groupValueOf (groupBy : String) (row : PyValue) : String := ((row.item groupBy).or (.str "unknown")).toStr

/-- `_average(rows, key)`. -/
def averageOf (rows : List PyValue) (key : String) : Except PyError ℚ := do
  let values ← rows.mapM (amountOf key)
  return if values = [] then 0 else values.sum / values.length

def aggregateGroup (groupBy groupValue : String) (groupRows : List PyValue) : Except PyError AggregateRow := do
  let executedRows := groupRows.filter (hasStatus "EXECUTE")
  let avgActionScore ← averageOf groupRows "action_score"
  let avgApprovedNotional ← averageOf executedRows "approved_notional"
  let totalRealizedPnlDelta ← sumOf executedRows "realized_pnl_delta"
  let totalFeePaidDelta ← sumOf executedRows "fee_paid_delta"
  let totalTurnoverNotionalDelta ← sumOf executedRows "turnover_notional_delta"
  return {
    groupBy, groupValue
    totalDecisions := groupRows.length
    executedDecisions := executedRows.length
    executeRate := if groupRows = [] then 0 else executedRows.length / groupRows.length
    avgActionScore, avgApprovedNotional, totalRealizedPnlDelta, totalFeePaidDelta, totalTurnoverNotionalDelta }

/-- `build_aggregate_rows`: one row for each value of each grouping. -/
def buildAggregateRows (rows : List PyValue) : Except PyError (List AggregateRow) := do
  let blocks ← groupings.mapM fun groupBy =>
    (Grouping.grouped (groupValueOf groupBy) rows).entries.mapM fun group =>
      aggregateGroup groupBy group.1 group.2
  return blocks.flatten

section Amounts

/-- The amount of a row whose field can be read as a number. -/
def amountD (key : String) (row : PyValue) : ℚ := (amountOf key row).toOption.getD 0

theorem mapM_amountOf {key : String} {rows : List PyValue} {amounts : List ℚ}
    (read : rows.mapM (amountOf key) = .ok amounts) :
    (∀ row ∈ rows, (amountOf key row).isOk = true) ∧ amounts = rows.map (amountD key) := by
  induction rows generalizing amounts with
  | nil =>
      cases read
      exact ⟨List.forall_mem_nil _, rfl⟩
  | cons row rows ih =>
      rw [List.mapM_cons] at read
      obtain ⟨amount, first, read⟩ := bind_ok read
      obtain ⟨others, rest, read⟩ := bind_ok read
      cases read
      obtain ⟨readable, same⟩ := ih rest
      refine ⟨List.forall_mem_cons.mpr ⟨by rw [first]; rfl, readable⟩, ?_⟩
      rw [List.map_cons, ← same, amountD, first]
      rfl

theorem mapM_amountOf_readable {key : String} {rows : List PyValue}
    (readable : ∀ row ∈ rows, (amountOf key row).isOk = true) :
    rows.mapM (amountOf key) = .ok (rows.map (amountD key)) := by
  have returned : (rows.mapM (amountOf key)).isOk = true := by
    rw [mapM_isOk]
    exact List.all_eq_true.mpr readable
  cases read : rows.mapM (amountOf key) with
  | error e =>
      rw [read] at returned
      cases returned
  | ok amounts => rw [(mapM_amountOf read).2]

theorem sumOf_iff {key : String} {rows : List PyValue} {total : ℚ} :
    sumOf rows key = .ok total ↔
      (∀ row ∈ rows, (amountOf key row).isOk = true) ∧ total = (rows.map (amountD key)).sum := by
  constructor
  · intro read
    obtain ⟨amounts, collected, summed⟩ := bind_ok read
    obtain ⟨readable, same⟩ := mapM_amountOf collected
    cases summed
    exact ⟨readable, by rw [same]⟩
  · rintro ⟨readable, rfl⟩
    have collected := mapM_amountOf_readable readable
    have unfolded : sumOf rows key = (rows.mapM (amountOf key) >>= fun amounts => .ok amounts.sum) := rfl
    rw [unfolded, collected]
    rfl

/-- An average times the number of rows is the sum. -/
theorem averageOf_ok {key : String} {rows : List PyValue} {average : ℚ} (read : averageOf rows key = .ok average) :
    sumOf rows key = .ok (rows.length * average) := by
  obtain ⟨amounts, collected, averaged⟩ := bind_ok read
  obtain ⟨readable, same⟩ := mapM_amountOf collected
  cases averaged
  refine sumOf_iff.mpr ⟨readable, ?_⟩
  rw [← same]
  have count : (rows.length : ℚ) = amounts.length := by rw [same, List.length_map]
  by_cases none : amounts = []
  · simp [none, count]
  · have nonzero : (amounts.length : ℚ) ≠ 0 := by simpa using none
    rw [if_neg none, count]
    exact mul_div_cancel₀ _ nonzero

end Amounts

section Groups

/-- What an aggregate row says of its group. -/
structure Reports (groupBy : String) (group : String × List PyValue) (row : AggregateRow) : Prop where
  groupBy : row.groupBy = groupBy
  groupValue : row.groupValue = group.1
  totalDecisions : row.totalDecisions = group.2.length
  present : 0 < row.totalDecisions
  executedDecisions : row.executedDecisions = (group.2.filter (hasStatus "EXECUTE")).length
  executeRate : row.executeRate * row.totalDecisions = row.executedDecisions
  scores : sumOf group.2 "action_score" = .ok (row.totalDecisions * row.avgActionScore)
  notionals : sumOf (group.2.filter (hasStatus "EXECUTE")) "approved_notional" =
    .ok (row.executedDecisions * row.avgApprovedNotional)
  realized : sumOf (group.2.filter (hasStatus "EXECUTE")) "realized_pnl_delta" = .ok row.totalRealizedPnlDelta
  fees : sumOf (group.2.filter (hasStatus "EXECUTE")) "fee_paid_delta" = .ok row.totalFeePaidDelta
  turnover : sumOf (group.2.filter (hasStatus "EXECUTE")) "turnover_notional_delta" =
    .ok row.totalTurnoverNotionalDelta

theorem aggregateGroup_reports {groupBy : String} {group : String × List PyValue} {row : AggregateRow}
    (present : group.2 ≠ []) (built : aggregateGroup groupBy group.1 group.2 = .ok row) :
    Reports groupBy group row := by
  obtain ⟨score, scored, built⟩ := bind_ok built
  obtain ⟨notional, approved, built⟩ := bind_ok built
  obtain ⟨realized, realizedRead, built⟩ := bind_ok built
  obtain ⟨fee, feeRead, built⟩ := bind_ok built
  obtain ⟨turnover, turnoverRead, built⟩ := bind_ok built
  cases built
  have nonzero : (group.2.length : ℚ) ≠ 0 := by simpa using present
  exact {
    groupBy := rfl
    groupValue := rfl
    totalDecisions := rfl
    present := List.length_pos_of_ne_nil present
    executedDecisions := rfl
    executeRate := by
      simp only [if_neg present]
      exact div_mul_cancel₀ _ nonzero
    scores := averageOf_ok scored
    notionals := averageOf_ok approved
    realized := realizedRead
    fees := feeRead
    turnover := turnoverRead }

theorem forall₂_of_mapM {α β : Type} {f : α → Except PyError β} {l : List α} {results : List β}
    (returned : l.mapM f = .ok results) : List.Forall₂ (fun a b => f a = .ok b) l results := by
  induction l generalizing results with
  | nil =>
      cases returned
      exact .nil
  | cons a rest ih =>
      rw [List.mapM_cons] at returned
      obtain ⟨b, first, returned⟩ := bind_ok returned
      obtain ⟨others, more, returned⟩ := bind_ok returned
      cases returned
      exact .cons first (ih more)

theorem map_eq_of_forall₂ {α β γ : Type} {related : α → β → Prop} {f : α → γ} {g : β → γ} {l : List α} {m : List β}
    (pointwise : List.Forall₂ related l m) (same : ∀ a b, related a b → g b = f a) : m.map g = l.map f := by
  induction pointwise with
  | nil => rfl
  | cons first _ ih => rw [List.map_cons, List.map_cons, same _ _ first, ih]

theorem mem_of_forall₂ {α β : Type} {related : α → β → Prop} {l : List α} {m : List β}
    (pointwise : List.Forall₂ related l m) {a : α} (listed : a ∈ l) : ∃ b, related a b := by
  induction pointwise with
  | nil => cases listed
  | cons first _ ih =>
      rcases List.mem_cons.mp listed with rfl | later
      · exact ⟨_, first⟩
      · exact ih later

theorem forall_of_forall₂ {α β : Type} {related : α → β → Prop} {P : β → Prop} {l : List α} {m : List β}
    (pointwise : List.Forall₂ related l m) (each : ∀ a b, related a b → P b) : ∀ b ∈ m, P b := by
  induction pointwise with
  | nil => exact List.forall_mem_nil _
  | cons first _ ih => exact List.forall_mem_cons.mpr ⟨each _ _ first, ih⟩

variable {rows : List PyValue} {groupKey : PyValue → String} {block : List AggregateRow}

/-- Sums read for every group add up to the sum over the rows. -/
theorem sumOf_groups (key : String) (keep : PyValue → Bool) (amount : AggregateRow → ℚ)
    (read : List.Forall₂ (fun group row => sumOf (group.2.filter keep) key = .ok (amount row))
      (Grouping.grouped groupKey rows).entries block) :
    sumOf (rows.filter keep) key = .ok (block.map amount).sum := by
  refine sumOf_iff.mpr ⟨fun row listed => ?_, ?_⟩
  · obtain ⟨known, kept⟩ := List.mem_filter.mp listed
    have inSome := (Grouping.values_grouped_perm groupKey rows).mem_iff.mpr known
    obtain ⟨group, grouped, inside⟩ := List.mem_flatten.mp inSome
    obtain ⟨entry, stored, rfl⟩ := List.mem_map.mp grouped
    obtain ⟨report, sums⟩ := mem_of_forall₂ read stored
    exact (sumOf_iff.mp sums).1 row (List.mem_filter.mpr ⟨inside, kept⟩)
  · have amounts := map_eq_of_forall₂ (f := fun group => ((group.2.filter keep).map (amountD key)).sum) read
      fun _ _ sums => (sumOf_iff.mp sums).2
    rw [amounts, ← Grouping.sum_groups groupKey (amountD key) keep rows, OrderedDict.values, List.map_map]
    rfl

theorem counts_groups (keep : PyValue → Bool) (count : AggregateRow → ℕ)
    (read : List.Forall₂ (fun group row => count row = (group.2.filter keep).length)
      (Grouping.grouped groupKey rows).entries block) : (block.map count).sum = (rows.filter keep).length := by
  have counts := map_eq_of_forall₂ (f := fun group => (group.2.filter keep).length) read fun _ _ same => same
  rw [counts, ← Grouping.count_groups groupKey keep rows, OrderedDict.values, List.map_map]
  rfl

/-- What the aggregate rows of one grouping say: each reports the rows of its own
group, no two the same group, and together they report all rows. -/
structure AccountsFor (groupBy : String) (rows : List PyValue) (block : List AggregateRow) : Prop where
  own : ∀ row ∈ block, Reports groupBy
    (row.groupValue, rows.filter fun known => groupValueOf groupBy known = row.groupValue) row
  distinct : (block.map AggregateRow.groupValue).Nodup
  decisions : (block.map AggregateRow.totalDecisions).sum = rows.length
  executed : (block.map AggregateRow.executedDecisions).sum = (rows.filter (hasStatus "EXECUTE")).length
  rates : ∀ row ∈ block, 0 < row.totalDecisions ∧ row.executeRate * row.totalDecisions = row.executedDecisions
  scores : sumOf rows "action_score" = .ok (block.map fun row => (row.totalDecisions : ℚ) * row.avgActionScore).sum
  notionals : sumOf (rows.filter (hasStatus "EXECUTE")) "approved_notional" =
    .ok (block.map fun row => (row.executedDecisions : ℚ) * row.avgApprovedNotional).sum
  realized : sumOf (rows.filter (hasStatus "EXECUTE")) "realized_pnl_delta" =
    .ok (block.map AggregateRow.totalRealizedPnlDelta).sum
  fees : sumOf (rows.filter (hasStatus "EXECUTE")) "fee_paid_delta" =
    .ok (block.map AggregateRow.totalFeePaidDelta).sum
  turnover : sumOf (rows.filter (hasStatus "EXECUTE")) "turnover_notional_delta" =
    .ok (block.map AggregateRow.totalTurnoverNotionalDelta).sum

theorem accountsFor_of_reports {groupBy : String}
    (reports : List.Forall₂ (Reports groupBy) (Grouping.grouped (groupValueOf groupBy) rows).entries block) :
    AccountsFor groupBy rows block := by
  have all : rows.filter (fun _ => true) = rows := by simp
  have values : block.map AggregateRow.groupValue =
      (Grouping.grouped (groupValueOf groupBy) rows).entries.map Prod.fst :=
    map_eq_of_forall₂ reports fun _ _ report => report.groupValue
  have groups : ∀ group ∈ (Grouping.grouped (groupValueOf groupBy) rows).entries,
      group.2 = rows.filter fun known => groupValueOf groupBy known = group.1 := fun group stored =>
    Grouping.get?_grouped (groupValueOf groupBy) ((OrderedDict.get?_eq_some_iff _ group.1 group.2).mpr stored)
  refine ⟨?_, ?_, ?_, ?_, ?_, ?_, ?_, ?_, ?_, ?_⟩
  · refine forall_of_forall₂ ((List.forall₂_and_left _ _).mpr ⟨groups, reports⟩) ?_
    rintro ⟨value, group⟩ row ⟨same, report⟩
    rw [report.groupValue, ← same]
    exact report
  · rw [values]
    exact (Grouping.grouped (groupValueOf groupBy) rows).nodup
  · rw [← all]
    exact counts_groups _ _ (reports.imp fun _ _ report => by simpa using report.totalDecisions)
  · exact counts_groups _ _ (reports.imp fun _ _ report => report.executedDecisions)
  · exact forall_of_forall₂ reports fun _ _ report => ⟨report.present, report.executeRate⟩
  · rw [← all]
    exact sumOf_groups _ _ _ (reports.imp fun _ _ report => by simpa using report.scores)
  · exact sumOf_groups _ _ _ (reports.imp fun _ _ report => report.notionals)
  · exact sumOf_groups _ _ _ (reports.imp fun _ _ report => report.realized)
  · exact sumOf_groups _ _ _ (reports.imp fun _ _ report => report.fees)
  · exact sumOf_groups _ _ _ (reports.imp fun _ _ report => report.turnover)

theorem aggregateGroups_report {groupBy : String}
    (built : ((Grouping.grouped (groupValueOf groupBy) rows).entries.mapM fun group =>
      aggregateGroup groupBy group.1 group.2) = .ok block) :
    List.Forall₂ (Reports groupBy) (Grouping.grouped (groupValueOf groupBy) rows).entries block := by
  have listed : ∀ group ∈ (Grouping.grouped (groupValueOf groupBy) rows).entries, group.2 ≠ [] :=
    fun group stored => Grouping.group_ne_nil (groupValueOf groupBy) stored
  generalize (Grouping.grouped (groupValueOf groupBy) rows).entries = groups at built listed ⊢
  have pointwise := forall₂_of_mapM built
  clear built
  induction pointwise with
  | nil => exact .nil
  | cons first _ ih =>
      obtain ⟨present, others⟩ := List.forall_mem_cons.mp listed
      exact .cons (aggregateGroup_reports present first) (ih others)

theorem filter_own {name : String} {block : List AggregateRow} (own : ∀ row ∈ block, row.groupBy = name)
    (other : String) : block.filter (fun row => row.groupBy = other) = if name = other then block else [] := by
  split
  next same => exact List.filter_eq_self.mpr fun row listed => by simpa [← same] using own row listed
  next differs =>
    refine List.filter_eq_nil_iff.mpr fun row listed => ?_
    rw [own row listed]
    simpa using differs

theorem filter_absent {names : List String} {blocks : List (List AggregateRow)}
    (own : List.Forall₂ (fun name block => ∀ row ∈ block, row.groupBy = name) names blocks) {name : String}
    (absent : name ∉ names) : blocks.flatten.filter (fun row => row.groupBy = name) = [] := by
  induction own with
  | nil => rfl
  | cons first _ ih =>
      obtain ⟨differs, others⟩ := List.ne_and_not_mem_of_not_mem_cons absent
      rw [List.flatten_cons, List.filter_append, filter_own first, if_neg (Ne.symm differs), ih others,
        List.nil_append]

/-- The rows of one grouping, among those of all groupings. -/
theorem filter_block {names : List String} {blocks : List (List AggregateRow)}
    (own : List.Forall₂ (fun name block => ∀ row ∈ block, row.groupBy = name) names blocks)
    (distinct : names.Nodup) {name : String} (listed : name ∈ names) :
    ∃ block, (name, block) ∈ names.zip blocks ∧ blocks.flatten.filter (fun row => row.groupBy = name) = block := by
  induction own with
  | nil => cases listed
  | @cons head block names blocks first rest ih =>
      obtain ⟨fresh, others⟩ := List.nodup_cons.mp distinct
      by_cases same : head = name
      · refine ⟨block, ?_, ?_⟩
        · rw [same]
          exact List.mem_cons_self
        · rw [List.flatten_cons, List.filter_append, filter_own first, if_pos same,
            filter_absent rest (same ▸ fresh), List.append_nil]
      · obtain ⟨later, paired, filtered⟩ := ih others ((List.mem_cons.mp listed).resolve_left (Ne.symm same))
        refine ⟨later, List.mem_cons_of_mem _ paired, ?_⟩
        rw [List.flatten_cons, List.filter_append, filter_own first, if_neg same, filtered, List.nil_append]

/-- Each grouping accounts for every row once: an aggregate reports the rows of its
group, and the counts, the sums and the weighted averages of the groups are
those of the rows. -/
theorem aggregates_account (rows : List PyValue) {aggregates : List AggregateRow}
    (built : buildAggregateRows rows = .ok aggregates) :
    ∀ groupBy ∈ groupings, AccountsFor groupBy rows (aggregates.filter fun row => row.groupBy = groupBy) := by
  intro groupBy listed
  obtain ⟨blocks, collected, flattened⟩ := bind_ok built
  cases flattened
  have reported := (forall₂_of_mapM collected).imp fun _ _ block => aggregateGroups_report block
  have own := reported.imp fun name _ reports => forall_of_forall₂ reports fun _ _ report => report.groupBy
  obtain ⟨block, paired, filtered⟩ := filter_block own (by decide) listed
  rw [filtered]
  exact accountsFor_of_reports (List.forall₂_zip reported paired)

/-- An executed trend decision and one that was not taken. -/
def twoRows : List PyValue :=
  [.dict [("decision_status", .str "EXECUTE"), ("selected_strategy", .str "trend_following"),
      ("action_score", .float (4 / 5)), ("realized_pnl_delta", .float (1 / 2))],
    .dict [("decision_status", .str "NO_TRADE"), ("regime", .str "RANGE")]]

theorem aggregates_account_two : ∃ aggregates, buildAggregateRows twoRows = .ok aggregates ∧
    ∀ groupBy ∈ groupings, AccountsFor groupBy twoRows (aggregates.filter fun row => row.groupBy = groupBy) := by
  have returned : (buildAggregateRows twoRows).isOk = true := by decide +kernel
  cases built : buildAggregateRows twoRows with
  | error e =>
      rw [built] at returned
      cases returned
  | ok aggregates => exact ⟨aggregates, rfl, aggregates_account twoRows built⟩

end Groups

end PaperDatasetService

end CatsPy
