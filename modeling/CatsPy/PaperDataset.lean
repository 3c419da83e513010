import CatsPy.DecisionRuntime

/-!
# Paper dataset

The reader of the paper journal: one row for each logged decision, joined with
the last fill of its id and the last account record of its cycle.
-/
namespace CatsPy
open PythonValues

namespace PaperDatasetService

/-- `read_stream`: only records that are dicts are read back. -/
def readRecords (storage : JsonlStorage) (stream : String) : List PyValue :=
  (storage.readStream stream).filter isDict

/-- The last record of each value of the key; records without it are skipped. -/
def groupLastByKey (items : List PyValue) (key : String) : OrderedDict String PyValue :=
  .ofList (items.filterMap fun item =>
    match item.item key with
    | .none => none
    | value => some (value.toStr, item))

def groupByDecisionId (items : List PyValue) : OrderedDict String PyValue :=
  groupLastByKey items "decision_id"

/-- `(record or {}).get(key)` for a record found by its key, or not. -/
def column (record : Option PyValue) (key : String) : String × PyValue :=
  (key, ((record.getD .none).or (.dict [])).item key)

def fillColumns : List String :=
  ["fill_price", "fill_quantity", "realized_pnl_delta", "resulting_quantity", "turnover_notional_delta",
    "fee_paid_delta"]

def pnlColumns : List String :=
  ["wallet_balance", "realized_pnl", "funding_pnl", "funding_pnl_delta", "fees_paid", "turnover_notional",
    "unrealized_pnl", "equity", "gross_exposure", "open_positions"]

/-- `str(value or "")`. -/
def textOrEmpty (value : PyValue) : String := (value.or (.str "")).toStr

/-- The id is looked up inside the record's own `decision`. -/
def decisionIdOf (decision : PyValue) : Except PyError String := do
  let nested ← decision.get "decision" (.dict [])
  let decisionId ← nested.get "decision_id"
  return textOrEmpty decisionId

def buildRow (fills pnlByCycle : OrderedDict String PyValue) (decision : PyValue) :
    Except PyError PyValue := do
  let decisionId ← decisionIdOf decision
  let cycleId := textOrEmpty (decision.item "cycle_id")
  let risk := (decision.item "risk").or (.dict [])
  let riskStatus ← risk.get "status"
  let riskReason ← risk.get "reason"
  let approvedNotional ← risk.get "approved_notional"
  let approvedLeverage ← risk.get "approved_leverage"
  return .dict ([("ts", decision.item "ts"), ("cycle_id", .str cycleId), ("decision_id", .str decisionId),
    ("mode", decision.item "mode"), ("symbol", decision.item "symbol"),
    ("symbol_source", decision.item "symbol_source"), ("decision_status", decision.item "decision_status"),
    ("regime", decision.item "regime"), ("selected_strategy", decision.item "selected_strategy"),
    ("action_score", decision.item "action_score"),
    ("feature_stale_seconds", decision.item "feature_stale_seconds"), ("risk_status", riskStatus),
    ("risk_reason", riskReason), ("approved_notional", approvedNotional),
    ("approved_leverage", approvedLeverage)] ++
    fillColumns.map (column (fills.get? decisionId)) ++ pnlColumns.map (column (pnlByCycle.get? cycleId)))

def buildDatasetRows (storage : JsonlStorage) : Except PyError (List PyValue) :=
  let decisions := readRecords storage "paper_decision_log"
  let fills := groupByDecisionId (readRecords storage "paper_fill_log")
  let pnlByCycle := groupLastByKey (readRecords storage "paper_pnl_log") "cycle_id"
  decisions.mapM (buildRow fills pnlByCycle)

/-- `_sum(rows, key)`. -/
def sumOf (rows : List PyValue) (key : String) : Except PyError ℚ := do
  let amounts ← rows.mapM fun row => toFloat ((row.item key).or (.float 0))
  return amounts.sum

end PaperDatasetService

end CatsPy
