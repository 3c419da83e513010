import CatsPy.PaperExecution

/-!
# Position exits

The evaluator that closes paper positions: stop loss, take profit, holding
time, trailing stop and signal reversal, checked in that order.
-/
namespace CatsPy
open PythonValues

structure ExitConfig where
  stopLossPct : ℚ := 15 / 1000
  takeProfitPct : ℚ := 2 / 100
  maxHoldHours : ℚ := 12
  trailingStopPct : ℚ := 25 / 1000

structure PositionExitEvaluator where
  config : ExitConfig := {}

namespace PositionExitEvaluator

def signalReversal (position : PositionState) (feature : FeatureVector) : Bool :=
  match position.direction with
  | .long => feature.trendScore < -3 / 100 ∧ feature.flowScore < 0
  | .short => 3 / 100 < feature.trendScore ∧ 0 < feature.flowScore
  | .flat => false

/-- How far the mark has come back from the best price since entry. -/
def retrace (position : PositionState) (peakPrice : ℚ) : ℚ :=
  if position.direction = .long then (peakPrice - position.markPrice) / peakPrice
  else (position.markPrice - peakPrice) / peakPrice

/-- The exits that need the entry metadata. -/
def checkHolding (evaluator : PositionExitEvaluator) (position : PositionState)
    (entryMeta : PositionEntryMeta) (now : Datetime) : Option String :=
  if evaluator.config.maxHoldHours ≤ totalSeconds now entryMeta.entryTime / 3600 then
    some "exit_max_hold_time"
  else if 0 < entryMeta.peakPrice ∧
      evaluator.config.trailingStopPct ≤ retrace position entryMeta.peakPrice then
    some "exit_trailing_stop"
  else none

def checkExit (evaluator : PositionExitEvaluator) (position : PositionState)
    (feature : FeatureVector) (entryMeta : Option PositionEntryMeta) (now : Datetime) :
    Option String :=
  let entryNotional := |position.entryPrice * position.quantity|
  let pnlRatio := position.unrealizedPnl / entryNotional
  if entryNotional < 1 then none
  else if pnlRatio ≤ -evaluator.config.stopLossPct then some "exit_stop_loss"
  else if evaluator.config.takeProfitPct ≤ pnlRatio then some "exit_take_profit"
  else (entryMeta.bind fun held => evaluator.checkHolding position held now).or
    (if signalReversal position feature then some "exit_signal_reversal" else none)

/-- The texts the checks return. -/
def exitReasons : List String :=
  ["exit_stop_loss", "exit_take_profit", "exit_max_hold_time", "exit_trailing_stop", "exit_signal_reversal"]

theorem checkHolding_reason {evaluator : PositionExitEvaluator} {position : PositionState}
    {entryMeta : Option PositionEntryMeta} {now : Datetime} {reason : String}
    (due : (entryMeta.bind fun held => evaluator.checkHolding position held now) = some reason) :
    reason ∈ exitReasons := by
  obtain ⟨held, -, checked⟩ := Option.bind_eq_some_iff.mp due
  simp only [checkHolding] at checked
  split_ifs at checked <;> cases checked <;> decide

theorem checkExit_reason {evaluator : PositionExitEvaluator} {position : PositionState} {feature : FeatureVector}
    {entryMeta : Option PositionEntryMeta} {now : Datetime} {reason : String}
    (due : evaluator.checkExit position feature entryMeta now = some reason) : reason ∈ exitReasons := by
  simp only [checkExit] at due
  split_ifs at due with small stopped taken reversed
  · cases due
    decide
  · cases due
    decide
  · rcases Option.or_eq_some_iff.mp due with held | ⟨-, same⟩
    · exact checkHolding_reason held
    · cases same
      decide
  · rw [Option.or_none] at due
    exact checkHolding_reason due

def closeSide (position : PositionState) : Side :=
  if position.direction = .long then .sell else .buy

/-- An exit is sized at the mark price and passes no risk gate. -/
def exitRisk (position : PositionState) : RiskDecision where
  status := .approved
  reason := "exit approved (no risk gate for exits)"
  symbolTier := some .core
  approvedNotional := |position.markPrice * position.quantity|
  approvedLeverage := position.leverage
  riskBudgetBps := 0

def buildExitDecision (position : PositionState) (exitReason : String) : TradeDecision :=
  .execute (exitReason ++ "-" ++ position.symbol.toLower) position.symbol .unknown (closeSide position)
    [exitReason, "closing " ++ position.direction.value ++ " position"] (exitRisk position)
    0 (some exitReason)

/-- The exit of one stored position, if it is open and has a feature. -/
def exitFor (evaluator : PositionExitEvaluator) (features : OrderedDict String FeatureVector)
    (metadata : OrderedDict String PositionEntryMeta) (now : Datetime) (position : PositionState) :
    Option TradeDecision :=
  if !position.isOpen then none
  else do
    let feature ← features.get? position.symbol
    let reason ← evaluator.checkExit position feature (metadata.get? position.symbol) now
    return buildExitDecision position reason

def evaluate (evaluator : PositionExitEvaluator) (accountState : AccountState)
    (features : OrderedDict String FeatureVector) (metadata : OrderedDict String PositionEntryMeta)
    (now : Datetime) : List TradeDecision :=
  accountState.positions.values.filterMap (evaluator.exitFor features metadata now)

theorem exitFor_eq_some_iff {evaluator : PositionExitEvaluator} {features : OrderedDict String FeatureVector}
    {metadata : OrderedDict String PositionEntryMeta} {now : Datetime} {position : PositionState}
    {exit : TradeDecision} : evaluator.exitFor features metadata now position = some exit ↔
      position.isOpen = true ∧ ∃ feature reason, features.get? position.symbol = some feature ∧
        evaluator.checkExit position feature (metadata.get? position.symbol) now = some reason ∧
        exit = buildExitDecision position reason := by
  cases opened : position.isOpen with
  | false => simp [exitFor, opened]
  | true =>
      cases known : features.get? position.symbol with
      | none => simp [exitFor, opened, known]
      | some feature =>
          cases due : evaluator.checkExit position feature (metadata.get? position.symbol) now with
          | none => simp [exitFor, opened, known, due]
          | some reason => simp [exitFor, opened, known, due, eq_comm]

theorem exitFor_eq_some {evaluator : PositionExitEvaluator} {features : OrderedDict String FeatureVector}
    {metadata : OrderedDict String PositionEntryMeta} {now : Datetime} {position : PositionState}
    {exit : TradeDecision} (closes : evaluator.exitFor features metadata now position = some exit) :
    position.isOpen = true ∧ (∃ feature, features.get? position.symbol = some feature) ∧
      ∃ reason, exit = buildExitDecision position reason := by
  obtain ⟨opened, feature, reason, known, -, built⟩ := exitFor_eq_some_iff.mp closes
  exact ⟨opened, ⟨feature, known⟩, reason, built⟩

/-- Every exit closes a stored open position that has a feature. -/
theorem mem_evaluate {evaluator : PositionExitEvaluator} {accountState : AccountState}
    {features : OrderedDict String FeatureVector} {metadata : OrderedDict String PositionEntryMeta}
    {now : Datetime} {exit : TradeDecision}
    (listed : exit ∈ evaluator.evaluate accountState features metadata now) :
    ∃ position ∈ accountState.positions.values, position.isOpen = true ∧
      (∃ feature, features.get? position.symbol = some feature) ∧
      ∃ reason, exit = buildExitDecision position reason := by
  obtain ⟨position, stored, closes⟩ := List.mem_filterMap.mp listed
  exact ⟨position, stored, exitFor_eq_some closes⟩

/-- At most one exit for each stored symbol. -/
theorem evaluate_symbols_nodup (evaluator : PositionExitEvaluator) {accountState : AccountState}
    (features : OrderedDict String FeatureVector) (metadata : OrderedDict String PositionEntryMeta)
    (now : Datetime) (distinct : (accountState.positions.values.map PositionState.symbol).Nodup) :
    ((evaluator.evaluate accountState features metadata now).map TradeDecision.symbol).Nodup := by
  rw [List.Nodup, List.pairwise_map] at distinct ⊢
  apply distinct.filterMap
  intro first second differ exit exit_eq other other_eq
  obtain ⟨-, -, reason, rfl⟩ := exitFor_eq_some exit_eq
  obtain ⟨-, -, reason', rfl⟩ := exitFor_eq_some other_eq
  exact differ

end PositionExitEvaluator

end CatsPy
