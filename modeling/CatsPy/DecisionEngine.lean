import CatsPy.SignalStrategies
import CatsPy.RiskKernel
import Mathlib.Data.List.Sort

/-!
# Decision engine

Feature enrichment, regime detection, scoring and the choice of the first
approved candidate. The clock reading and the decision id are arguments.
-/
namespace CatsPy
open PythonValues

/-- `FeatureEngine.enrich`: the derived scores, written back into the feature. -/
def enrich (feature : FeatureVector) (now : Datetime) : FeatureVector :=
  let staleSeconds := max (totalSeconds now feature.ts) 0
  let queryHeat : ℚ := if rankOrCold feature ≤ 5 then 1 / 100 else 0
  { feature with
    staleSeconds := staleSeconds
    trendScore := feature.priceChange15m + feature.priceChange1h + feature.priceChange4h
    flowScore := feature.instFutureFlow15m + feature.instFutureFlow1h + feature.instFutureFlow4h
    oiScore := feature.oiBinance1h + feature.oiBybit1h
    crowdingScore := |feature.fundingRate| + queryHeat
    sourceFreshness := max 0 (1 - min staleSeconds 45 / 45) }

/-- `RegimeEngine.detect`. -/
def detect (feature : FeatureVector) : MarketRegime :=
  if 45 < feature.staleSeconds then .defense
  else if 3 / 100 < feature.crowdingScore then .crowding
  else if 5 / 100 < |feature.trendScore| ∧ 5 / 1000 < |feature.oiScore| then .trend
  else if 0 < |feature.heatmapDelta| ∧ |feature.trendScore| ≤ 5 / 100 then .range
  else .unknown

namespace MetaAllocator

def heatmapAlignment (signal : SignalCandidate) (feature : FeatureVector) : ℚ :=
  if signal.side = .buy ∧ 0 < feature.heatmapDelta then 3
  else if signal.side = .sell ∧ feature.heatmapDelta < 0 then 3
  else if feature.heatmapDelta ≠ 0 then -3 / 2
  else 0

/-- Regime bonus and crowding adjustment of the strategy behind the signal. -/
def strategyTerms (signal : SignalCandidate) (feature : FeatureVector) (regime : MarketRegime) : ℚ × ℚ :=
  let hotBonus : ℚ := if rankOrCold feature ≤ 5 then 3 / 2 else 0
  if signal.strategyName = "trend_following" then
    (if regime = .trend then 4 else -2, -|feature.fundingRate| * 2000)
  else if signal.strategyName = "crowding_reversal" then
    (if regime = .crowding then 4 else -1, |feature.fundingRate| * 1500 + hotBonus)
  else if signal.strategyName = "range_reversion" then
    (if regime = .range then 7 / 2 else -3 / 2,
      max 0 (25 / 10000 - |feature.fundingRate|) * 1200 + hotBonus * (1 / 2))
  else (0, 0)

/-- Rounded to four decimals, ties to even. -/
def score (signal : SignalCandidate) (feature : FeatureVector) (regime : MarketRegime) : ℚ :=
  let base := signal.expectedEdgeBps * max signal.conviction (1 / 10)
  let stalePenalty := min feature.staleSeconds 45 * (2 / 10)
  let (regimeBonus, crowdingAdjustment) := strategyTerms signal feature regime
  RoundingGrid.quantize RoundingGrid.halfEven (1 / 10000)
    (base + heatmapAlignment signal feature + regimeBonus + crowdingAdjustment - stalePenalty)

end MetaAllocator

structure DecisionEngine where
  strategies : List Strategy
  riskKernel : RiskKernel

namespace DecisionEngine

/-- The scored candidates and the skip texts, in strategy order. -/
def candidates (engine : DecisionEngine) (feature : FeatureVector) (regime : MarketRegime) :
    List SignalCandidate :=
  engine.strategies.filterMap fun strategy => (strategy.generate feature).map fun signal =>
    let labelled := { signal with regime }
    { labelled with actionScore := MetaAllocator.score labelled feature regime }

def strategySkips (engine : DecisionEngine) (feature : FeatureVector) : List String :=
  (engine.strategies.filter fun strategy => (strategy.generate feature).isNone).map
    fun strategy => strategy.skipReason feature

/-- `sorted(..., reverse=True)` by score; equal scores keep strategy order. -/
def ranked (signals : List SignalCandidate) : List SignalCandidate :=
  signals.insertionSort fun a b => b.actionScore ≤ a.actionScore

/-- The first candidate with a positive score that the kernel approves, or the
reasons for passing over every one. -/
def firstApproved (kernel : RiskKernel) (account : AccountSnapshot) :
    List SignalCandidate → List String → Except PyError (List String ⊕ SignalCandidate × RiskDecision)
  | [], reasons => .ok (.inl reasons)
  | signal :: rest, reasons =>
      if signal.actionScore ≤ 0 then
        firstApproved kernel account rest (reasons ++ [signal.strategyName ++ ": action_score <= 0"])
      else
        match kernel.evaluate signal account with
        | .error e => .error e
        | .ok risk =>
            if risk.status ≠ .approved then
              firstApproved kernel account rest
                (reasons ++ [signal.strategyName ++ ": risk rejected (" ++ risk.reason ++ ")"])
            else .ok (.inr (signal, risk))

/-- The decision and the feature as enrichment left it. -/
def decide (engine : DecisionEngine) (feature : FeatureVector) (account : AccountSnapshot)
    (now : Datetime) (decisionId : String) : Except PyError (TradeDecision × FeatureVector) :=
  let enriched := enrich feature now
  let regime := detect enriched
  if regime = .defense then
    .ok (.noTrade decisionId enriched.symbol regime
      ["regime switched to DEFENSE", "new entries are disabled until freshness recovers"], enriched)
  else if engine.candidates enriched regime = [] then
    .ok (.noTrade decisionId enriched.symbol regime
      ("no strategy produced a valid candidate" :: engine.strategySkips enriched), enriched)
  else
    match firstApproved engine.riskKernel account (ranked (engine.candidates enriched regime)) [] with
    | .error e => .error e
    | .ok (.inr (signal, risk)) =>
        .ok (.execute decisionId signal.symbol signal.regime signal.side signal.rationale risk
          signal.actionScore (some signal.strategyName), enriched)
    | .ok (.inl reasons) =>
        .ok (.noTrade decisionId enriched.symbol regime
          (if reasons = [] then ["all candidate actions were dominated by NO_TRADE"] else reasons),
          enriched)

end DecisionEngine

end CatsPy
