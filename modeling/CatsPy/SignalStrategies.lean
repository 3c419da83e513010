import CatsPy.DomainModels

/-!
# Signal strategies

The three shipped rule sets. Each maps an enriched feature to at most one
candidate; `skipReason` is the text journalled when it maps to none.
-/
namespace CatsPy

structure Strategy where
  name : String
  generate : FeatureVector → Option SignalCandidate
  skipReason : FeatureVector → String

/-- `feature.query_rank or 999`: a missing rank and rank zero are both cold. -/
def rankOrCold (feature : FeatureVector) : ℤ :=
  match feature.queryRank with
  | some rank => if rank = 0 then 999 else rank
  | none => 999

def aiGate (feature : FeatureVector) : ℚ := max (feature.ai500Score / 100) feature.ai300LevelScore

namespace TrendFollowing

def name : String := "trend_following"

def candidate (feature : FeatureVector) (side : Side) (rationale : List String) : SignalCandidate where
  symbol := feature.symbol
  regime := .trend
  side := side
  conviction := min 1 (45 / 100 + |feature.trendScore| * 5 + aiGate feature * (15 / 100))
  expectedEdgeBps := 18
  stopDistancePct := max (8 / 1000) (|feature.priceChange15m| * 2)
  rationale := rationale
  strategyName := name

def generate (feature : FeatureVector) : Option SignalCandidate :=
  if aiGate feature < 70 / 100 then none
  else if 2 / 100 < feature.crowdingScore then none
  else if 0 < feature.trendScore ∧ 0 < feature.flowScore ∧ 0 < feature.oiScore then
    some (candidate feature .buy
      ["AI score gate active", "price trend aligned across 15m/1h/4h",
        "institutional futures flow positive", "Binance and Bybit OI expansion aligned",
        "crowding not yet extreme"])
  else if feature.trendScore < 0 ∧ feature.flowScore < 0 ∧ 0 < feature.oiScore then
    some (candidate feature .sell
      ["AI score gate active", "negative trend aligned across multiple windows",
        "institutional futures flow negative",
        "OI remains elevated, downside continuation risk present", "crowding not yet extreme"])
  else none

def skipReason (feature : FeatureVector) : String :=
  if aiGate feature < 70 / 100 then "trend_following: ai gate below threshold"
  else if 2 / 100 < feature.crowdingScore then "trend_following: crowding too high"
  else if feature.oiScore ≤ 0 then "trend_following: open interest not expanding"
  else if feature.trendScore = 0 ∨ feature.flowScore = 0 then
    "trend_following: trend or flow lacks direction"
  else "trend_following: trend and flow are not aligned"

end TrendFollowing

namespace CrowdingReversal

def name : String := "crowding_reversal"

def candidate (feature : FeatureVector) (side : Side) (rationale : List String) : SignalCandidate where
  symbol := feature.symbol
  regime := .crowding
  side := side
  conviction := min (95 / 100) (45 / 100 + |feature.fundingRate| * 100 + 1 / 10)
  expectedEdgeBps := 16
  stopDistancePct := max (7 / 1000) (|feature.priceChange15m| * (3 / 2))
  rationale := rationale
  strategyName := name

def generate (feature : FeatureVector) : Option SignalCandidate :=
  let hot := rankOrCold feature ≤ 5
  let longCrowded := 15 / 10000 ≤ feature.fundingRate ∧ hot
  let shortCrowded := feature.fundingRate ≤ -15 / 10000 ∧ hot
  if longCrowded ∧ feature.heatmapDelta ≤ 0 ∧ feature.priceChange15m ≤ 0 then
    some (candidate feature .sell
      ["positive funding indicates crowded longs", "community heat remains elevated",
        "heatmap delta is no longer bid-dominant", "short-term price impulse has stalled"])
  else if shortCrowded ∧ 0 ≤ feature.heatmapDelta ∧ 0 ≤ feature.priceChange15m then
    some (candidate feature .buy
      ["negative funding indicates crowded shorts", "community heat remains elevated",
        "heatmap delta turned bid-dominant", "short-term price impulse is recovering"])
  else none

def skipReason (feature : FeatureVector) : String :=
  if ¬ rankOrCold feature ≤ 5 then "crowding_reversal: symbol is not hot enough"
  else if |feature.fundingRate| < 15 / 10000 then "crowding_reversal: funding is not extreme enough"
  else if feature.heatmapDelta = 0 then "crowding_reversal: heatmap shows no reversal bias"
  else if feature.priceChange15m = 0 then "crowding_reversal: short-term price impulse is flat"
  else "crowding_reversal: reversal confirmation is incomplete"

end CrowdingReversal

namespace RangeReversion

def name : String := "range_reversion"

def candidate (feature : FeatureVector) (side : Side) (rationale : List String) : SignalCandidate where
  symbol := feature.symbol
  regime := .range
  side := side
  conviction := min (9 / 10) (45 / 100 + |feature.priceChange15m| * 8 + aiGate feature * (10 / 100))
  expectedEdgeBps := 12
  stopDistancePct := max (6 / 1000) (|feature.priceChange15m| * (5 / 4))
  rationale := rationale
  strategyName := name

def generate (feature : FeatureVector) : Option SignalCandidate :=
  if aiGate feature < 55 / 100 then none
  else if |feature.priceChange15m| < 4 / 1000 then none
  else if 5 / 100 < |feature.trendScore| then none
  else if 25 / 10000 < |feature.fundingRate| then none
  else if 0 < feature.priceChange15m ∧ feature.heatmapDelta < 0 ∧ feature.flowScore ≤ 0 then
    some (candidate feature .sell
      ["short-term upside stretch is fading", "heatmap turned offer-heavy inside a range regime",
        "institutional futures flow is no longer supportive",
        "crowding remains contained for a mean-reversion setup"])
  else if feature.priceChange15m < 0 ∧ 0 < feature.heatmapDelta ∧ 0 ≤ feature.flowScore then
    some (candidate feature .buy
      ["short-term downside stretch is fading", "heatmap turned bid-heavy inside a range regime",
        "institutional futures flow stopped deteriorating",
        "crowding remains contained for a mean-reversion setup"])
  else none

def skipReason (feature : FeatureVector) : String :=
  if aiGate feature < 55 / 100 then "range_reversion: ai gate below threshold"
  else if |feature.priceChange15m| < 4 / 1000 then
    "range_reversion: short-term extension is too small"
  else if 5 / 100 < |feature.trendScore| then "range_reversion: market is trending, not ranging"
  else if 25 / 10000 < |feature.fundingRate| then
    "range_reversion: crowding is too elevated for mean reversion"
  else if feature.heatmapDelta = 0 then "range_reversion: heatmap shows no contra move"
  else "range_reversion: flow and heatmap do not confirm reversal"

end RangeReversion

/-- The strategies in the order bootstrap lists them. -/
def shippedStrategies : List Strategy :=
  [⟨TrendFollowing.name, TrendFollowing.generate, TrendFollowing.skipReason⟩,
    ⟨CrowdingReversal.name, CrowdingReversal.generate, CrowdingReversal.skipReason⟩,
    ⟨RangeReversion.name, RangeReversion.generate, RangeReversion.skipReason⟩]

/-- A shipped strategy signals on its feature's symbol and leaves the cluster to
the configuration. -/
theorem shipped_signal {strategy : Strategy} (shipped : strategy ∈ shippedStrategies)
    {feature : FeatureVector} {signal : SignalCandidate}
    (generated : strategy.generate feature = some signal) :
    signal.symbol = feature.symbol ∧ signal.cluster = none := by
  simp only [shippedStrategies, List.mem_cons, List.not_mem_nil, or_false] at shipped
  rcases shipped with rfl | rfl | rfl
  · simp only [TrendFollowing.generate] at generated
    split_ifs at generated <;> cases generated <;> exact ⟨rfl, rfl⟩
  · simp only [CrowdingReversal.generate] at generated
    split_ifs at generated <;> cases generated <;> exact ⟨rfl, rfl⟩
  · simp only [RangeReversion.generate] at generated
    split_ifs at generated <;> cases generated <;> exact ⟨rfl, rfl⟩

end CatsPy
