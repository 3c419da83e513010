import CatsPy.SignalStrategies
import Mathlib.Tactic.Linarith

/-!
# Skip reasons

A strategy states its rules twice: in what it generates, and in the tests behind
the text it gives for generating nothing. Where the second statement follows
from the first, and where it does not.
-/
namespace CatsPy

section Tests

/-- A test of `skip_reason` and the text it guards. -/
structure SkipTest where
  holds : FeatureVector → Bool
  text : String

/-- The test whose text is returned: the first that holds. -/
def reportedTest (tests : List SkipTest) (feature : FeatureVector) : Option SkipTest :=
  tests.find? fun test => test.holds feature

theorem reportedTest_nil (feature : FeatureVector) : reportedTest [] feature = none := rfl

theorem reportedTest_cons (test : SkipTest) (rest : List SkipTest) (feature : FeatureVector) :
    reportedTest (test :: rest) feature =
      if test.holds feature = true then some test else reportedTest rest feature := by
  unfold reportedTest
  cases holds : test.holds feature <;> simp [holds]

/-- Its text, or the last one. -/
def testText (tests : List SkipTest) (otherwise : String) (feature : FeatureVector) : String :=
  ((reportedTest tests feature).map SkipTest.text).getD otherwise

theorem testText_nil (otherwise : String) (feature : FeatureVector) :
    testText [] otherwise feature = otherwise := rfl

theorem testText_cons (test : SkipTest) (rest : List SkipTest) (otherwise : String) (feature : FeatureVector) :
    testText (test :: rest) otherwise feature =
      if test.holds feature = true then test.text else testText rest otherwise feature := by
  unfold testText
  rw [reportedTest_cons]
  split <;> rfl

/-- A strategy with the tests its `skip_reason` goes through in turn. -/
structure ReasonedStrategy extends Strategy where
  tests : List SkipTest
  otherwise : String
  spelled : ∀ feature, skipReason feature = testText tests otherwise feature

namespace ReasonedStrategy

/-- A test that rules out a signal wherever it holds. -/
def Sufficient (strategy : ReasonedStrategy) (test : SkipTest) : Prop :=
  ∀ feature, test.holds feature = true → strategy.generate feature = none

/-- The reason given for a feature is a reason by itself. -/
def ReportsTrue (strategy : ReasonedStrategy) (feature : FeatureVector) : Prop :=
  ∀ test ∈ reportedTest strategy.tests feature, strategy.Sufficient test

theorem sufficient_of {strategy : ReasonedStrategy} {test : SkipTest}
    (excluded : ∀ feature signal, strategy.generate feature = some signal → test.holds feature = false) :
    strategy.Sufficient test := by
  intro feature holds
  cases generated : strategy.generate feature with
  | none => rfl
  | some signal =>
      rw [excluded feature signal generated] at holds
      cases holds

theorem reportsTrue_of_all {strategy : ReasonedStrategy}
    (all : ∀ test ∈ strategy.tests, strategy.Sufficient test) (feature : FeatureVector) :
    strategy.ReportsTrue feature := by
  intro test reported
  exact all test (List.mem_of_find?_eq_some reported)

end ReasonedStrategy

end Tests

section Strategies

namespace TrendFollowing

def reasoned : ReasonedStrategy where
  name := name
  generate := generate
  skipReason := skipReason
  tests :=
    [⟨fun feature => aiGate feature < 70 / 100, "trend_following: ai gate below threshold"⟩,
      ⟨fun feature => 2 / 100 < feature.crowdingScore, "trend_following: crowding too high"⟩,
      ⟨fun feature => feature.oiScore ≤ 0, "trend_following: open interest not expanding"⟩,
      ⟨fun feature => feature.trendScore = 0 ∨ feature.flowScore = 0,
        "trend_following: trend or flow lacks direction"⟩]
  otherwise := "trend_following: trend and flow are not aligned"
  spelled feature := by
    simp only [skipReason, testText_cons, testText_nil, decide_eq_true_eq]

theorem generated {feature : FeatureVector} {signal : SignalCandidate}
    (trades : generate feature = some signal) :
    70 / 100 ≤ aiGate feature ∧ feature.crowdingScore ≤ 2 / 100 ∧ 0 < feature.oiScore ∧
      feature.trendScore ≠ 0 ∧ feature.flowScore ≠ 0 := by
  simp only [generate] at trades
  split_ifs at trades with cold crowded long short
  · exact ⟨not_lt.mp cold, not_lt.mp crowded, long.2.2, long.1.ne', long.2.1.ne'⟩
  · exact ⟨not_lt.mp cold, not_lt.mp crowded, short.2.2, short.1.ne, short.2.1.ne⟩

theorem tests_sufficient : ∀ test ∈ reasoned.tests, reasoned.Sufficient test := by
  simp only [reasoned, List.forall_mem_cons, List.not_mem_nil, false_implies, implies_true, and_true]
  refine ⟨?_, ?_, ?_, ?_⟩ <;> refine ReasonedStrategy.sufficient_of fun feature signal trades => ?_
  · exact decide_eq_false (not_lt.mpr (generated trades).1)
  · exact decide_eq_false (not_lt.mpr (generated trades).2.1)
  · exact decide_eq_false (not_le.mpr (generated trades).2.2.1)
  · exact decide_eq_false (not_or.mpr (generated trades).2.2.2)

end TrendFollowing

namespace CrowdingReversal

def coldTest : SkipTest :=
  ⟨fun feature => ¬ rankOrCold feature ≤ 5, "crowding_reversal: symbol is not hot enough"⟩

def fundingTest : SkipTest :=
  ⟨fun feature => |feature.fundingRate| < 15 / 10000, "crowding_reversal: funding is not extreme enough"⟩

def heatmapTest : SkipTest :=
  ⟨fun feature => feature.heatmapDelta = 0, "crowding_reversal: heatmap shows no reversal bias"⟩

def impulseTest : SkipTest :=
  ⟨fun feature => feature.priceChange15m = 0, "crowding_reversal: short-term price impulse is flat"⟩

def reasoned : ReasonedStrategy where
  name := name
  generate := generate
  skipReason := skipReason
  tests := [coldTest, fundingTest, heatmapTest, impulseTest]
  otherwise := "crowding_reversal: reversal confirmation is incomplete"
  spelled feature := by
    simp only [skipReason, testText_cons, testText_nil, coldTest, fundingTest, heatmapTest, impulseTest,
      decide_eq_true_eq]

theorem generated {feature : FeatureVector} {signal : SignalCandidate}
    (trades : generate feature = some signal) :
    rankOrCold feature ≤ 5 ∧ 15 / 10000 ≤ |feature.fundingRate| := by
  simp only [generate] at trades
  split_ifs at trades with long short
  · exact ⟨long.1.2, long.1.1.trans (le_abs_self _)⟩
  · refine ⟨short.1.2, le_abs.mpr (.inr ?_)⟩
    linarith [short.1.1]

/-- A hot symbol with crowded longs and a flat heatmap and price: it trades. -/
def flatReversal : FeatureVector :=
  { symbol := "BTCUSDT", ts := 0, referencePrice := 100, fundingRate := 2 / 1000, queryRank := some 3 }

theorem flatReversal_trades : generate flatReversal ≠ none := by decide +kernel

/-- Neither a flat heatmap nor a flat price keeps the strategy from trading. -/
theorem heatmapTest_insufficient : ¬ reasoned.Sufficient heatmapTest := by
  intro sufficient
  exact flatReversal_trades (sufficient flatReversal (by decide +kernel))

theorem impulseTest_insufficient : ¬ reasoned.Sufficient impulseTest := by
  intro sufficient
  exact flatReversal_trades (sufficient flatReversal (by decide +kernel))

theorem coldTest_sufficient : reasoned.Sufficient coldTest :=
  ReasonedStrategy.sufficient_of fun _ _ trades => decide_eq_false (not_not.mpr (generated trades).1)

theorem fundingTest_sufficient : reasoned.Sufficient fundingTest :=
  ReasonedStrategy.sufficient_of fun _ _ trades => decide_eq_false (not_lt.mpr (generated trades).2)

/-- The first two tests are reasons by themselves, the last two are not. -/
theorem reportsTrue_iff (feature : FeatureVector) : reasoned.ReportsTrue feature ↔
    ¬ (rankOrCold feature ≤ 5 ∧ 15 / 10000 ≤ |feature.fundingRate| ∧
      (feature.heatmapDelta = 0 ∨ feature.priceChange15m = 0)) := by
  have reported : reportedTest reasoned.tests feature =
      if ¬ rankOrCold feature ≤ 5 then some coldTest
      else if |feature.fundingRate| < 15 / 10000 then some fundingTest
      else if feature.heatmapDelta = 0 then some heatmapTest
      else if feature.priceChange15m = 0 then some impulseTest else none := by
    simp only [reasoned, reportedTest_cons, reportedTest_nil, coldTest, fundingTest, heatmapTest,
      impulseTest, decide_eq_true_eq]
  unfold ReasonedStrategy.ReportsTrue
  rw [reported]
  by_cases hot : rankOrCold feature ≤ 5
  · by_cases calm : |feature.fundingRate| < 15 / 10000
    · simp [hot, calm, fundingTest_sufficient]
    · have extreme := not_lt.mp calm
      by_cases flat : feature.heatmapDelta = 0
      · simp [hot, extreme, flat, calm, heatmapTest_insufficient]
      · by_cases still : feature.priceChange15m = 0
        · simp [hot, extreme, flat, still, calm, impulseTest_insufficient]
        · simp [hot, flat, still, calm]
  · simp [hot, coldTest_sufficient]

end CrowdingReversal

namespace RangeReversion

def reasoned : ReasonedStrategy where
  name := name
  generate := generate
  skipReason := skipReason
  tests :=
    [⟨fun feature => aiGate feature < 55 / 100, "range_reversion: ai gate below threshold"⟩,
      ⟨fun feature => |feature.priceChange15m| < 4 / 1000,
        "range_reversion: short-term extension is too small"⟩,
      ⟨fun feature => 5 / 100 < |feature.trendScore|, "range_reversion: market is trending, not ranging"⟩,
      ⟨fun feature => 25 / 10000 < |feature.fundingRate|,
        "range_reversion: crowding is too elevated for mean reversion"⟩,
      ⟨fun feature => feature.heatmapDelta = 0, "range_reversion: heatmap shows no contra move"⟩]
  otherwise := "range_reversion: flow and heatmap do not confirm reversal"
  spelled feature := by
    simp only [skipReason, testText_cons, testText_nil, decide_eq_true_eq]

theorem generated {feature : FeatureVector} {signal : SignalCandidate}
    (trades : generate feature = some signal) :
    55 / 100 ≤ aiGate feature ∧ 4 / 1000 ≤ |feature.priceChange15m| ∧ |feature.trendScore| ≤ 5 / 100 ∧
      |feature.fundingRate| ≤ 25 / 10000 ∧ feature.heatmapDelta ≠ 0 := by
  simp only [generate] at trades
  split_ifs at trades with cold small trending crowded fading recovering
  · exact ⟨not_lt.mp cold, not_lt.mp small, not_lt.mp trending, not_lt.mp crowded, fading.2.1.ne⟩
  · exact ⟨not_lt.mp cold, not_lt.mp small, not_lt.mp trending, not_lt.mp crowded, recovering.2.1.ne'⟩

theorem tests_sufficient : ∀ test ∈ reasoned.tests, reasoned.Sufficient test := by
  simp only [reasoned, List.forall_mem_cons, List.not_mem_nil, false_implies, implies_true, and_true]
  refine ⟨?_, ?_, ?_, ?_, ?_⟩ <;> refine ReasonedStrategy.sufficient_of fun feature signal trades => ?_
  · exact decide_eq_false (not_lt.mpr (generated trades).1)
  · exact decide_eq_false (not_lt.mpr (generated trades).2.1)
  · exact decide_eq_false (not_lt.mpr (generated trades).2.2.1)
  · exact decide_eq_false (not_lt.mpr (generated trades).2.2.2.1)
  · exact decide_eq_false (generated trades).2.2.2.2

end RangeReversion

/-- The shipped strategies, each with its tests. -/
def reasonedStrategies : List ReasonedStrategy :=
  [TrendFollowing.reasoned, CrowdingReversal.reasoned, RangeReversion.reasoned]

theorem reasonedStrategies_shipped :
    reasonedStrategies.map ReasonedStrategy.toStrategy = shippedStrategies := rfl

/-- A strategy that does not trade gives a reason that is one by itself, except
for a hot, crowded symbol whose heatmap or price is flat. -/
theorem skip_reasons_true_iff (strategy : ReasonedStrategy) (shipped : strategy ∈ reasonedStrategies)
    (feature : FeatureVector) (skipped : strategy.generate feature = none) :
    strategy.ReportsTrue feature ↔
      ¬ (strategy.name = CrowdingReversal.name ∧ rankOrCold feature ≤ 5 ∧
        15 / 10000 ≤ |feature.fundingRate| ∧
        (feature.heatmapDelta = 0 ∨ feature.priceChange15m = 0)) := by
  simp only [reasonedStrategies, List.mem_cons, List.not_mem_nil, or_false] at shipped
  rcases shipped with rfl | rfl | rfl
  · refine iff_of_true (ReasonedStrategy.reportsTrue_of_all TrendFollowing.tests_sufficient feature) ?_
    rintro ⟨named, -⟩
    exact absurd named (by decide)
  · rw [CrowdingReversal.reportsTrue_iff]
    simp [CrowdingReversal.reasoned]
  · refine iff_of_true (ReasonedStrategy.reportsTrue_of_all RangeReversion.tests_sufficient feature) ?_
    rintro ⟨named, -⟩
    exact absurd named (by decide)

/-- A symbol nobody asks about is skipped for being cold. -/
theorem cold_symbol_reported :
    CrowdingReversal.reasoned.ReportsTrue { CrowdingReversal.flatReversal with queryRank := some 40 } :=
  (skip_reasons_true_iff CrowdingReversal.reasoned (by simp [reasonedStrategies]) _
    (by decide +kernel)).mpr fun excepted => absurd excepted.2.1 (by decide +kernel)

/-- A rising price keeps the strategy out, and the flat heatmap it trades on at
a flat price is given as the reason. -/
theorem flat_heatmap_blamed :
    let rising := { CrowdingReversal.flatReversal with priceChange15m := 1 / 100 }
    CrowdingReversal.generate rising = none ∧
      CrowdingReversal.skipReason rising = "crowding_reversal: heatmap shows no reversal bias" ∧
      CrowdingReversal.flatReversal.heatmapDelta = 0 ∧
      CrowdingReversal.generate CrowdingReversal.flatReversal ≠ none ∧
      ¬ CrowdingReversal.reasoned.ReportsTrue rising := by
  refine ⟨by decide +kernel, by decide +kernel, rfl, CrowdingReversal.flatReversal_trades, ?_⟩
  rw [CrowdingReversal.reportsTrue_iff, not_not]
  decide +kernel

end Strategies

end CatsPy
