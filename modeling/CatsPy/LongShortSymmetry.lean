import CatsPy.DecisionEngine
import CatsPy.StableSelection
import Mathlib.Tactic.Linarith

/-!
# Long/short symmetry

Turning the market upside down turns every decision around. Each strategy has a
short twin for its long branch, the scorer reads the heatmap on the signal's own
side, and the regime and the kernel see only magnitudes.
-/
namespace CatsPy
open PythonValues

def Side.opposite : Side → Side
  | .buy => .sell
  | .sell => .buy

namespace FeatureVector

/-- Prices, institutional flows, funding and heatmap change sign. -/
@[simps priceChange15m fundingRate heatmapDelta staleSeconds oiScore crowdingScore]
def mirror (feature : FeatureVector) : FeatureVector :=
  { feature with
    priceChange15m := -feature.priceChange15m
    priceChange1h := -feature.priceChange1h
    priceChange4h := -feature.priceChange4h
    instFutureFlow15m := -feature.instFutureFlow15m
    instFutureFlow1h := -feature.instFutureFlow1h
    instFutureFlow4h := -feature.instFutureFlow4h
    fundingRate := -feature.fundingRate
    heatmapDelta := -feature.heatmapDelta }

/-- The mirror of an enriched feature: the derived scores follow. -/
@[simps priceChange15m fundingRate heatmapDelta staleSeconds trendScore flowScore oiScore crowdingScore]
def reflect (feature : FeatureVector) : FeatureVector :=
  { feature.mirror with trendScore := -feature.trendScore, flowScore := -feature.flowScore }

@[simp] theorem rankOrCold_reflect (feature : FeatureVector) :
    rankOrCold feature.reflect = rankOrCold feature := rfl

@[simp] theorem aiGate_reflect (feature : FeatureVector) : aiGate feature.reflect = aiGate feature := rfl

theorem enrich_mirror (feature : FeatureVector) (now : Datetime) :
    enrich feature.mirror now = (enrich feature now).reflect := by
  have trend : -feature.priceChange15m + -feature.priceChange1h + -feature.priceChange4h =
      -(feature.priceChange15m + feature.priceChange1h + feature.priceChange4h) := by ring
  have flow : -feature.instFutureFlow15m + -feature.instFutureFlow1h + -feature.instFutureFlow4h =
      -(feature.instFutureFlow15m + feature.instFutureFlow1h + feature.instFutureFlow4h) := by ring
  have rank : rankOrCold feature.mirror = rankOrCold feature := rfl
  simp only [enrich, rank, reflect]
  simp only [mirror, trend, flow, abs_neg]

theorem detect_reflect (feature : FeatureVector) : detect feature.reflect = detect feature := by
  simp [detect]

end FeatureVector

namespace SignalCandidate

/-- The same candidate on the other side, with a text of its own. -/
def Mirrors (signal reflected : SignalCandidate) : Prop :=
  reflected = { signal with side := signal.side.opposite, rationale := reflected.rationale }

variable {signal reflected : SignalCandidate} (mirrors : signal.Mirrors reflected)
include mirrors

theorem Mirrors.actionScore : reflected.actionScore = signal.actionScore := by
  rw [mirrors]

theorem Mirrors.strategyName : reflected.strategyName = signal.strategyName := by
  rw [mirrors]

/-- The kernel reads neither the side nor the text. -/
theorem Mirrors.evaluate (kernel : RiskKernel) (account : AccountSnapshot) :
    kernel.evaluate reflected account = kernel.evaluate signal account := by
  rw [mirrors]
  rfl

theorem Mirrors.score (feature : FeatureVector) (regime : MarketRegime) :
    MetaAllocator.score reflected feature.reflect regime =
      MetaAllocator.score signal feature regime := by
  have alignment : MetaAllocator.heatmapAlignment reflected feature.reflect =
      MetaAllocator.heatmapAlignment signal feature := by
    rw [mirrors]
    cases side : signal.side <;> simp [MetaAllocator.heatmapAlignment, Side.opposite, side]
  have terms : MetaAllocator.strategyTerms reflected feature.reflect regime =
      MetaAllocator.strategyTerms signal feature regime := by
    rw [mirrors]
    simp only [MetaAllocator.strategyTerms, FeatureVector.reflect_fundingRate,
      FeatureVector.mirror_fundingRate, FeatureVector.rankOrCold_reflect, abs_neg]
    rfl
  rw [MetaAllocator.score, MetaAllocator.score, alignment, terms, mirrors]
  rfl

end SignalCandidate

/-- On reflected features the strategy answers with reflected candidates. -/
def Strategy.Symmetric (strategy : Strategy) : Prop :=
  ∀ feature, Option.Rel SignalCandidate.Mirrors (strategy.generate feature)
    (strategy.generate feature.reflect)

section Strategies

/-- A long branch and its short twin, tested in either order, when they exclude
each other. -/
theorem rel_twins {long short longTwin shortTwin : Prop} [Decidable long] [Decidable short]
    [Decidable longTwin] [Decidable shortTwin] (longTwin_iff : longTwin ↔ short)
    (shortTwin_iff : shortTwin ↔ long) (exclusive : long → ¬ short) {a b c d : SignalCandidate}
    (first : a.Mirrors d) (second : b.Mirrors c) :
    Option.Rel SignalCandidate.Mirrors (if long then some a else if short then some b else none)
      (if longTwin then some c else if shortTwin then some d else none) := by
  by_cases rising : long
  · have falling := exclusive rising
    simp only [if_pos rising, if_neg (longTwin_iff.not.mpr falling), if_pos (shortTwin_iff.mpr rising)]
    exact .some first
  · by_cases falling : short
    · simp only [if_neg rising, if_pos falling, if_pos (longTwin_iff.mpr falling)]
      exact .some second
    · simp only [if_neg rising, if_neg falling, if_neg (longTwin_iff.not.mpr falling),
        if_neg (shortTwin_iff.not.mpr rising)]
      exact .none

theorem rel_guard {guard : Prop} [Decidable guard] {x y : Option SignalCandidate}
    (passed : ¬ guard → Option.Rel SignalCandidate.Mirrors x y) :
    Option.Rel SignalCandidate.Mirrors (if guard then none else x) (if guard then none else y) := by
  by_cases blocked : guard
  · simpa only [if_pos blocked] using Option.Rel.none
  · simpa only [if_neg blocked] using passed blocked

theorem TrendFollowing.symmetric (skip : FeatureVector → String) :
    Strategy.Symmetric ⟨name, generate, skip⟩ := by
  intro feature
  have same : ∀ side text other, (candidate feature side text).Mirrors
      (candidate feature.reflect side.opposite other) := by
    intro side text other
    simp [SignalCandidate.Mirrors, candidate, FeatureVector.reflect, FeatureVector.mirror, aiGate]
  simp only [generate, FeatureVector.aiGate_reflect, FeatureVector.reflect_crowdingScore,
    FeatureVector.mirror_crowdingScore]
  refine rel_guard fun warm => rel_guard fun calm => rel_twins ?_ ?_ ?_ (same .buy _ _) (same .sell _ _)
  · simp
  · simp
  · rintro ⟨rising, -⟩ ⟨falling, -⟩
    exact rising.asymm falling

theorem CrowdingReversal.symmetric (skip : FeatureVector → String) :
    Strategy.Symmetric ⟨name, generate, skip⟩ := by
  intro feature
  have same : ∀ side text other, (candidate feature side text).Mirrors
      (candidate feature.reflect side.opposite other) := by
    intro side text other
    simp [SignalCandidate.Mirrors, candidate, FeatureVector.reflect, FeatureVector.mirror]
  simp only [generate, FeatureVector.rankOrCold_reflect]
  have extreme : 15 / 10000 ≤ -feature.fundingRate ↔ feature.fundingRate ≤ -15 / 10000 := by
    constructor <;> intro h <;> linarith
  have deep : -feature.fundingRate ≤ -15 / 10000 ↔ 15 / 10000 ≤ feature.fundingRate := by
    constructor <;> intro h <;> linarith
  refine rel_twins ?_ ?_ ?_ (same .sell _ _) (same .buy _ _)
  · simp [extreme]
  · simp [deep]
  · rintro ⟨⟨high, -⟩, -⟩ ⟨⟨low, -⟩, -⟩
    linarith

theorem RangeReversion.symmetric (skip : FeatureVector → String) :
    Strategy.Symmetric ⟨name, generate, skip⟩ := by
  intro feature
  have same : ∀ side text other, (candidate feature side text).Mirrors
      (candidate feature.reflect side.opposite other) := by
    intro side text other
    simp [SignalCandidate.Mirrors, candidate, FeatureVector.reflect, FeatureVector.mirror, aiGate]
  simp only [generate, FeatureVector.aiGate_reflect, FeatureVector.reflect_priceChange15m,
    FeatureVector.mirror_priceChange15m, FeatureVector.reflect_trendScore,
    FeatureVector.reflect_fundingRate, FeatureVector.mirror_fundingRate, abs_neg]
  refine rel_guard fun warm => rel_guard fun stretched => rel_guard fun ranging => rel_guard fun contained =>
    rel_twins ?_ ?_ ?_ (same .sell _ _) (same .buy _ _)
  · simp
  · simp
  · rintro ⟨rising, -⟩ ⟨falling, -⟩
    exact rising.asymm falling

theorem shippedStrategies_symmetric : ∀ strategy ∈ shippedStrategies, strategy.Symmetric := by
  simp only [shippedStrategies, List.forall_mem_cons, List.not_mem_nil, false_implies, implies_true,
    and_true]
  exact ⟨TrendFollowing.symmetric _, CrowdingReversal.symmetric _, RangeReversion.symmetric _⟩

end Strategies

/-- The same decision on the other side, with a text of its own. -/
structure TradeDecision.Mirrors (decision reflected : TradeDecision) : Prop where
  status : reflected.status = decision.status
  regime : reflected.regime = decision.regime
  selectedStrategy : reflected.selectedStrategy = decision.selectedStrategy
  actionScore : reflected.actionScore = decision.actionScore
  risk : reflected.risk = decision.risk
  side : reflected.side = decision.side.map Side.opposite
  executed : decision.status = .execute ↔ decision.side.isSome

/-- Both decide, on opposite sides, or both fail on the same missing tier. -/
def MirroredOutcome :
    Except PyError (TradeDecision × FeatureVector) → Except PyError (TradeDecision × FeatureVector) → Prop
  | .ok (decision, _), .ok (reflected, _) => decision.Mirrors reflected
  | .error e, .error f => f = e
  | _, _ => False

namespace DecisionEngine

variable {engine : DecisionEngine} (symmetric : ∀ strategy ∈ engine.strategies, strategy.Symmetric)

include symmetric in
theorem candidates_reflect (feature : FeatureVector) (regime : MarketRegime) :
    List.Forall₂ SignalCandidate.Mirrors (engine.candidates feature regime)
      (engine.candidates feature.reflect regime) := by
  unfold candidates
  generalize engine.strategies = strategies at symmetric ⊢
  induction strategies with
  | nil => exact .nil
  | cons strategy rest ih =>
      have twin := symmetric strategy List.mem_cons_self feature
      have later := ih fun other member => symmetric other (List.mem_cons_of_mem _ member)
      rw [List.filterMap_cons, List.filterMap_cons]
      generalize strategy.generate feature = here at twin ⊢
      generalize strategy.generate feature.reflect = there at twin ⊢
      cases twin with
      | none => exact later
      | @some signal reflected mirrors =>
          refine .cons ?_ later
          have labelled : SignalCandidate.Mirrors { signal with regime } { reflected with regime } := by
            rw [SignalCandidate.Mirrors, mirrors]
          have score := labelled.score feature regime
          simp only [SignalCandidate.Mirrors, score]
          rw [mirrors]

/-- Reflected candidates in the same order are passed and picked alike. -/
theorem firstApproved_reflect (kernel : RiskKernel) (account : AccountSnapshot)
    {signals reflected : List SignalCandidate} (mirrors : List.Forall₂ SignalCandidate.Mirrors signals reflected)
    (reasons : List String) :
    (∃ e, firstApproved kernel account signals reasons = .error e ∧
      firstApproved kernel account reflected reasons = .error e) ∨
    (∃ texts, firstApproved kernel account signals reasons = .ok (.inl texts) ∧
      firstApproved kernel account reflected reasons = .ok (.inl texts)) ∨
    ∃ signal twin risk, signal.Mirrors twin ∧
      firstApproved kernel account signals reasons = .ok (.inr (signal, risk)) ∧
      firstApproved kernel account reflected reasons = .ok (.inr (twin, risk)) := by
  induction mirrors generalizing reasons with
  | nil => exact .inr (.inl ⟨reasons, rfl, rfl⟩)
  | @cons signal twin signals reflected first rest ih =>
      simp only [firstApproved, first.actionScore, first.strategyName, first.evaluate kernel account]
      by_cases dominated : signal.actionScore ≤ 0
      · simpa only [if_pos dominated] using ih _
      · simp only [if_neg dominated]
        cases kernel.evaluate signal account with
        | error e => exact .inl ⟨e, rfl, rfl⟩
        | ok risk =>
            by_cases turned : risk.status ≠ .approved
            · simpa only [if_pos turned] using ih _
            · simp only [if_neg turned]
              exact .inr (.inr ⟨signal, twin, risk, first, rfl, rfl⟩)

include symmetric in
theorem decide_mirror (feature : FeatureVector) (account : AccountSnapshot) (now : Datetime)
    (decisionId mirrorId : String) :
    MirroredOutcome (engine.decide feature account now decisionId)
      (engine.decide feature.mirror account now mirrorId) := by
  simp only [decide, FeatureVector.enrich_mirror, FeatureVector.detect_reflect]
  generalize enrich feature now = enriched
  generalize detect enriched = regime
  have idle : ∀ texts other : List String,
      (TradeDecision.noTrade decisionId enriched.symbol regime texts).Mirrors
        (.noTrade mirrorId enriched.reflect.symbol regime other) := by
    intro texts other
    exact ⟨rfl, rfl, rfl, rfl, rfl, rfl, by simp [TradeDecision.noTrade]⟩
  have paired := candidates_reflect symmetric enriched regime
  by_cases defense : regime = .defense
  · simp only [if_pos defense]
    exact idle _ _
  · simp only [if_neg defense]
    by_cases empty : engine.candidates enriched regime = []
    · have other : engine.candidates enriched.reflect regime = [] := by
        rw [empty] at paired
        exact List.forall₂_nil_left_iff.mp paired
      simp only [if_pos empty, if_pos other]
      exact idle _ _
    · have other : engine.candidates enriched.reflect regime ≠ [] := by
        intro nothing
        rw [nothing] at paired
        exact empty (List.forall₂_nil_right_iff.mp paired)
      simp only [if_neg empty, if_neg other]
      have sorted : List.Forall₂ SignalCandidate.Mirrors (ranked (engine.candidates enriched regime))
          (ranked (engine.candidates enriched.reflect regime)) :=
        StableSelection.forall₂_insertionSort
          (fun a b x y ax bY => by rw [ax.actionScore, bY.actionScore]) paired
      rcases firstApproved_reflect engine.riskKernel account sorted [] with
        ⟨e, here, there⟩ | ⟨texts, here, there⟩ | ⟨signal, twin, risk, mirrors, here, there⟩
      · simp only [here, there]
        rfl
      · simp only [here, there]
        exact idle _ _
      · simp only [here, there]
        have picked : twin = { signal with side := signal.side.opposite, rationale := twin.rationale } :=
          mirrors
        rw [picked]
        exact ⟨rfl, rfl, rfl, rfl, rfl, rfl, by simp [TradeDecision.execute]⟩

/-- Long/short symmetry of the shipped pipeline. -/
theorem shipped_decide_mirror (kernel : RiskKernel) (feature : FeatureVector)
    (account : AccountSnapshot) (now : Datetime) (decisionId mirrorId : String) :
    MirroredOutcome
      (decide ⟨shippedStrategies, kernel⟩ feature account now decisionId)
      (decide ⟨shippedStrategies, kernel⟩ feature.mirror account now mirrorId) := by
  apply decide_mirror
  exact shippedStrategies_symmetric

end DecisionEngine

end CatsPy
