import CatsPy.DecisionEngine
import CatsPy.StableSelection

/-!
# The best approved candidate

What the decision engine picks among its candidates. The search stops at the
first positively scored candidate that the kernel approves or fails on, so it is
a selection from the stable ranking.
-/
namespace CatsPy
open PythonValues StableSelection

section Search

variable (kernel : RiskKernel) (account : AccountSnapshot)

/-- A positive score and the kernel's approval. -/
structure Approves (signal : SignalCandidate) (risk : RiskDecision) : Prop where
  scored : 0 < signal.actionScore
  evaluated : kernel.evaluate signal account = .ok risk
  approved : risk.status = .approved

/-- A positive score, an account the kernel has nothing against, and a symbol whose
tier it has no policy for. The error names the tier. -/
structure Fails (signal : SignalCandidate) (e : PyError) : Prop where
  scored : 0 < signal.actionScore
  unvetoed : kernel.accountVeto account = none
  unconfigured : kernel.tierPolicies.get? (kernel.tierOf signal.symbol) = none
  named : e = ⟨.keyError, (kernel.tierOf signal.symbol).repr⟩

/-- With an account veto the tier is not looked up. -/
theorem evaluate_error_iff {signal : SignalCandidate} {e : PyError} :
    kernel.evaluate signal account = .error e ↔ kernel.accountVeto account = none ∧
      kernel.tierPolicies.get? (kernel.tierOf signal.symbol) = none ∧
      e = ⟨.keyError, (kernel.tierOf signal.symbol).repr⟩ := by
  unfold RiskKernel.evaluate
  cases vetoed : kernel.accountVeto account with
  | some veto => simp
  | none =>
      cases policy : kernel.tierPolicies.get? (kernel.tierOf signal.symbol) with
      | none => simp [policy, eq_comm]
      | some tierPolicy => cases guarded : kernel.symbolVeto signal account tierPolicy <;> simp [policy, guarded]

variable {kernel account} in
theorem Fails.evaluated {signal : SignalCandidate} {e : PyError} (fails : Fails kernel account signal e) :
    kernel.evaluate signal account = .error e :=
  (evaluate_error_iff kernel account).mpr ⟨fails.unvetoed, fails.unconfigured, fails.named⟩

/-- The candidates that end the search. -/
def stops (signal : SignalCandidate) : Bool :=
  !(signal.actionScore ≤ 0) && match kernel.evaluate signal account with
    | .error _ => true
    | .ok risk => risk.status = .approved

theorem stops_iff (signal : SignalCandidate) :
    stops kernel account signal = true ↔
      (∃ risk, Approves kernel account signal risk) ∨ ∃ e, Fails kernel account signal e := by
  cases answer : kernel.evaluate signal account with
  | error e =>
      simp only [stops, answer, Bool.and_true, Bool.not_eq_true', decide_eq_false_iff_not, not_le]
      constructor
      · intro scored
        obtain ⟨unvetoed, unconfigured, named⟩ := (evaluate_error_iff kernel account).mp answer
        exact .inr ⟨e, scored, unvetoed, unconfigured, named⟩
      · rintro (⟨risk, scored, evaluated, -⟩ | ⟨_, scored, -⟩)
        · exact scored
        · exact scored
  | ok risk =>
      simp only [stops, answer, Bool.and_eq_true, Bool.not_eq_true', decide_eq_false_iff_not, not_le,
        decide_eq_true_eq]
      constructor
      · rintro ⟨scored, approved⟩
        exact .inl ⟨risk, scored, answer, approved⟩
      · rintro (⟨other, scored, evaluated, approved⟩ | ⟨e, fails⟩)
        · rw [answer] at evaluated
          cases evaluated
          exact ⟨scored, approved⟩
        · cases answer.symm.trans fails.evaluated

/-- The loop over the ranking is a search for the first candidate that stops it. -/
theorem firstApproved_eq_find (signals : List SignalCandidate) (reasons : List String) :
    match signals.find? (stops kernel account) with
    | none => ∃ texts, DecisionEngine.firstApproved kernel account signals reasons = .ok (.inl texts)
    | some signal => DecisionEngine.firstApproved kernel account signals reasons =
        (kernel.evaluate signal account).map fun risk => .inr (signal, risk) := by
  induction signals generalizing reasons with
  | nil => exact ⟨reasons, rfl⟩
  | cons signal rest ih =>
      by_cases dominated : signal.actionScore ≤ 0
      · have passed : stops kernel account signal = false := by simp [stops, dominated]
        simpa only [List.find?_cons, passed, DecisionEngine.firstApproved, if_pos dominated] using ih _
      · cases answer : kernel.evaluate signal account with
        | error e =>
            have stopped : stops kernel account signal = true := by simp [stops, dominated, answer]
            simp only [List.find?_cons, stopped, DecisionEngine.firstApproved, if_neg dominated, answer]
            rfl
        | ok risk =>
            by_cases approved : risk.status = .approved
            · have stopped : stops kernel account signal = true := by
                simp [stops, dominated, answer, approved]
              simp only [List.find?_cons, stopped, DecisionEngine.firstApproved, if_neg dominated, answer,
                ne_eq, approved, not_true_eq_false, if_false]
              rfl
            · have passed : stops kernel account signal = false := by simp [stops, answer, approved]
              simpa only [List.find?_cons, passed, DecisionEngine.firstApproved, if_neg dominated, answer,
                ne_eq, approved, not_false_eq_true, if_true] using ih _

/-- Candidate `i` is approved with `risk`, no approved candidate scores higher,
and no earlier one as high. -/
structure BestApproved (pool : List SignalCandidate) (i : ℕ) (signal : SignalCandidate)
    (risk : RiskDecision) : Prop where
  listed : pool[i]? = some signal
  approves : Approves kernel account signal risk
  best : ∀ j other, pool[j]? = some other → (∃ answer, Approves kernel account other answer) →
    other.actionScore < signal.actionScore ∨ other.actionScore = signal.actionScore ∧ i ≤ j

/-- A candidate of an unconfigured tier comes before every other one of such a tier
and every approved one. -/
def Obstructed (pool : List SignalCandidate) (e : PyError) : Prop :=
  ∃ (i : ℕ) (signal : SignalCandidate), pool[i]? = some signal ∧ Fails kernel account signal e ∧
    ∀ j other, pool[j]? = some other →
      (∃ risk, Approves kernel account other risk) ∨ (∃ f, Fails kernel account other f) →
      other.actionScore < signal.actionScore ∨ other.actionScore = signal.actionScore ∧ i ≤ j

abbrev FirstStop (pool : List SignalCandidate) (i : ℕ) (signal : SignalCandidate) : Prop :=
  FirstBest SignalCandidate.actionScore (stops kernel account) pool i signal

variable {kernel account} {pool : List SignalCandidate}

theorem FirstStop.bestApproved {i : ℕ} {signal : SignalCandidate} {risk : RiskDecision}
    (first : FirstStop kernel account pool i signal) (approves : Approves kernel account signal risk) :
    BestApproved kernel account pool i signal risk := by
  refine ⟨first.listed, approves, ?_⟩
  intro j other listed answered
  exact first.best j other listed ((stops_iff kernel account other).mpr (.inl answered))

theorem obstructed_iff {e : PyError} : Obstructed kernel account pool e ↔
    ∃ i signal, FirstStop kernel account pool i signal ∧ Fails kernel account signal e := by
  constructor
  · rintro ⟨i, signal, listed, fails, best⟩
    refine ⟨i, signal, ⟨listed, (stops_iff kernel account signal).mpr (.inr ⟨e, fails⟩), ?_⟩, fails⟩
    intro j other member passing
    exact best j other member ((stops_iff kernel account other).mp passing)
  · rintro ⟨i, signal, first, fails⟩
    refine ⟨i, signal, first.listed, fails, ?_⟩
    intro j other member ends
    exact first.best j other member ((stops_iff kernel account other).mpr ends)

variable (kernel account pool) in
/-- The three outcomes of the search over the ranking. -/
theorem search_cases :
    (∃ i signal e, FirstStop kernel account pool i signal ∧ Fails kernel account signal e ∧
      DecisionEngine.firstApproved kernel account (DecisionEngine.ranked pool) [] = .error e) ∨
    (∃ i signal risk, FirstStop kernel account pool i signal ∧ Approves kernel account signal risk ∧
      DecisionEngine.firstApproved kernel account (DecisionEngine.ranked pool) [] = .ok (.inr (signal, risk))) ∨
    ((∀ signal ∈ pool, stops kernel account signal = false) ∧
      ∃ texts, DecisionEngine.firstApproved kernel account (DecisionEngine.ranked pool) [] =
        .ok (.inl texts)) := by
  have search := firstApproved_eq_find kernel account (DecisionEngine.ranked pool) []
  cases found : (DecisionEngine.ranked pool).find? (stops kernel account) with
  | none =>
      rw [found] at search
      refine .inr (.inr ⟨?_, search⟩)
      intro signal member
      exact Bool.eq_false_iff.mpr
        (List.find?_eq_none.mp found signal ((List.mem_insertionSort _).mpr member))
  | some signal =>
      simp only [found] at search
      obtain ⟨i, first⟩ :=
        (find?_insertionSort_iff SignalCandidate.actionScore (stops kernel account) pool signal).mp found
      rcases (stops_iff kernel account signal).mp first.passing with ⟨risk, approves⟩ | ⟨e, fails⟩
      · refine .inr (.inl ⟨i, signal, risk, first, approves, ?_⟩)
        rw [search, approves.evaluated]
        rfl
      · refine .inl ⟨i, signal, e, first, fails, ?_⟩
        rw [search, fails.evaluated]
        rfl

end Search

namespace DecisionEngine

variable (engine : DecisionEngine) (feature : FeatureVector) (account : AccountSnapshot) (now : Datetime)
  (decisionId : String)

/-- The candidates of a decision call, in strategy order. -/
def pool : List SignalCandidate :=
  engine.candidates (enrich feature now) (detect (enrich feature now))

theorem decide_defense (defense : detect (enrich feature now) = .defense) :
    ∃ texts, engine.decide feature account now decisionId =
      .ok (.noTrade decisionId (enrich feature now).symbol .defense texts, enrich feature now) := by
  refine ⟨["regime switched to DEFENSE", "new entries are disabled until freshness recovers"], ?_⟩
  simp only [decide, defense, if_true]

/-- Outside DEFENSE the outcome is that of the search over the pool. -/
theorem decide_cases (calm : detect (enrich feature now) ≠ .defense) :
    (∃ i signal e, FirstStop engine.riskKernel account (engine.pool feature now) i signal ∧
      Fails engine.riskKernel account signal e ∧
      engine.decide feature account now decisionId = .error e) ∨
    (∃ i signal risk, FirstStop engine.riskKernel account (engine.pool feature now) i signal ∧
      Approves engine.riskKernel account signal risk ∧
      engine.decide feature account now decisionId =
        .ok (.execute decisionId signal.symbol signal.regime signal.side signal.rationale risk
          signal.actionScore (some signal.strategyName), enrich feature now)) ∨
    ((∀ signal ∈ engine.pool feature now, stops engine.riskKernel account signal = false) ∧
      ∃ texts, engine.decide feature account now decisionId =
        .ok (.noTrade decisionId (enrich feature now).symbol (detect (enrich feature now)) texts,
          enrich feature now)) := by
  unfold pool
  simp only [decide, if_neg calm]
  generalize enrich feature now = enriched
  generalize detect enriched = regime
  by_cases empty : engine.candidates enriched regime = []
  · refine .inr (.inr ⟨?_, ?_⟩)
    · simp [empty]
    · exact ⟨_, by rw [if_pos empty]⟩
  · simp only [if_neg empty]
    rcases search_cases engine.riskKernel account (engine.candidates enriched regime) with
      ⟨i, signal, e, first, fails, outcome⟩ | ⟨i, signal, risk, first, approves, outcome⟩ |
      ⟨passed, texts, outcome⟩
    · exact .inl ⟨i, signal, e, first, fails, by rw [outcome]⟩
    · exact .inr (.inl ⟨i, signal, risk, first, approves, by rw [outcome]⟩)
    · exact .inr (.inr ⟨passed, _, by rw [outcome]⟩)

section Outcomes

variable {engine feature account now decisionId}

theorem decide_raises_iff (calm : detect (enrich feature now) ≠ .defense) (e : PyError) :
    engine.decide feature account now decisionId = .error e ↔
      Obstructed engine.riskKernel account (engine.pool feature now) e := by
  rw [obstructed_iff]
  rcases engine.decide_cases feature account now decisionId calm with
    ⟨i, signal, f, first, fails, outcome⟩ | ⟨i, signal, risk, first, approves, outcome⟩ |
    ⟨passed, texts, outcome⟩
  · rw [outcome, Except.error.injEq]
    constructor
    · rintro rfl
      exact ⟨i, signal, first, fails⟩
    · rintro ⟨j, other, second, failed⟩
      obtain ⟨-, rfl⟩ := first.unique _ _ second
      exact Except.error.inj (fails.evaluated.symm.trans failed.evaluated)
  · rw [outcome]
    refine iff_of_false (by simp) ?_
    rintro ⟨j, other, second, failed⟩
    obtain ⟨-, rfl⟩ := first.unique _ _ second
    cases approves.evaluated.symm.trans failed.evaluated
  · rw [outcome]
    refine iff_of_false (by simp) ?_
    rintro ⟨j, other, second, -⟩
    have idle := passed other (List.mem_of_getElem? second.listed)
    exact absurd second.passing (Bool.eq_false_iff.mp idle)

/-- A call that executes executes the best approved candidate. -/
theorem decide_executed (calm : detect (enrich feature now) ≠ .defense) {decision : TradeDecision}
    {after : FeatureVector} (decided : engine.decide feature account now decisionId = .ok (decision, after))
    (executed : decision.status = .execute) :
    ∃ i signal risk, BestApproved engine.riskKernel account (engine.pool feature now) i signal risk ∧
      decision = .execute decisionId signal.symbol signal.regime signal.side signal.rationale risk
        signal.actionScore (some signal.strategyName) := by
  rcases engine.decide_cases feature account now decisionId calm with
    ⟨i, signal, e, first, fails, outcome⟩ | ⟨i, signal, risk, first, approves, outcome⟩ |
    ⟨passed, texts, outcome⟩
  · rw [outcome] at decided
    cases decided
  · rw [outcome] at decided
    cases decided
    exact ⟨i, signal, risk, first.bestApproved approves, rfl⟩
  · rw [outcome] at decided
    cases decided
    cases executed

theorem decide_executes_iff (calm : detect (enrich feature now) ≠ .defense)
    (unobstructed : ∀ e, ¬ Obstructed engine.riskKernel account (engine.pool feature now) e) :
    (∃ decision, engine.decide feature account now decisionId = .ok (decision, enrich feature now) ∧
        decision.status = .execute) ↔
      ∃ signal ∈ engine.pool feature now, ∃ risk, Approves engine.riskKernel account signal risk := by
  constructor
  · rintro ⟨decision, decided, executed⟩
    obtain ⟨i, signal, risk, best, -⟩ := decide_executed calm decided executed
    exact ⟨signal, List.mem_of_getElem? best.listed, risk, best.approves⟩
  · rintro ⟨signal, member, risk, approves⟩
    rcases engine.decide_cases feature account now decisionId calm with
      ⟨_, _, e, -, -, outcome⟩ | ⟨_, _, _, -, -, outcome⟩ | ⟨passed, texts, outcome⟩
    · exact absurd ((decide_raises_iff calm e).mp outcome) (unobstructed e)
    · exact ⟨_, outcome, rfl⟩
    · have stopped := (stops_iff _ account signal).mpr (.inl ⟨risk, approves⟩)
      exact absurd stopped (Bool.eq_false_iff.mp (passed signal member))

end Outcomes

/-- Outside DEFENSE the call raises exactly when the account is not vetoed and a
candidate whose tier has no policy comes before every approved one. Otherwise it
executes exactly when some candidate is approved, and then the best one with the
kernel's own answer. -/
theorem decide_best_approved :
    (detect (enrich feature now) = .defense →
      ∃ texts, engine.decide feature account now decisionId =
        .ok (.noTrade decisionId (enrich feature now).symbol .defense texts, enrich feature now)) ∧
    (detect (enrich feature now) ≠ .defense →
      (∀ e, engine.decide feature account now decisionId = .error e ↔
        Obstructed engine.riskKernel account (engine.pool feature now) e) ∧
      ((∀ e, ¬ Obstructed engine.riskKernel account (engine.pool feature now) e) →
        ((∃ decision, engine.decide feature account now decisionId = .ok (decision, enrich feature now) ∧
            decision.status = .execute) ↔
          ∃ signal ∈ engine.pool feature now, ∃ risk, Approves engine.riskKernel account signal risk) ∧
        ∀ decision after, engine.decide feature account now decisionId = .ok (decision, after) →
          decision.status = .execute →
          ∃ i signal risk, BestApproved engine.riskKernel account (engine.pool feature now) i signal risk ∧
            decision = .execute decisionId signal.symbol signal.regime signal.side signal.rationale risk
              signal.actionScore (some signal.strategyName))) :=
  ⟨engine.decide_defense feature account now decisionId, fun calm =>
    ⟨decide_raises_iff calm, fun unobstructed =>
      ⟨decide_executes_iff calm unobstructed, fun _ _ => decide_executed calm⟩⟩⟩

section Unconfigured

/-- A strategy that always signals on one symbol. -/
def steadyStrategy (symbol : String) (edge : ℚ) : Strategy where
  name := symbol
  generate := fun _ => some
    { symbol, regime := .trend, side := .buy, conviction := 1, expectedEdgeBps := edge,
      stopDistancePct := 1 / 100, rationale := [] }
  skipReason := fun _ => ""

/-- Its tier table has no policy for the experimental tier. -/
def coreOnlyEngine : DecisionEngine where
  strategies := [steadyStrategy "NEWUSDT" 20, steadyStrategy "BTCUSDT" 18]
  riskKernel := configuredKernel {} (.ofList [(.core, { maxLeverage := 3, maxSymbolNotionalPct := 25 })])

def quietFeature : FeatureVector := { symbol := "BTCUSDT", ts := 0 }

def flatAccount : AccountSnapshot :=
  { equity := 10000, dailyDrawdownPct := 0, weeklyDrawdownPct := 0, grossExposure := 0, openPositions := 0 }

def btcCandidate : SignalCandidate :=
  { symbol := "BTCUSDT", regime := .unknown, side := .buy, conviction := 1, expectedEdgeBps := 18,
    stopDistancePct := 1 / 100, rationale := [], actionScore := 18 }

/-- The unconfigured symbol scores higher, so its lookup raises before the
approved candidate is reached. -/
theorem unconfigured_tier_hides_approval :
    detect (enrich quietFeature 0) ≠ .defense ∧
      ¬ ((∃ decision, coreOnlyEngine.decide quietFeature flatAccount 0 "d-1" =
            .ok (decision, enrich quietFeature 0) ∧ decision.status = .execute) ↔
          ∃ signal ∈ coreOnlyEngine.pool quietFeature 0, ∃ risk,
            Approves coreOnlyEngine.riskKernel flatAccount signal risk) := by
  refine ⟨by decide +kernel, fun claimed => ?_⟩
  have listed : btcCandidate ∈ coreOnlyEngine.pool quietFeature 0 := by decide +kernel
  have answer : coreOnlyEngine.riskKernel.evaluate btcCandidate flatAccount =
      .ok { status := .approved, reason := "approved", symbolTier := some .core,
            approvedNotional := 2500, approvedLeverage := 1, riskBudgetBps := 35 } := by decide +kernel
  have approves := Approves.mk (by decide +kernel : 0 < btcCandidate.actionScore) answer rfl
  obtain ⟨decision, decided, -⟩ := claimed.mpr ⟨btcCandidate, listed, _, approves⟩
  have raised : coreOnlyEngine.decide quietFeature flatAccount 0 "d-1" =
      .error ⟨.keyError, SymbolTier.experimental.repr⟩ := by decide +kernel
  rw [raised] at decided
  cases decided

end Unconfigured

end DecisionEngine

end CatsPy
