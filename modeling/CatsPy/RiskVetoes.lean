import CatsPy.RiskTightening

/-!
# Veto completeness

The conditions under which the constitution refuses an entry, the guards an
approval passes, and the condition that the kernel clamps instead of refusing.
-/
namespace CatsPy.RiskKernel
open PythonValues

/-- The entry vetoes of the constitution that the kernel's inputs can express. -/
inductive VetoCondition (kernel : RiskKernel) (signal : SignalCandidate) (account : AccountSnapshot) : Prop where
  | killSwitch (active : account.killSwitchActive = true)
  | stateMismatch (mismatched : account.stateMismatch = true)
  | reconcileFailure (failed : 0 < account.reconcileFailures)
  | userStreamStale (stale : 90 < account.userStreamStaleSeconds)
  | dailyDrawdown (reached : account.dailyDrawdownPct ≤ kernel.policy.dailyDrawdownHardPct)
  | weeklyDrawdown (reached : account.weeklyDrawdownPct ≤ kernel.policy.weeklyDrawdownHardPct)
  | openPositions (reached : kernel.policy.maxOpenPositions ≤ account.openPositions)
  | grossHard (reached : kernel.policy.grossExposureHard ≤ account.grossExposure)
  | grossSoft (reached : kernel.policy.grossExposureSoft ≤ account.grossExposure)
  | symbolExposure (reached : kernel.policy.symbolConcentrationCap ≤ currentSymbolExposure account signal)
  | clusterExposure (cap : ℚ) (configured : kernel.policy.clusterCaps.get? (kernel.clusterName signal) = some cap)
      (reached : cap ≤ kernel.clusterExposure account (kernel.clusterName signal))
  | tierDisabled (tierPolicy : SymbolTierPolicy)
      (found : kernel.tierPolicies.get? (kernel.tierOf signal.symbol) = some tierPolicy)
      (disabled : tierPolicy.enabled = false)
  | stopDistance (unusable : signal.stopDistancePct ≤ 0)
  | leverageBracket (cap : ℚ) (given : signal.leverageBracketCap = some cap) (notPositive : cap ≤ 0)
  | equity (exhausted : account.equity ≤ 0)

/-- What every guard and cap asks of the inputs. -/
structure Clears (kernel : RiskKernel) (signal : SignalCandidate) (account : AccountSnapshot) : Prop where
  running : account.killSwitchActive = false
  matched : account.stateMismatch = false
  reconciled : account.reconcileFailures ≤ 0
  fresh : account.userStreamStaleSeconds ≤ 90
  daily : kernel.policy.dailyDrawdownHardPct < account.dailyDrawdownPct
  weekly : kernel.policy.weeklyDrawdownHardPct < account.weeklyDrawdownPct
  count : account.openPositions < kernel.policy.maxOpenPositions
  grossHard : account.grossExposure < kernel.policy.grossExposureHard
  grossSoft : account.grossExposure < kernel.policy.grossExposureSoft
  symbol : currentSymbolExposure account signal < kernel.policy.symbolConcentrationCap
  cluster : ∀ cap, kernel.policy.clusterCaps.get? (kernel.clusterName signal) = some cap →
    kernel.clusterExposure account (kernel.clusterName signal) < cap
  tier : ∃ tierPolicy, kernel.tierPolicies.get? (kernel.tierOf signal.symbol) = some tierPolicy ∧
    tierPolicy.enabled = true ∧ 0 < tierPolicy.maxSymbolNotionalPct
  budget : 0 < kernel.policy.tradeRiskBpsDefault * signal.conviction ∧ 0 < kernel.policy.tradeRiskBpsMax
  bracket : ∀ cap, signal.leverageBracketCap = some cap → 0 < cap * kernel.policy.leverageBracketBuffer
  equity : 0 < account.equity

variable {kernel : RiskKernel} {signal : SignalCandidate} {account : AccountSnapshot}

instance : Decidable (Clears kernel signal account) :=
  decidable_of_iff
    ((account.killSwitchActive = false ∧ account.stateMismatch = false ∧ account.reconcileFailures ≤ 0 ∧
        account.userStreamStaleSeconds ≤ 90) ∧
      (kernel.policy.dailyDrawdownHardPct < account.dailyDrawdownPct ∧
        kernel.policy.weeklyDrawdownHardPct < account.weeklyDrawdownPct ∧
        account.openPositions < kernel.policy.maxOpenPositions ∧
        account.grossExposure < kernel.policy.grossExposureHard ∧
        account.grossExposure < kernel.policy.grossExposureSoft) ∧
      (currentSymbolExposure account signal < kernel.policy.symbolConcentrationCap ∧
        (∀ cap ∈ kernel.policy.clusterCaps.get? (kernel.clusterName signal),
          kernel.clusterExposure account (kernel.clusterName signal) < cap) ∧
        ∃ tierPolicy ∈ kernel.tierPolicies.get? (kernel.tierOf signal.symbol),
          tierPolicy.enabled = true ∧ 0 < tierPolicy.maxSymbolNotionalPct) ∧
      (0 < kernel.policy.tradeRiskBpsDefault * signal.conviction ∧ 0 < kernel.policy.tradeRiskBpsMax) ∧
      (∀ cap ∈ signal.leverageBracketCap, 0 < cap * kernel.policy.leverageBracketBuffer) ∧
      0 < account.equity) (by
    constructor
    · rintro ⟨⟨running, matched, reconciled, fresh⟩, ⟨daily, weekly, count, grossHard, grossSoft⟩,
        ⟨symbol, cluster, tier⟩, budget, bracket, equity⟩
      exact { running, matched, reconciled, fresh, daily, weekly, count, grossHard, grossSoft, symbol,
              cluster, tier, budget, bracket, equity }
    · intro clears
      exact ⟨⟨clears.running, clears.matched, clears.reconciled, clears.fresh⟩,
        ⟨clears.daily, clears.weekly, clears.count, clears.grossHard, clears.grossSoft⟩,
        ⟨clears.symbol, clears.cluster, clears.tier⟩, clears.budget, clears.bracket, clears.equity⟩)

/-- Halving keeps the sign of the budget. -/
theorem tradeRiskBudget_pos_iff : 0 < kernel.tradeRiskBudget signal account ↔
    0 < kernel.policy.tradeRiskBpsDefault * signal.conviction ∧ 0 < kernel.policy.tradeRiskBpsMax := by
  have halved : 0 < kernel.tradeRiskBudget signal account ↔
      0 < min (kernel.policy.tradeRiskBpsDefault * signal.conviction) kernel.policy.tradeRiskBpsMax := by
    dsimp only [tradeRiskBudget]
    split_ifs
    · exact mul_pos_iff_of_pos_right (by norm_num)
    · exact Iff.rfl
  rw [halved, lt_min_iff]

theorem clamped_pos_iff {a b : ℚ} : 0 < max (a - b) 0 ↔ b < a := by
  rw [lt_max_iff, sub_pos, or_iff_left (lt_irrefl 0)]

/-- An approval has passed every guard. -/
theorem clears_of_approved {decision : RiskDecision} (evaluated : kernel.evaluate signal account = .ok decision)
    (approved : decision.status = .approved) : Clears kernel signal account := by
  obtain ⟨tierPolicy, cleared, found, unblocked, sized⟩ := evaluate_approved evaluated approved
  have funded := (approved_positive evaluated approved).1
  obtain ⟨running, matched, reconciled, fresh, daily, weekly, gross, count⟩ :=
    accountVeto_eq_none_iff.mp cleared
  obtain ⟨enabled, concentration, -⟩ := symbolVeto_eq_none_iff.mp unblocked
  have notional := sized.positive.trans_le sized.tier_after
  have pct := (mul_pos_iff_of_pos_left funded).mp notional
  refine ⟨running, matched, reconciled, fresh, daily, weekly, count, gross,
    clamped_pos_iff.mp sized.gross, concentration, ?_,
    ⟨tierPolicy, found, enabled, (div_pos_iff_of_pos_right (by norm_num)).mp pct⟩,
    tradeRiskBudget_pos_iff.mp (sized.budget_pos funded), ?_, funded⟩
  · intro cap configured
    exact clamped_pos_iff.mp (sized.cluster _ (by simp [remainingCluster, configured]))
  · intro cap given
    refine sized.positive.trans_le (sized.least _ ?_)
    simp [notionalCaps, leverageBracketNotionalCap, given]

namespace Clears

theorem remainingCluster_pos (clears : Clears kernel signal account) :
    ∀ room ∈ kernel.remainingCluster signal account, 0 < room := by
  intro room given
  obtain ⟨cap, configured, rfl⟩ := Option.map_eq_some_iff.mp given
  exact clamped_pos_iff.mpr (clears.cluster cap configured)

/-- Every notional cap leaves room. -/
theorem notionalCaps_pos (clears : Clears kernel signal account) {tierPolicy : SymbolTierPolicy}
    (pct : 0 < tierPolicy.maxSymbolNotionalPct) :
    ∀ cap ∈ kernel.notionalCaps signal account tierPolicy, 0 < cap := by
  have equity := clears.equity
  have budget : 0 < kernel.tradeRiskBudget signal account := tradeRiskBudget_pos_iff.mpr clears.budget
  have distance : 0 < max signal.stopDistancePct (1 / 1000000) := lt_max_of_lt_right (by norm_num)
  intro cap listed
  simp only [notionalCaps, List.append_assoc, List.mem_append, List.mem_cons, List.not_mem_nil,
    or_false, Option.mem_toList, Option.map_eq_some_iff] at listed
  rcases listed with (rfl | rfl | rfl | rfl) | ⟨room, given, rfl⟩ | bracket
  · exact mul_pos equity (clamped_pos_iff.mpr clears.grossSoft)
  · positivity
  · positivity
  · exact mul_pos equity (clamped_pos_iff.mpr clears.symbol)
  · exact mul_pos equity (clears.remainingCluster_pos room given)
  · obtain ⟨limit, given, rfl⟩ := Option.map_eq_some_iff.mp bracket
    exact clears.bracket limit given

theorem approved (clears : Clears kernel signal account) :
    ∃ decision, kernel.evaluate signal account = .ok decision ∧ decision.status = .approved := by
  obtain ⟨tierPolicy, found, enabled, pct⟩ := clears.tier
  have cleared : kernel.accountVeto account = none := accountVeto_eq_none_iff.mpr
    ⟨clears.running, clears.matched, clears.reconciled, clears.fresh, clears.daily, clears.weekly,
      clears.grossHard, clears.count⟩
  have unblocked : kernel.symbolVeto signal account tierPolicy = none := by
    refine symbolVeto_eq_none_iff.mpr ⟨enabled, clears.symbol, ?_⟩
    cases configured : kernel.policy.clusterCaps.get? (kernel.clusterName signal) with
    | none => rfl
    | some cap => simpa [capReached] using clears.cluster cap configured
  have gross : 0 < kernel.remainingGross account := clamped_pos_iff.mpr clears.grossSoft
  have symbol : 0 < kernel.remainingSymbol signal account := clamped_pos_iff.mpr clears.symbol
  exact ⟨_, evaluate_of_headroom cleared found unblocked,
    (sizeTrade_of_headroom _ gross symbol clears.remainingCluster_pos (clears.notionalCaps_pos pct)).1⟩

end Clears

/-- The kernel approves exactly the inputs that clear every guard. -/
theorem approves_iff_clears :
    (∃ decision, kernel.evaluate signal account = .ok decision ∧ decision.status = .approved) ↔
      Clears kernel signal account :=
  ⟨fun ⟨_, evaluated, approved⟩ => clears_of_approved evaluated approved, Clears.approved⟩

/-- A cleared input can only meet the two vetoes that the code does not test. -/
theorem Clears.veto_iff (clears : Clears kernel signal account) :
    VetoCondition kernel signal account ↔
      signal.stopDistancePct ≤ 0 ∨ ∃ cap, signal.leverageBracketCap = some cap ∧ cap ≤ 0 := by
  constructor
  · intro veto
    cases veto with
    | killSwitch active => simp [clears.running] at active
    | stateMismatch mismatched => simp [clears.matched] at mismatched
    | reconcileFailure failed => exact absurd failed clears.reconciled.not_gt
    | userStreamStale stale => exact absurd stale clears.fresh.not_gt
    | dailyDrawdown reached => exact absurd reached clears.daily.not_ge
    | weeklyDrawdown reached => exact absurd reached clears.weekly.not_ge
    | openPositions reached => exact absurd reached clears.count.not_ge
    | grossHard reached => exact absurd reached clears.grossHard.not_ge
    | grossSoft reached => exact absurd reached clears.grossSoft.not_ge
    | symbolExposure reached => exact absurd reached clears.symbol.not_ge
    | clusterExposure cap configured reached =>
        exact absurd reached (clears.cluster cap configured).not_ge
    | tierDisabled tierPolicy found disabled =>
        obtain ⟨other, same, enabled, -⟩ := clears.tier
        rw [found] at same
        cases same
        simp [disabled] at enabled
    | stopDistance unusable => exact .inl unusable
    | leverageBracket cap given notPositive => exact .inr ⟨cap, given, notPositive⟩
    | equity exhausted => exact absurd exhausted clears.equity.not_ge
  · rintro (unusable | ⟨cap, given, notPositive⟩)
    · exact .stopDistance unusable
    · exact .leverageBracket cap given notPositive

/-- The vetoes are complete on exactly the inputs that another guard refuses, or
that have a usable stop distance and no bracket cap at or below zero. -/
theorem vetoes_complete_iff (kernel : RiskKernel) (signal : SignalCandidate) (account : AccountSnapshot) :
    (VetoCondition kernel signal account →
      ∀ decision, kernel.evaluate signal account = .ok decision → decision.status ≠ .approved) ↔
    (Clears kernel signal account →
      0 < signal.stopDistancePct ∧ ∀ cap, signal.leverageBracketCap = some cap → 0 < cap) := by
  constructor
  · intro complete clears
    obtain ⟨decision, evaluated, approved⟩ := clears.approved
    have unvetoed : ¬ VetoCondition kernel signal account :=
      fun veto => complete veto decision evaluated approved
    rw [clears.veto_iff, not_or, not_le] at unvetoed
    refine ⟨unvetoed.1, ?_⟩
    intro cap given
    by_contra notPositive
    exact unvetoed.2 ⟨cap, given, not_lt.mp notPositive⟩
  · intro usable veto decision evaluated approved
    have clears := clears_of_approved evaluated approved
    obtain ⟨distance, bracket⟩ := usable clears
    rcases clears.veto_iff.mp veto with unusable | ⟨cap, given, notPositive⟩
    · exact absurd unusable distance.not_ge
    · exact absurd notPositive (bracket cap given).not_ge

/-- A stop at the entry price. -/
def stoplessSignal : SignalCandidate :=
  { symbol := "BTCUSDT", regime := .trend, side := .buy, conviction := 8 / 10, expectedEdgeBps := 18,
    stopDistancePct := 0, rationale := [] }

/-- The clamp prices a stop distance of zero as a millionth, and the symbol cap
is approved in full. -/
theorem zero_stop_distance_approved :
    VetoCondition (configuredKernel {} configuredTiers) stoplessSignal
        { equity := 10000, dailyDrawdownPct := 0, weeklyDrawdownPct := 0, grossExposure := 0,
          openPositions := 0 } ∧
      (configuredKernel {} configuredTiers).evaluate stoplessSignal
          { equity := 10000, dailyDrawdownPct := 0, weeklyDrawdownPct := 0, grossExposure := 0,
            openPositions := 0 } =
        .ok { status := .approved, reason := "approved", symbolTier := some .core,
              approvedNotional := 2500, approvedLeverage := 1, riskBudgetBps := 28 } :=
  ⟨.stopDistance (by decide +kernel), by decide +kernel⟩

end CatsPy.RiskKernel
