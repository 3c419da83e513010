import CatsPy.RiskCaps

/-!
# Tightening a kernel

A kernel with smaller limits never approves more. Every guard and every cap is
monotone in the limits, so an approval of the tighter kernel is an approval of
the looser one, at no smaller size.
-/
namespace CatsPy
open PythonValues

/-- No limit of the first tier policy exceeds the second's. -/
structure SymbolTierPolicy.Tightens (tight loose : SymbolTierPolicy) : Prop where
  leverage : tight.maxLeverage ≤ loose.maxLeverage
  notional : tight.maxSymbolNotionalPct ≤ loose.maxSymbolNotionalPct
  enabled : tight.enabled = true → loose.enabled = true

/-- The account-wide limits may shrink, everything else in the policy is shared. -/
structure RiskPolicy.Tightens (tight loose : RiskPolicy) : Prop where
  openPositions : tight.maxOpenPositions ≤ loose.maxOpenPositions
  soft : tight.grossExposureSoft ≤ loose.grossExposureSoft
  hard : tight.grossExposureHard ≤ loose.grossExposureHard
  shared : { tight with
    maxOpenPositions := loose.maxOpenPositions
    grossExposureSoft := loose.grossExposureSoft
    grossExposureHard := loose.grossExposureHard } = loose

namespace RiskKernel

structure Tightens (tight loose : RiskKernel) : Prop where
  policy : tight.policy.Tightens loose.policy
  tiers : ∀ tier, ∀ strict ∈ tight.tierPolicies.get? tier,
    ∃ lax ∈ loose.tierPolicies.get? tier, strict.Tightens lax
  symbolTiers : tight.symbolTiers = loose.symbolTiers
  symbolClusters : tight.symbolClusters = loose.symbolClusters

section Inversion

variable {kernel : RiskKernel} {signal : SignalCandidate} {account : AccountSnapshot}

/-- Headroom and positive caps are all that sizing asks for, and it approves the
smallest cap. -/
theorem sizeTrade_of_headroom (tier : SymbolTier) {tierPolicy : SymbolTierPolicy}
    (gross : 0 < kernel.remainingGross account) (symbol : 0 < kernel.remainingSymbol signal account)
    (cluster : ∀ r ∈ kernel.remainingCluster signal account, 0 < r)
    (positive : ∀ cap ∈ kernel.notionalCaps signal account tierPolicy, 0 < cap) :
    (kernel.sizeTrade signal account tier tierPolicy).status = .approved ∧
      (kernel.sizeTrade signal account tier tierPolicy).approvedNotional ∈
        kernel.notionalCaps signal account tierPolicy := by
  obtain ⟨n, found⟩ := notionalCaps_least kernel signal account tierPolicy
  have attained := (List.min?_eq_some_iff.mp found).1
  have bracket : (kernel.leverageBracketNotionalCap signal).any (· ≤ 0) = false := by
    cases given : kernel.leverageBracketNotionalCap signal with
    | none => rfl
    | some cap => simpa using positive cap (by simp [notionalCaps, given])
  have clustered : (kernel.remainingCluster signal account).any (· ≤ 0) = false := by
    cases given : kernel.remainingCluster signal account with
    | none => rfl
    | some r => simpa using cluster r given
  simp [sizeTrade, not_le.mpr gross, not_le.mpr symbol, bracket, clustered, found,
    not_le.mpr (positive n attained), attained]

/-- A kernel without vetoes and with headroom approves. -/
theorem evaluate_of_headroom {tierPolicy : SymbolTierPolicy} (cleared : kernel.accountVeto account = none)
    (found : kernel.tierPolicies.get? (kernel.tierOf signal.symbol) = some tierPolicy)
    (unblocked : kernel.symbolVeto signal account tierPolicy = none) :
    kernel.evaluate signal account =
      .ok (kernel.sizeTrade signal account (kernel.tierOf signal.symbol) tierPolicy) := by
  simp only [evaluate, cleared, found, unblocked]

end Inversion

namespace Tightens

variable {tight loose : RiskKernel} (tightens : Tightens tight loose) (signal : SignalCandidate)
  (account : AccountSnapshot)
include tightens

theorem tierOf_eq (symbol : String) : tight.tierOf symbol = loose.tierOf symbol := by
  rw [tierOf, tierOf, tightens.symbolTiers]

theorem clusterOf_eq (symbol : String) : tight.clusterOf symbol = loose.clusterOf symbol := by
  rw [clusterOf, clusterOf, tightens.symbolClusters, tightens.tierOf_eq]

theorem clusterName_eq : tight.clusterName signal = loose.clusterName signal := by
  simp only [clusterName, tightens.clusterOf_eq]

theorem clusterExposure_eq (name : String) :
    tight.clusterExposure account name = loose.clusterExposure account name := by
  simp only [clusterExposure, tightens.clusterOf_eq]

/-- What reads only the shared part of the policy is the same for both. -/
theorem shared_eq {ρ : Type*} (read : RiskPolicy → ρ)
    (unread : ∀ policy maxOpenPositions grossExposureSoft grossExposureHard,
      read { policy with maxOpenPositions, grossExposureSoft, grossExposureHard } = read policy) :
    read tight.policy = read loose.policy :=
  (unread tight.policy _ _ _).symm.trans (congrArg read tightens.policy.shared)

theorem tradeRiskBudget_eq : tight.tradeRiskBudget signal account = loose.tradeRiskBudget signal account :=
  tightens.shared_eq (fun policy => ({ tight with policy } : RiskKernel).tradeRiskBudget signal account)
    fun _ _ _ _ => rfl

theorem leverageBracketNotionalCap_eq :
    tight.leverageBracketNotionalCap signal = loose.leverageBracketNotionalCap signal :=
  tightens.shared_eq
    (fun policy => ({ tight with policy } : RiskKernel).leverageBracketNotionalCap signal)
    fun _ _ _ _ => rfl

theorem clusterCaps_eq : tight.policy.clusterCaps = loose.policy.clusterCaps :=
  tightens.shared_eq RiskPolicy.clusterCaps fun _ _ _ _ => rfl

theorem symbolConcentrationCap_eq :
    tight.policy.symbolConcentrationCap = loose.policy.symbolConcentrationCap :=
  tightens.shared_eq RiskPolicy.symbolConcentrationCap fun _ _ _ _ => rfl

theorem remainingSymbol_eq : tight.remainingSymbol signal account = loose.remainingSymbol signal account := by
  rw [remainingSymbol, remainingSymbol, tightens.symbolConcentrationCap_eq]

theorem remainingCluster_eq :
    tight.remainingCluster signal account = loose.remainingCluster signal account := by
  simp only [remainingCluster, tightens.clusterCaps_eq, tightens.clusterName_eq,
    tightens.clusterExposure_eq]

theorem remainingGross_le : tight.remainingGross account ≤ loose.remainingGross account := by
  have soft := tightens.policy.soft
  exact max_le_max (by linarith) le_rfl

/-- What passes the tighter account-wide guards passes the looser ones. -/
theorem accountVeto_none (cleared : tight.accountVeto account = none) :
    loose.accountVeto account = none := by
  obtain ⟨running, matched, reconciled, fresh, daily, weekly, gross, count⟩ :=
    accountVeto_eq_none_iff.mp cleared
  have dailyHard := tightens.shared_eq RiskPolicy.dailyDrawdownHardPct fun _ _ _ _ => rfl
  have weeklyHard := tightens.shared_eq RiskPolicy.weeklyDrawdownHardPct fun _ _ _ _ => rfl
  refine accountVeto_eq_none_iff.mpr ⟨running, matched, reconciled, fresh, ?_, ?_, ?_, ?_⟩
  · rwa [← dailyHard]
  · rwa [← weeklyHard]
  · exact gross.trans_le tightens.policy.hard
  · exact count.trans_le tightens.policy.openPositions

theorem symbolVeto_none {strict lax : SymbolTierPolicy} (tier : strict.Tightens lax)
    (unblocked : tight.symbolVeto signal account strict = none) :
    loose.symbolVeto signal account lax = none := by
  obtain ⟨enabled, concentration, cluster⟩ := symbolVeto_eq_none_iff.mp unblocked
  rw [symbolVeto_eq_none_iff, ← tightens.symbolConcentrationCap_eq, ← tightens.clusterCaps_eq,
    ← tightens.clusterName_eq, ← tightens.clusterExposure_eq]
  exact ⟨tier.enabled enabled, concentration, cluster⟩

/-- Every cap of the looser kernel has a cap of the tighter one below it. -/
theorem notionalCaps_dominated {strict lax : SymbolTierPolicy} (tier : strict.Tightens lax)
    (equity : 0 < account.equity) :
    ∀ cap ∈ loose.notionalCaps signal account lax,
      ∃ lower ∈ tight.notionalCaps signal account strict, lower ≤ cap := by
  have gross := mul_le_mul_of_nonneg_left (tightens.remainingGross_le account) equity.le
  have notional := mul_le_mul_of_nonneg_left
    (div_le_div_of_nonneg_right tier.notional (by norm_num : (0 : ℚ) ≤ 100)) equity.le
  intro cap listed
  simp only [notionalCaps, ← tightens.tradeRiskBudget_eq, ← tightens.remainingSymbol_eq,
    ← tightens.remainingCluster_eq, ← tightens.leverageBracketNotionalCap_eq, List.append_assoc,
    List.mem_append, List.mem_cons, List.not_mem_nil, or_false] at listed
  rcases listed with (rfl | rfl | rfl | rfl) | shared
  · exact ⟨_, by simp [notionalCaps], gross⟩
  · exact ⟨_, by simp [notionalCaps], le_rfl⟩
  · exact ⟨_, by simp [notionalCaps], notional⟩
  · exact ⟨_, by simp [notionalCaps], le_rfl⟩
  · refine ⟨cap, ?_, le_rfl⟩
    simp only [notionalCaps, List.append_assoc, List.mem_append]
    exact Or.inr shared

/-- An approval of the tighter kernel is an approval of the looser one, for at
least as large a notional and leverage. -/
theorem approves {decision : RiskDecision} (evaluated : tight.evaluate signal account = .ok decision)
    (approved : decision.status = .approved) :
    ∃ wider, loose.evaluate signal account = .ok wider ∧ wider.status = .approved ∧
      decision.approvedNotional ≤ wider.approvedNotional ∧
      decision.approvedLeverage ≤ wider.approvedLeverage := by
  obtain ⟨strict, cleared, found, unblocked, sized⟩ := evaluate_approved evaluated approved
  obtain ⟨lax, lax_found, tier⟩ := tightens.tiers _ strict found
  rw [tightens.tierOf_eq] at lax_found
  have equity := (approved_positive evaluated approved).1
  have dominated := tightens.notionalCaps_dominated signal account tier equity
  have headroom : 0 < loose.remainingGross account :=
    sized.gross.trans_le (tightens.remainingGross_le account)
  have below : ∀ cap ∈ loose.notionalCaps signal account lax, decision.approvedNotional ≤ cap := by
    intro cap listed
    obtain ⟨lower, member, le⟩ := dominated cap listed
    exact (sized.least lower member).trans le
  obtain ⟨accepted, attained⟩ := sizeTrade_of_headroom (loose.tierOf signal.symbol) headroom
    (tightens.remainingSymbol_eq signal account ▸ sized.symbol)
    (tightens.remainingCluster_eq signal account ▸ sized.cluster)
    fun cap listed => sized.positive.trans_le (below cap listed)
  have notional := below _ attained
  refine ⟨_, evaluate_of_headroom (tightens.accountVeto_none account cleared) lax_found
    (tightens.symbolVeto_none signal account tier unblocked), accepted, notional, ?_⟩
  rw [sized.leverage, (sizeTrade_approved accepted).leverage]
  have scale : 0 < max account.equity (1 / 1000000) := lt_max_of_lt_left equity
  exact min_le_min (max_le_max (div_le_div_of_nonneg_right notional scale.le) le_rfl) tier.leverage

end Tightens

end RiskKernel

end CatsPy
