import CatsPy.RiskKernel
import Mathlib.Tactic.Linarith
import Mathlib.Tactic.FieldSimp
import Mathlib.Tactic.Positivity

/-!
# Caps of an approval

What an approval of the kernel implies. `evaluate_approved` inverts the kernel
once; every cap below is read off the sizing it exposes.
-/
namespace CatsPy.RiskKernel
open PythonValues

theorem accountVeto_not_approved {kernel : RiskKernel} {account : AccountSnapshot} {veto : RiskDecision}
    (h : kernel.accountVeto account = some veto) : veto.status ≠ .approved := by
  unfold accountVeto at h
  split_ifs at h <;> cases h <;> simp [halted, rejected]

theorem symbolVeto_not_approved {kernel : RiskKernel} {signal : SignalCandidate}
    {account : AccountSnapshot} {tierPolicy : SymbolTierPolicy} {veto : RiskDecision}
    (h : kernel.symbolVeto signal account tierPolicy = some veto) : veto.status ≠ .approved := by
  dsimp only [symbolVeto] at h
  split_ifs at h <;> cases h <;> simp [rejected]

/-- The account passes exactly when every account-wide guard does. -/
theorem accountVeto_eq_none_iff {kernel : RiskKernel} {account : AccountSnapshot} :
    kernel.accountVeto account = none ↔
    account.killSwitchActive = false ∧ account.stateMismatch = false ∧ account.reconcileFailures ≤ 0 ∧
      account.userStreamStaleSeconds ≤ 90 ∧
      kernel.policy.dailyDrawdownHardPct < account.dailyDrawdownPct ∧
      kernel.policy.weeklyDrawdownHardPct < account.weeklyDrawdownPct ∧
      account.grossExposure < kernel.policy.grossExposureHard ∧
      account.openPositions < kernel.policy.maxOpenPositions := by
  simp [accountVeto, ite_eq_iff]

theorem symbolVeto_eq_none_iff {kernel : RiskKernel} {signal : SignalCandidate}
    {account : AccountSnapshot} {tierPolicy : SymbolTierPolicy} :
    kernel.symbolVeto signal account tierPolicy = none ↔ tierPolicy.enabled = true ∧
      currentSymbolExposure account signal < kernel.policy.symbolConcentrationCap ∧
      capReached (kernel.policy.clusterCaps.get? (kernel.clusterName signal))
        (kernel.clusterExposure account (kernel.clusterName signal)) = false := by
  simp [symbolVeto, ite_eq_iff]

/-- What sizing guarantees about an approved decision. -/
structure Sized (kernel : RiskKernel) (signal : SignalCandidate) (account : AccountSnapshot)
    (tierPolicy : SymbolTierPolicy) (decision : RiskDecision) : Prop where
  positive : 0 < decision.approvedNotional
  gross : 0 < kernel.remainingGross account
  symbol : 0 < kernel.remainingSymbol signal account
  cluster : ∀ r ∈ kernel.remainingCluster signal account, 0 < r
  least : ∀ cap ∈ kernel.notionalCaps signal account tierPolicy, decision.approvedNotional ≤ cap
  leverage : decision.approvedLeverage =
    min (max (decision.approvedNotional / max account.equity (1 / 1000000)) 1) tierPolicy.maxLeverage

theorem notionalCaps_least (kernel : RiskKernel) (signal : SignalCandidate) (account : AccountSnapshot)
    (tierPolicy : SymbolTierPolicy) :
    ∃ n, (kernel.notionalCaps signal account tierPolicy).min? = some n :=
  Option.isSome_iff_exists.mp (by simp [notionalCaps])

/-- An approved notional is the least of the caps. -/
theorem sizeTrade_notional {kernel : RiskKernel} {signal : SignalCandidate}
    {account : AccountSnapshot} {tier : SymbolTier} {tierPolicy : SymbolTierPolicy}
    (approved : (kernel.sizeTrade signal account tier tierPolicy).status = .approved) :
    (kernel.notionalCaps signal account tierPolicy).min? =
      some (kernel.sizeTrade signal account tier tierPolicy).approvedNotional := by
  obtain ⟨n, found⟩ := notionalCaps_least kernel signal account tierPolicy
  unfold sizeTrade at approved ⊢
  simp only [found, Option.getD_some] at approved ⊢
  split_ifs at approved ⊢ <;> first | rfl | cases approved

theorem sizeTrade_approved {kernel : RiskKernel} {signal : SignalCandidate}
    {account : AccountSnapshot} {tier : SymbolTier} {tierPolicy : SymbolTierPolicy}
    (approved : (kernel.sizeTrade signal account tier tierPolicy).status = .approved) :
    Sized kernel signal account tierPolicy (kernel.sizeTrade signal account tier tierPolicy) := by
  obtain ⟨n, found⟩ := notionalCaps_least kernel signal account tierPolicy
  have least := (List.min?_eq_some_iff.mp found).2
  unfold sizeTrade at approved ⊢
  simp only [found, Option.getD_some] at approved ⊢
  split_ifs at approved ⊢ with gross symbol cluster bracket small <;> try cases approved
  refine ⟨lt_of_not_ge small, lt_of_not_ge gross, lt_of_not_ge symbol, ?_, least, rfl⟩
  intro r member
  simp only [Option.mem_def.mp member, Option.any_some, decide_eq_true_eq] at cluster
  exact lt_of_not_ge cluster

/-- The kernel approves exactly through its sizing step. -/
theorem evaluate_sizeTrade {kernel : RiskKernel} {signal : SignalCandidate} {account : AccountSnapshot}
    {decision : RiskDecision} (h : kernel.evaluate signal account = .ok decision)
    (approved : decision.status = .approved) :
    ∃ tierPolicy, kernel.accountVeto account = none ∧
      kernel.tierPolicies.get? (kernel.tierOf signal.symbol) = some tierPolicy ∧
      kernel.symbolVeto signal account tierPolicy = none ∧
      decision = kernel.sizeTrade signal account (kernel.tierOf signal.symbol) tierPolicy := by
  unfold evaluate at h
  cases vetoed : kernel.accountVeto account with
  | some veto =>
      simp only [vetoed, Except.ok.injEq] at h
      exact absurd (h ▸ approved) (accountVeto_not_approved vetoed)
  | none =>
      cases found : kernel.tierPolicies.get? (kernel.tierOf signal.symbol) with
      | none => simp only [vetoed, found] at h; cases h
      | some tierPolicy =>
          cases blocked : kernel.symbolVeto signal account tierPolicy with
          | some veto =>
              simp only [vetoed, found, blocked, Except.ok.injEq] at h
              exact absurd (h ▸ approved) (symbolVeto_not_approved blocked)
          | none =>
              simp only [vetoed, found, blocked, Except.ok.injEq] at h
              exact ⟨tierPolicy, rfl, rfl, blocked, h.symm⟩

theorem evaluate_approved {kernel : RiskKernel} {signal : SignalCandidate} {account : AccountSnapshot}
    {decision : RiskDecision} (h : kernel.evaluate signal account = .ok decision)
    (approved : decision.status = .approved) :
    ∃ tierPolicy, kernel.accountVeto account = none ∧
      kernel.tierPolicies.get? (kernel.tierOf signal.symbol) = some tierPolicy ∧
      kernel.symbolVeto signal account tierPolicy = none ∧
      Sized kernel signal account tierPolicy decision := by
  obtain ⟨tierPolicy, unvetoed, found, unblocked, rfl⟩ := evaluate_sizeTrade h approved
  exact ⟨tierPolicy, unvetoed, found, unblocked, sizeTrade_approved approved⟩

/-- An approval is only given to positive equity, and is positive itself. -/
theorem approved_positive {kernel : RiskKernel} {signal : SignalCandidate}
    {account : AccountSnapshot} {risk : RiskDecision}
    (evaluated : kernel.evaluate signal account = .ok risk) (approved : risk.status = .approved) :
    0 < account.equity ∧ 0 < risk.approvedNotional := by
  obtain ⟨tierPolicy, -, -, -, sized⟩ := evaluate_approved evaluated approved
  have grossCap : risk.approvedNotional ≤ account.equity * kernel.remainingGross account :=
    sized.least _ (by simp [notionalCaps])
  exact ⟨(mul_pos_iff_of_pos_right sized.gross).mp (sized.positive.trans_le grossCap), sized.positive⟩

theorem symbolVeto_enabled {kernel : RiskKernel} {signal : SignalCandidate} {account : AccountSnapshot}
    {tierPolicy : SymbolTierPolicy} (h : kernel.symbolVeto signal account tierPolicy = none) :
    tierPolicy.enabled = true := by
  cases enabled : tierPolicy.enabled with
  | true => rfl
  | false => simp [symbolVeto, enabled] at h

/-- The exposure the kernel charges to a cluster is the sum over its members. -/
theorem clusterExposure_eq_sum (kernel : RiskKernel) (account : AccountSnapshot) (name : String) :
    kernel.clusterExposure account name =
      ((account.symbolGrossExposures.entries.filter fun entry =>
        kernel.clusterOf entry.1 = name).map Prod.snd).sum := by
  have loop : ∀ (entries : List (String × ℚ)) (total : ℚ),
      entries.foldl (fun total entry =>
        if kernel.clusterOf entry.1 = name then total + entry.2 else total) total =
      total + ((entries.filter fun entry => kernel.clusterOf entry.1 = name).map Prod.snd).sum := by
    intro entries
    induction entries with
    | nil => simp
    | cons entry rest ih =>
        intro total
        rw [List.foldl_cons, ih]
        by_cases same : kernel.clusterOf entry.1 = name
        · simp [same, add_assoc]
        · simp [same]
  rw [clusterExposure, loop, zero_add]

/-- Positive clamped headroom is the unclamped headroom. -/
theorem clamped_eq {headroom : ℚ} (positive : 0 < max headroom 0) : max headroom 0 = headroom := by
  rcases lt_max_iff.mp positive with inside | nothing
  · exact max_eq_left inside.le
  · exact absurd nothing (lt_irrefl 0)

theorem le_of_clamped_headroom {cap used equity n : ℚ} (open_headroom : 0 < max (cap - used) 0)
    (h : n ≤ equity * max (cap - used) 0) : used * equity + n ≤ cap * equity := by
  rw [clamped_eq open_headroom] at h
  linarith

namespace Sized

variable {kernel : RiskKernel} {signal : SignalCandidate} {account : AccountSnapshot}
  {tierPolicy : SymbolTierPolicy} {decision : RiskDecision}

theorem gross_after (sized : Sized kernel signal account tierPolicy decision) :
    account.grossExposure * account.equity + decision.approvedNotional ≤
      kernel.policy.grossExposureSoft * account.equity := by
  have cap : decision.approvedNotional ≤ account.equity * kernel.remainingGross account :=
    sized.least _ (by simp [notionalCaps])
  exact le_of_clamped_headroom sized.gross cap

theorem symbol_after (sized : Sized kernel signal account tierPolicy decision) :
    currentSymbolExposure account signal * account.equity + decision.approvedNotional ≤
      kernel.policy.symbolConcentrationCap * account.equity := by
  have cap : decision.approvedNotional ≤ account.equity * kernel.remainingSymbol signal account :=
    sized.least _ (by simp [notionalCaps])
  exact le_of_clamped_headroom sized.symbol cap

theorem cluster_after (sized : Sized kernel signal account tierPolicy decision) {cap : ℚ}
    (configured : kernel.policy.clusterCaps.get? (kernel.clusterName signal) = some cap) :
    ((account.symbolGrossExposures.entries.filter fun entry =>
      kernel.clusterOf entry.1 = kernel.clusterName signal).map Prod.snd).sum * account.equity +
        decision.approvedNotional ≤ cap * account.equity := by
  have headroom : kernel.remainingCluster signal account =
      some (max (cap - kernel.clusterExposure account (kernel.clusterName signal)) 0) := by
    simp [remainingCluster, configured]
  rw [← clusterExposure_eq_sum]
  exact le_of_clamped_headroom (sized.cluster _ headroom)
    (sized.least _ (by simp [notionalCaps, headroom]))

theorem tier_after (sized : Sized kernel signal account tierPolicy decision) :
    decision.approvedNotional ≤ account.equity * (tierPolicy.maxSymbolNotionalPct / 100) :=
  sized.least _ (by simp [notionalCaps])

/-- The risk budget of an approval is positive. -/
theorem budget_pos (sized : Sized kernel signal account tierPolicy decision) (equity : 0 < account.equity) :
    0 < kernel.tradeRiskBudget signal account := by
  have cap : decision.approvedNotional ≤ account.equity * (kernel.tradeRiskBudget signal account / 10000) /
      max signal.stopDistancePct (1 / 1000000) := sized.least _ (by simp [notionalCaps])
  have distance : 0 < max signal.stopDistancePct (1 / 1000000) := lt_max_of_lt_right (by norm_num)
  have scaled := (div_pos_iff_of_pos_right distance).mp (sized.positive.trans_le cap)
  have bps := (mul_pos_iff_of_pos_left equity).mp scaled
  exact (div_pos_iff_of_pos_right (by norm_num)).mp bps

end Sized

/-- A signal without a cluster of its own is charged to its symbol's. -/
theorem clusterName_of_unclustered (kernel : RiskKernel) (signal : SignalCandidate)
    (noCluster : ∀ name ∈ signal.cluster, name = "") :
    kernel.clusterName signal = kernel.clusterOf signal.symbol := by
  cases own : signal.cluster with
  | none => simp [clusterName, own]
  | some name => simp [clusterName, own, noCluster name own]

/-- The constitution's bounds on an approved notional and leverage. -/
structure WithinCaps (kernel : RiskKernel) (signal : SignalCandidate) (account : AccountSnapshot)
    (decision : RiskDecision) : Prop where
  equity : 0 < account.equity
  notional : 0 < decision.approvedNotional
  gross : account.grossExposure * account.equity + decision.approvedNotional ≤
    kernel.policy.grossExposureSoft * account.equity
  symbol : currentSymbolExposure account signal * account.equity + decision.approvedNotional ≤
    kernel.policy.symbolConcentrationCap * account.equity
  cluster : ∀ cap ∈ kernel.policy.clusterCaps.get? (kernel.clusterOf signal.symbol),
    ((account.symbolGrossExposures.entries.filter fun entry =>
      kernel.clusterOf entry.1 = kernel.clusterOf signal.symbol).map Prod.snd).sum * account.equity +
        decision.approvedNotional ≤ cap * account.equity
  tier : ∃ tierPolicy ∈ kernel.tierPolicies.get? (kernel.tierOf signal.symbol),
    tierPolicy.enabled = true ∧
    decision.approvedNotional ≤ account.equity * tierPolicy.maxSymbolNotionalPct / 100 ∧
    decision.approvedLeverage ≤ tierPolicy.maxLeverage
  risk : decision.approvedNotional * max signal.stopDistancePct (1 / 1000000) ≤
    account.equity * (min (kernel.policy.tradeRiskBpsDefault * signal.conviction)
      kernel.policy.tradeRiskBpsMax / 10000) *
      (if account.dailyDrawdownPct ≤ kernel.policy.dailyDrawdownSoftPct then 1 / 2 else 1)
  bracket : ∀ cap ∈ signal.leverageBracketCap,
    decision.approvedNotional ≤ cap * kernel.policy.leverageBracketBuffer

theorem approved_within_caps (kernel : RiskKernel) (signal : SignalCandidate)
    (account : AccountSnapshot) (decision : RiskDecision) (noCluster : ∀ name ∈ signal.cluster, name = "")
    (evaluated : kernel.evaluate signal account = .ok decision)
    (approved : decision.status = .approved) : WithinCaps kernel signal account decision := by
  obtain ⟨tierPolicy, -, found, unblocked, sized⟩ := evaluate_approved evaluated approved
  have name := clusterName_of_unclustered kernel signal noCluster
  have riskCap : decision.approvedNotional ≤
      account.equity * (kernel.tradeRiskBudget signal account / 10000) /
        max signal.stopDistancePct (1 / 1000000) := sized.least _ (by simp [notionalCaps])
  refine
    { equity := (approved_positive evaluated approved).1
      notional := sized.positive
      gross := sized.gross_after
      symbol := sized.symbol_after
      cluster := ?_
      tier := ⟨tierPolicy, found, symbolVeto_enabled unblocked, by linarith [sized.tier_after], ?_⟩
      risk := ?_
      bracket := ?_ }
  · intro cap configured
    rw [← name] at configured ⊢
    exact sized.cluster_after configured
  · rw [sized.leverage]
    exact min_le_right _ _
  · have distance : 0 < max signal.stopDistancePct (1 / 1000000) :=
      lt_max_of_lt_right (by norm_num)
    have scaled := (le_div_iff₀ distance).mp riskCap
    unfold tradeRiskBudget at scaled
    split_ifs at scaled ⊢ <;> linarith
  · intro cap given
    apply sized.least
    simp [notionalCaps, leverageBracketNotionalCap, Option.mem_def.mp given]

theorem approved_within_caps_btc :
    WithinCaps (configuredKernel {} configuredTiers)
      { symbol := "BTCUSDT", regime := .trend, side := .buy, conviction := 8 / 10,
        expectedEdgeBps := 18, stopDistancePct := 2 / 100, rationale := [] }
      { equity := 10000, dailyDrawdownPct := 0, weeklyDrawdownPct := 0, grossExposure := 1 / 10,
        openPositions := 1, symbolGrossExposures := .ofList [("ETHUSDT", 1 / 10)] }
      { status := .approved, reason := "approved", symbolTier := some .core,
        approvedNotional := 1400, approvedLeverage := 1, riskBudgetBps := 28 } :=
  approved_within_caps _ _ _ _ (by simp) (by decide +kernel) rfl

end CatsPy.RiskKernel
