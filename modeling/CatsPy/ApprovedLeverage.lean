import CatsPy.RiskCaps
import CatsPy.Bootstrap

/-!
# Approved leverage

The size of an approval is the least of the caps, its leverage is clamped by
the tier alone. What the caps have to satisfy for the one to carry the other.
-/
namespace CatsPy.RiskKernel
open PythonValues

section Limits

variable {kernel : RiskKernel} {signal : SignalCandidate} {account : AccountSnapshot}
  {tierPolicy : SymbolTierPolicy}

/-- Some configured cap keeps the notional within a multiple of the equity. -/
def SizeWithin (kernel : RiskKernel) (signal : SignalCandidate) (account : AccountSnapshot)
    (tierPolicy : SymbolTierPolicy) (limit : ℚ) : Prop :=
  kernel.policy.grossExposureSoft - account.grossExposure ≤ limit ∨
  min (kernel.policy.tradeRiskBpsDefault * signal.conviction) kernel.policy.tradeRiskBpsMax *
      (if account.dailyDrawdownPct ≤ kernel.policy.dailyDrawdownSoftPct then 1 / 2 else 1) ≤
    limit * 10000 * max signal.stopDistancePct (1 / 1000000) ∨
  tierPolicy.maxSymbolNotionalPct ≤ limit * 100 ∨
  kernel.policy.symbolConcentrationCap - currentSymbolExposure account signal ≤ limit ∨
  (∃ cap ∈ kernel.policy.clusterCaps.get? (kernel.clusterName signal),
    cap - kernel.clusterExposure account (kernel.clusterName signal) ≤ limit) ∨
  ∃ cap ∈ signal.leverageBracketCap,
    cap * kernel.policy.leverageBracketBuffer ≤ account.equity * limit

/-- The least of a list is within a limit when one of its elements is. -/
theorem least_le_iff {caps : List ℚ} {least limit : ℚ} (h : caps.min? = some least) :
    least ≤ limit ↔ ∃ cap ∈ caps, cap ≤ limit := by
  obtain ⟨attained, lower⟩ := List.min?_eq_some_iff.mp h
  constructor
  · intro within
    exact ⟨least, attained, within⟩
  · rintro ⟨cap, member, within⟩
    exact (lower cap member).trans within

theorem budget_cap_le_iff (equity : 0 < account.equity) (limit : ℚ) :
    account.equity * (kernel.tradeRiskBudget signal account / 10000) /
        max signal.stopDistancePct (1 / 1000000) ≤ account.equity * limit ↔
      min (kernel.policy.tradeRiskBpsDefault * signal.conviction) kernel.policy.tradeRiskBpsMax *
          (if account.dailyDrawdownPct ≤ kernel.policy.dailyDrawdownSoftPct then 1 / 2 else 1) ≤
        limit * 10000 * max signal.stopDistancePct (1 / 1000000) := by
  have distance : 0 < max signal.stopDistancePct (1 / 1000000) := lt_max_of_lt_right (by norm_num)
  have budget : kernel.tradeRiskBudget signal account =
      min (kernel.policy.tradeRiskBpsDefault * signal.conviction) kernel.policy.tradeRiskBpsMax *
        (if account.dailyDrawdownPct ≤ kernel.policy.dailyDrawdownSoftPct then 1 / 2 else 1) := by
    unfold tradeRiskBudget
    split_ifs <;> simp
  rw [mul_div_assoc, mul_le_mul_iff_right₀ equity, div_le_iff₀ distance, div_le_iff₀ (by norm_num),
    ← budget]
  constructor <;> intro h <;> linarith

/-- On an approval a multiple of the equity bounds some cap exactly when the inputs say so. -/
theorem cap_le_iff {decision : RiskDecision} (equity : 0 < account.equity)
    (sized : Sized kernel signal account tierPolicy decision) (limit : ℚ) :
    (∃ cap ∈ kernel.notionalCaps signal account tierPolicy, cap ≤ account.equity * limit) ↔
      SizeWithin kernel signal account tierPolicy limit := by
  have gross : kernel.remainingGross account = kernel.policy.grossExposureSoft - account.grossExposure :=
    clamped_eq sized.gross
  have symbol : kernel.remainingSymbol signal account =
      kernel.policy.symbolConcentrationCap - currentSymbolExposure account signal :=
    clamped_eq sized.symbol
  have tier : tierPolicy.maxSymbolNotionalPct / 100 ≤ limit ↔
      tierPolicy.maxSymbolNotionalPct ≤ limit * 100 := div_le_iff₀ (by norm_num)
  have cluster : (∃ remaining ∈ kernel.remainingCluster signal account, remaining ≤ limit) ↔
      ∃ cap ∈ kernel.policy.clusterCaps.get? (kernel.clusterName signal),
        cap - kernel.clusterExposure account (kernel.clusterName signal) ≤ limit := by
    cases configured : kernel.policy.clusterCaps.get? (kernel.clusterName signal) with
    | none => simp [remainingCluster, configured]
    | some cap =>
        have headroom : kernel.remainingCluster signal account =
            some (max (cap - kernel.clusterExposure account (kernel.clusterName signal)) 0) := by
          simp [remainingCluster, configured]
        rw [clamped_eq (sized.cluster _ headroom)] at headroom
        simp [headroom]
  unfold SizeWithin
  rw [← budget_cap_le_iff equity, ← cluster, ← tier]
  simp only [notionalCaps, leverageBracketNotionalCap, gross, symbol, List.mem_append, List.mem_cons,
    List.not_mem_nil, or_false, Option.mem_toList, Option.mem_def, Option.map_eq_some_iff, or_and_right,
    exists_or, exists_eq_left, or_assoc, exists_exists_and_eq_and, mul_le_mul_iff_right₀ equity]

end Limits

/-- The leverage of an approval carries its size exactly when the caps keep the
size within the equity times the tier's maximum leverage. -/
theorem approved_leverage_carries_iff (kernel : RiskKernel) (signal : SignalCandidate)
    (account : AccountSnapshot) (decision : RiskDecision)
    (evaluated : kernel.evaluate signal account = .ok decision)
    (approved : decision.status = .approved) :
    decision.approvedNotional ≤ account.equity * decision.approvedLeverage ↔
      ∀ tierPolicy ∈ kernel.tierPolicies.get? (kernel.tierOf signal.symbol),
        (1 / 1000000 ≤ account.equity ∨ SizeWithin kernel signal account tierPolicy 1) ∧
        SizeWithin kernel signal account tierPolicy tierPolicy.maxLeverage := by
  obtain ⟨equity, positive⟩ := approved_positive evaluated approved
  obtain ⟨tierPolicy, -, found, -, rfl⟩ := evaluate_sizeTrade evaluated approved
  have sized := sizeTrade_approved approved
  have within := fun limit => (least_le_iff (sizeTrade_notional approved)).trans
    (cap_le_iff equity sized limit)
  generalize kernel.sizeTrade signal account (kernel.tierOf signal.symbol) tierPolicy = decision
    at sized positive within ⊢
  have floor : decision.approvedNotional ≤
      account.equity * max (decision.approvedNotional / max account.equity (1 / 1000000)) 1 ↔
      1 / 1000000 ≤ account.equity ∨ SizeWithin kernel signal account tierPolicy 1 := by
    rw [mul_max_of_nonneg _ _ equity.le, le_max_iff, within 1]
    refine or_congr_left ?_
    -- the floored equity only matters where the equity is below it
    by_cases large : 1 / 1000000 ≤ account.equity
    · rw [max_eq_left large, mul_div_cancel₀ _ equity.ne']
      exact iff_of_true le_rfl large
    · have small : account.equity < 1 / 1000000 := lt_of_not_ge large
      rw [max_eq_right small.le]
      refine iff_of_false (not_le.mpr ?_) large
      linarith [mul_lt_mul_of_pos_right small positive]
  simp only [found, Option.mem_def, Option.some.injEq, forall_eq']
  rw [sized.leverage, mul_min_of_nonneg _ _ equity.le, le_min_iff, floor, within tierPolicy.maxLeverage]

section Configured

/-- Raised caps around a core tier that keeps its default leverage. -/
def raisedRisk : RiskConfig where
  risk := .dict [("trade_risk_bps_default", .int 200), ("trade_risk_bps_max", .int 200),
    ("gross_exposure_soft", .int 2), ("symbol_concentration_cap", .int 2),
    ("cluster_caps", .dict [("core", .int 2)])]
  tiers := .ofList [("core", .dict [("max_symbol_notional_pct", .int 150)])]

def tightStop : SignalCandidate where
  symbol := "BTCUSDT"
  regime := .trend
  side := .buy
  conviction := 1
  expectedEdgeBps := 18
  stopDistancePct := 1 / 100
  rationale := []

def flatAccount : AccountSnapshot where
  equity := 10000
  dailyDrawdownPct := 0
  weeklyDrawdownPct := 0
  grossExposure := 0
  openPositions := 0

/-- Half again the equity is approved at a leverage of one. -/
theorem raised_caps_outgrow_leverage :
    ∃ services decision, bootstrap raisedRisk { core := ["BTCUSDT"] } .paper = .ok services ∧
      services.decisionEngine.riskKernel.evaluate tightStop flatAccount = .ok decision ∧
      decision.status = .approved ∧ decision.approvedNotional = 15000 ∧ decision.approvedLeverage = 1 ∧
      ¬ decision.approvedNotional ≤ flatAccount.equity * decision.approvedLeverage :=
  ⟨_, _, rfl, rfl, by decide +kernel, by decide +kernel, by decide +kernel, by decide +kernel⟩

def quarterRisk : RiskConfig where
  tiers := .ofList [("core", .dict [("max_symbol_notional_pct", .int 25)])]

/-- A quarter of the equity is carried at a leverage of one. -/
theorem approved_leverage_carries_quarter :
    ∃ services decision, bootstrap quarterRisk { core := ["BTCUSDT"] } .paper = .ok services ∧
      services.decisionEngine.riskKernel.evaluate tightStop flatAccount = .ok decision ∧
      decision.status = .approved ∧
      decision.approvedNotional ≤ flatAccount.equity * decision.approvedLeverage := by
  let quarter : RiskDecision :=
    { status := .approved, reason := "approved", symbolTier := some .core
      approvedNotional := 2500, approvedLeverage := 1, riskBudgetBps := 35 }
  have evaluated : ∀ services, bootstrap quarterRisk { core := ["BTCUSDT"] } .paper = .ok services →
      services.decisionEngine.riskKernel.evaluate tightStop flatAccount = .ok quarter := by
    rintro _ ⟨⟩
    decide +kernel
  refine ⟨_, quarter, rfl, evaluated _ rfl, rfl,
    (approved_leverage_carries_iff _ _ _ _ (evaluated _ rfl) rfl).mpr ?_⟩
  intro tierPolicy found
  cases found
  exact ⟨.inl (by decide +kernel), .inr (.inr (.inl (by decide +kernel)))⟩

end Configured

end CatsPy.RiskKernel
