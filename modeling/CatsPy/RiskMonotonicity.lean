import CatsPy.RiskTightening

/-!
# Riskier accounts

An account that is at least as risky in every field is approved for no more.
Every account-wide guard, the cluster sum and every cap is monotone in the
account.
-/
namespace CatsPy
open PythonValues

/-- The second account has the same equity and is at least as risky in every
field; a symbol without an entry counts as zero exposure. -/
structure AccountSnapshot.Riskier (safe risky : AccountSnapshot) : Prop where
  equity : risky.equity = safe.equity
  killSwitch : safe.killSwitchActive = true → risky.killSwitchActive = true
  mismatch : safe.stateMismatch = true → risky.stateMismatch = true
  failures : safe.reconcileFailures ≤ risky.reconcileFailures
  stale : safe.userStreamStaleSeconds ≤ risky.userStreamStaleSeconds
  daily : risky.dailyDrawdownPct ≤ safe.dailyDrawdownPct
  weekly : risky.weeklyDrawdownPct ≤ safe.weeklyDrawdownPct
  gross : safe.grossExposure ≤ risky.grossExposure
  positions : safe.openPositions ≤ risky.openPositions
  exposures : ∀ symbol, safe.symbolGrossExposures.getD symbol 0 ≤ risky.symbolGrossExposures.getD symbol 0

/-- The same with at most the equity. -/
structure AccountSnapshot.Strained (safe risky : AccountSnapshot) : Prop where
  equity : risky.equity ≤ safe.equity
  killSwitch : safe.killSwitchActive = true → risky.killSwitchActive = true
  mismatch : safe.stateMismatch = true → risky.stateMismatch = true
  failures : safe.reconcileFailures ≤ risky.reconcileFailures
  stale : safe.userStreamStaleSeconds ≤ risky.userStreamStaleSeconds
  daily : risky.dailyDrawdownPct ≤ safe.dailyDrawdownPct
  weekly : risky.weeklyDrawdownPct ≤ safe.weeklyDrawdownPct
  gross : safe.grossExposure ≤ risky.grossExposure
  positions : safe.openPositions ≤ risky.openPositions
  exposures : ∀ symbol, safe.symbolGrossExposures.getD symbol 0 ≤ risky.symbolGrossExposures.getD symbol 0

theorem AccountSnapshot.Riskier.strained {safe risky : AccountSnapshot} (riskier : safe.Riskier risky) :
    safe.Strained risky :=
  { riskier with equity := riskier.equity.le }

def AccountSnapshot.NonNegative (account : AccountSnapshot) : Prop :=
  ∀ exposure ∈ account.symbolGrossExposures.values, 0 ≤ exposure

namespace RiskKernel

variable {safe risky : AccountSnapshot} (strained : safe.Strained risky) (kernel : RiskKernel)
  (signal : SignalCandidate)

theorem clusterExposure_eq_class_sum (account : AccountSnapshot) (name : String) :
    kernel.clusterExposure account name =
      (account.symbolGrossExposures.entries.map fun entry =>
        if kernel.clusterOf entry.1 = name then entry.2 else 0).sum := by
  rw [clusterExposure_eq_sum, List.sum_map_ite]
  simp

include strained

theorem clusterExposure_mono (nonneg : risky.NonNegative) (name : String) :
    kernel.clusterExposure safe name ≤ kernel.clusterExposure risky name := by
  rw [clusterExposure_eq_class_sum, clusterExposure_eq_class_sum]
  apply OrderedDict.sum_le_of_covered (fun symbol => kernel.clusterOf symbol = name)
    safe.symbolGrossExposures.nodup risky.symbolGrossExposures nonneg
  intro entry listed
  have stored := (safe.symbolGrossExposures.get?_eq_some_iff entry.1 entry.2).mpr listed
  simpa [OrderedDict.getD, stored] using strained.exposures entry.1

theorem currentSymbolExposure_mono :
    currentSymbolExposure safe signal ≤ currentSymbolExposure risky signal := strained.exposures signal.symbol

theorem remainingGross_anti : kernel.remainingGross risky ≤ kernel.remainingGross safe :=
  max_le_max (sub_le_sub_left strained.gross _) le_rfl

theorem remainingSymbol_anti : kernel.remainingSymbol signal risky ≤ kernel.remainingSymbol signal safe :=
  max_le_max (sub_le_sub_left (currentSymbolExposure_mono strained signal) _) le_rfl

/-- A riskier account leaves a cluster no more room, and is capped by a cluster
only if the safer one is. -/
theorem remainingCluster_anti (nonneg : risky.NonNegative) {room : ℚ}
    (given : kernel.remainingCluster signal safe = some room) :
    ∃ tighter, kernel.remainingCluster signal risky = some tighter ∧ 0 ≤ tighter ∧ tighter ≤ room := by
  obtain ⟨cap, configured, rfl⟩ := Option.map_eq_some_iff.mp given
  refine ⟨_, by rw [remainingCluster, configured, Option.map_some], le_max_right _ _, ?_⟩
  exact max_le_max (sub_le_sub_left (clusterExposure_mono strained kernel nonneg _) _) le_rfl

/-- A positive budget of the riskier account is at most the safer one's: only a
halving can tell them apart. -/
theorem tradeRiskBudget_anti (positive : 0 < kernel.tradeRiskBudget signal risky) :
    kernel.tradeRiskBudget signal risky ≤ kernel.tradeRiskBudget signal safe := by
  simp only [tradeRiskBudget] at positive ⊢
  by_cases soft : safe.dailyDrawdownPct ≤ kernel.policy.dailyDrawdownSoftPct
  · simp only [if_pos soft, if_pos (strained.daily.trans soft), le_refl]
  · rw [if_neg soft]
    split_ifs at positive ⊢
    · linarith
    · exact le_rfl

theorem accountVeto_none_of_strained (cleared : kernel.accountVeto risky = none) :
    kernel.accountVeto safe = none := by
  obtain ⟨running, matched, reconciled, fresh, daily, weekly, gross, count⟩ :=
    accountVeto_eq_none_iff.mp cleared
  refine accountVeto_eq_none_iff.mpr ⟨?_, ?_, strained.failures.trans reconciled,
    strained.stale.trans fresh, daily.trans_le strained.daily, weekly.trans_le strained.weekly,
    strained.gross.trans_lt gross, strained.positions.trans_lt count⟩
  · exact Bool.eq_false_iff.mpr fun active => by simp [strained.killSwitch active] at running
  · exact Bool.eq_false_iff.mpr fun mismatched => by simp [strained.mismatch mismatched] at matched

theorem symbolVeto_none_of_strained (nonneg : risky.NonNegative) {tierPolicy : SymbolTierPolicy}
    (unblocked : kernel.symbolVeto signal risky tierPolicy = none) :
    kernel.symbolVeto signal safe tierPolicy = none := by
  obtain ⟨enabled, concentration, cluster⟩ := symbolVeto_eq_none_iff.mp unblocked
  refine symbolVeto_eq_none_iff.mpr
    ⟨enabled, (currentSymbolExposure_mono strained signal).trans_lt concentration, ?_⟩
  cases configured : kernel.policy.clusterCaps.get? (kernel.clusterName signal) with
  | none => rfl
  | some cap =>
      simp only [configured, capReached, Option.any_some, decide_eq_false_iff_not, not_le] at cluster ⊢
      exact (clusterExposure_mono strained kernel nonneg _).trans_lt cluster

/-- Every cap of the safer account has a cap of the strained one below it. -/
theorem notionalCaps_dominated_of_strained (nonneg : risky.NonNegative) (equity : 0 < risky.equity)
    {tierPolicy : SymbolTierPolicy} (pct : 0 ≤ tierPolicy.maxSymbolNotionalPct / 100)
    (positive : 0 < kernel.tradeRiskBudget signal risky) :
    ∀ cap ∈ kernel.notionalCaps signal safe tierPolicy,
      ∃ lower ∈ kernel.notionalCaps signal risky tierPolicy, lower ≤ cap := by
  have funded : 0 ≤ safe.equity := equity.le.trans strained.equity
  have scaled {tighter room : ℚ} (nonneg : 0 ≤ tighter) (le : tighter ≤ room) :
      risky.equity * tighter ≤ safe.equity * room := mul_le_mul strained.equity le nonneg funded
  have distance : 0 ≤ max signal.stopDistancePct (1 / 1000000) := le_max_of_le_right (by norm_num)
  have budget : risky.equity * (kernel.tradeRiskBudget signal risky / 10000) /
      max signal.stopDistancePct (1 / 1000000) ≤
      safe.equity * (kernel.tradeRiskBudget signal safe / 10000) /
        max signal.stopDistancePct (1 / 1000000) := by
    have smaller := tradeRiskBudget_anti strained kernel signal positive
    exact div_le_div_of_nonneg_right
      (scaled (by positivity) (div_le_div_of_nonneg_right smaller (by norm_num))) distance
  intro cap listed
  simp only [notionalCaps, List.append_assoc, List.mem_append, List.mem_cons,
    List.not_mem_nil, or_false] at listed ⊢
  rcases listed with (rfl | rfl | rfl | rfl) | clustered | bracket
  · exact ⟨_, .inl (.inl rfl), scaled (le_max_right _ _) (remainingGross_anti strained kernel)⟩
  · exact ⟨_, .inl (.inr (.inl rfl)), budget⟩
  · exact ⟨_, .inl (.inr (.inr (.inl rfl))), scaled pct le_rfl⟩
  · exact ⟨_, .inl (.inr (.inr (.inr rfl))), scaled (le_max_right _ _)
      (remainingSymbol_anti strained kernel signal)⟩
  · simp only [Option.mem_toList, Option.map_eq_some_iff] at clustered
    obtain ⟨room, given, rfl⟩ := clustered
    obtain ⟨tighter, stated, clamped, le⟩ := remainingCluster_anti strained kernel signal nonneg given
    exact ⟨_, .inr (.inl (by simp [stated])), scaled clamped le⟩
  · exact ⟨cap, .inr (.inr bracket), le_rfl⟩

/-- What is approved on the strained account is approved on the safer one, for at
least as large a notional. -/
theorem strained_gets_no_more (nonneg : risky.NonNegative) (decision : RiskDecision)
    (evaluated : kernel.evaluate signal risky = .ok decision) (approved : decision.status = .approved) :
    ∃ wider, kernel.evaluate signal safe = .ok wider ∧ wider.status = .approved ∧
      decision.approvedNotional ≤ wider.approvedNotional := by
  obtain ⟨tierPolicy, cleared, found, unblocked, sized⟩ := evaluate_approved evaluated approved
  have funded := (approved_positive evaluated approved).1
  have budget := sized.budget_pos funded
  have pct := (mul_pos_iff_of_pos_left funded).mp (sized.positive.trans_le sized.tier_after)
  have below : ∀ cap ∈ kernel.notionalCaps signal safe tierPolicy, decision.approvedNotional ≤ cap := by
    intro cap listed
    obtain ⟨lower, member, le⟩ :=
      notionalCaps_dominated_of_strained strained kernel signal nonneg funded pct.le budget cap listed
    exact (sized.least lower member).trans le
  obtain ⟨accepted, attained⟩ := sizeTrade_of_headroom (kernel.tierOf signal.symbol)
    (sized.gross.trans_le (remainingGross_anti strained kernel))
    (sized.symbol.trans_le (remainingSymbol_anti strained kernel signal))
    (fun room given => by
      obtain ⟨tighter, stated, -, le⟩ := remainingCluster_anti strained kernel signal nonneg given
      exact (sized.cluster tighter stated).trans_le le)
    fun cap listed => sized.positive.trans_le (below cap listed)
  exact ⟨_, evaluate_of_headroom (accountVeto_none_of_strained strained kernel cleared) found
    (symbolVeto_none_of_strained strained kernel signal nonneg unblocked), accepted, below _ attained⟩

omit strained

section Sample

def unexposedAccount : AccountSnapshot :=
  { equity := 10000, dailyDrawdownPct := 0, weeklyDrawdownPct := 0, grossExposure := 0, openPositions := 0 }

/-- The same equity, softly drawn down with some ETH open. -/
def exposedAccount : AccountSnapshot :=
  { unexposedAccount with
    dailyDrawdownPct := -2
    grossExposure := 1 / 10
    openPositions := 1
    symbolGrossExposures := .ofList [("ETHUSDT", 1 / 10)] }

def trendSignal : SignalCandidate :=
  { symbol := "BTCUSDT", regime := .trend, side := .buy, conviction := 8 / 10, expectedEdgeBps := 18,
    stopDistancePct := 2 / 100, rationale := [] }

theorem exposedAccount_riskier : unexposedAccount.Riskier exposedAccount where
  equity := rfl
  killSwitch := by decide
  mismatch := by decide
  failures := by decide
  stale := by decide +kernel
  daily := by decide +kernel
  weekly := by decide +kernel
  gross := by decide +kernel
  positions := by decide
  exposures := by
    intro symbol
    by_cases eth : symbol = "ETHUSDT"
    · subst eth
      decide +kernel
    · have absent : exposedAccount.symbolGrossExposures.getD symbol 0 = 0 := by
        rw [OrderedDict.getD, show exposedAccount.symbolGrossExposures =
          OrderedDict.empty.set "ETHUSDT" (1 / 10) from rfl, OrderedDict.get?_set_of_ne _ _ eth]
        rfl
      rw [absent]
      exact le_rfl

end Sample

end RiskKernel

end CatsPy
