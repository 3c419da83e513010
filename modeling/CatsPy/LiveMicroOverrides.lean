import CatsPy.ObjectHeap
import CatsPy.RiskTightening
import CatsPy.StateRuns

/-!
# The live_micro overrides

The overrides assign to copies of the policy and of every tier. Read back, the
copies are the tightened values; everything reachable before the call is as it
was. The kernel built on them approves a subset of what the original approves.
-/
namespace CatsPy
open PythonValues StateRuns RiskKernel

section Objects

/-- The objects the overrides touch. A tier table refers to its policies. -/
structure RiskObjects where
  policies : ObjectHeap RiskPolicy
  tiers : ObjectHeap SymbolTierPolicy
  tables : ObjectHeap (OrderedDict SymbolTier ℕ)

/-- `table[tier]`. -/
def tierRef (table : OrderedDict SymbolTier ℕ) (tier : SymbolTier) : Except PyError ℕ :=
  match table.get? tier with
  | some ref => .ok ref
  | none => .error ⟨.keyError, tier.repr⟩

/-- The comprehension that copies each tier policy. -/
def copyTiers (tiers : ObjectHeap SymbolTierPolicy) : List (SymbolTier × ℕ) →
    Except PyError (ObjectHeap SymbolTierPolicy × List (SymbolTier × ℕ))
  | [] => .ok (tiers, [])
  | (tier, ref) :: rest => do
      let policy ← fetchObject tiers ref
      let (grown, copies) ← copyTiers (tiers.alloc policy).1 rest
      return (grown, (tier, (tiers.alloc policy).2) :: copies)

/-- `apply_runtime_risk_overrides` on references: both copies are made first. -/
def overrideObjects (objects : RiskObjects) (policyRef tableRef : ℕ) (mode : RuntimeMode) :
    Except PyError (RiskObjects × ℕ × ℕ) := do
  let policy ← fetchObject objects.policies policyRef
  let table ← fetchObject objects.tables tableRef
  let (policies, runtimePolicy) := objects.policies.alloc policy
  let (tiers, copies) ← copyTiers objects.tiers table.entries
  let runtimeTiers : OrderedDict SymbolTier ℕ := .ofList copies
  let (tables, runtimeTable) := objects.tables.alloc runtimeTiers
  if mode ≠ .liveMicro then return ({ policies, tiers, tables }, runtimePolicy, runtimeTable)
  let policies := policies.assign runtimePolicy fun policy =>
    { policy with maxOpenPositions := min policy.maxOpenPositions liveMicroMaxOpenPositions }
  let policies := policies.assign runtimePolicy fun policy =>
    { policy with grossExposureSoft := min policy.grossExposureSoft liveMicroGrossExposureSoft }
  let policies := policies.assign runtimePolicy fun policy =>
    { policy with grossExposureHard := min policy.grossExposureHard liveMicroGrossExposureHard }
  let core ← tierRef runtimeTiers .core
  let tiers := tiers.assign core fun tier =>
    { tier with maxSymbolNotionalPct := min tier.maxSymbolNotionalPct liveMicroMaxSymbolNotionalPct }
  let tiers := tiers.assign core fun tier =>
    { tier with maxLeverage := min tier.maxLeverage liveMicroMaxLeverage }
  let liquidAlt ← tierRef runtimeTiers .liquidAlt
  let tiers := tiers.assign liquidAlt fun tier => { tier with enabled := false }
  let experimental ← tierRef runtimeTiers .experimental
  let tiers := tiers.assign experimental fun tier => { tier with enabled := false }
  return ({ policies, tiers, tables }, runtimePolicy, runtimeTable)

/-- The table's references lead to these tier policies. -/
def TableReads (heap : ObjectHeap SymbolTierPolicy) (table : OrderedDict SymbolTier ℕ)
    (tiers : TierPolicies) : Prop :=
  table.keys = tiers.keys ∧ ∀ tier, (table.get? tier).bind heap.read = tiers.get? tier

structure RiskObjects.Reads (objects : RiskObjects) (policyRef tableRef : ℕ) (policy : RiskPolicy)
    (tiers : TierPolicies) : Prop where
  policy : objects.policies.read policyRef = some policy
  table : ∃ table, objects.tables.read tableRef = some table ∧ TableReads objects.tiers table tiers

/-- Every object there was before is there unchanged. -/
structure RiskObjects.Extends (before after : RiskObjects) : Prop where
  policies : before.policies.Extends after.policies
  tiers : before.tiers.Extends after.tiers
  tables : before.tables.Extends after.tables

end Objects

section Copies

/-- The copies are new, pairwise different and read like the originals. -/
theorem copyTiers_spec {tiers : ObjectHeap SymbolTierPolicy} {entries : List (SymbolTier × ℕ)}
    (stored : ∀ entry ∈ entries, ∃ policy, tiers.read entry.2 = some policy) :
    ∃ grown copies, copyTiers tiers entries = .ok (grown, copies) ∧ tiers.Extends grown ∧
      copies.map Prod.fst = entries.map Prod.fst ∧
      (∀ copy ∈ copies, tiers.read copy.2 = none) ∧ (copies.map Prod.snd).Nodup ∧
      ∀ tier, (copies.lookup tier).bind grown.read = (entries.lookup tier).bind tiers.read := by
  induction entries generalizing tiers with
  | nil => exact ⟨tiers, [], rfl, .refl tiers, rfl, by simp, by simp, fun _ => rfl⟩
  | cons entry rest ih =>
      obtain ⟨tier, ref⟩ := entry
      obtain ⟨policy, found⟩ := stored _ List.mem_cons_self
      have kept := ObjectHeap.extends_alloc tiers policy
      have rest_stored : ∀ entry ∈ rest, ∃ policy', tiers.read entry.2 = some policy' :=
        fun entry member => stored entry (List.mem_cons_of_mem _ member)
      have rest_kept : ∀ entry ∈ rest, ∃ policy', (tiers.alloc policy).1.read entry.2 = some policy' :=
        fun entry member => (rest_stored entry member).imp fun policy' found => kept _ _ found
      obtain ⟨grown, copies, copied, extended, names, fresh, distinct, reads⟩ := ih rest_kept
      refine ⟨grown, (tier, (tiers.alloc policy).2) :: copies, ?_, kept.trans extended, ?_, ?_, ?_, ?_⟩
      · simp only [copyTiers, fetchObject_of_read found, bind, Except.bind, copied]
        rfl
      · simp [names]
      · intro copy member
        rcases List.mem_cons.mp member with rfl | later
        · exact ObjectHeap.read_alloc_fresh tiers policy
        · exact kept.fresh (fresh copy later)
      · refine List.nodup_cons.mpr ⟨?_, distinct⟩
        intro member
        obtain ⟨copy, later, same⟩ := List.mem_map.mp member
        have absent := fresh copy later
        rw [same, ObjectHeap.read_alloc_self] at absent
        cases absent
      · intro asked
        by_cases same : asked = tier
        · subst same
          have first := extended _ _ (ObjectHeap.read_alloc_self tiers policy)
          simp [first, found]
        · have other : (asked == tier) = false := by simpa using same
          simp only [List.lookup_cons, other, reads asked]
          cases located : rest.lookup asked with
          | none => rfl
          | some ref' =>
              obtain ⟨before, after, split_rest, -⟩ := List.lookup_eq_some_iff.mp located
              obtain ⟨policy', found'⟩ := rest_stored (asked, ref') (by simp [split_rest])
              rw [Option.bind_some, Option.bind_some, found', kept _ _ found']

/-- No two tiers of the table share a policy object. -/
def RefsDistinct (table : OrderedDict SymbolTier ℕ) : Prop :=
  ∀ tier tier' ref, table.get? tier = some ref → table.get? tier' = some ref → tier = tier'

theorem refsDistinct_ofList {copies : List (SymbolTier × ℕ)} (names : (copies.map Prod.fst).Nodup)
    (distinct : (copies.map Prod.snd).Nodup) : RefsDistinct (.ofList copies) := by
  intro tier tier' ref first second
  rw [OrderedDict.get?_eq_some_iff, OrderedDict.entries_ofList names] at first second
  exact congrArg Prod.fst (List.inj_on_of_nodup_map distinct first second rfl)

/-- An assignment through the table changes the entry it goes through, only. -/
theorem TableReads.modify {heap : ObjectHeap SymbolTierPolicy} {table : OrderedDict SymbolTier ℕ}
    {tiers modified : TierPolicies} (reads : TableReads heap table tiers) (distinct : RefsDistinct table)
    {tier : SymbolTier} {change : SymbolTierPolicy → SymbolTierPolicy}
    (changed : tiers.modify tier change = .ok modified) :
    ∃ ref, table.get? tier = some ref ∧ TableReads (heap.assign ref change) table modified := by
  obtain ⟨keys, values⟩ := reads
  simp only [TierPolicies.modify] at changed
  cases found : tiers.get? tier with
  | none => simp [found] at changed
  | some policy =>
      simp only [found, Except.ok.injEq] at changed
      subst changed
      obtain ⟨ref, located, stored⟩ := Option.bind_eq_some_iff.mp ((values tier).trans found)
      refine ⟨ref, located, keys.trans (tiers.keys_set_of_get? found _).symm, ?_⟩
      intro asked
      rw [OrderedDict.get?_set]
      by_cases same : asked = tier
      · rw [if_pos same, same, located, Option.bind_some, ObjectHeap.read_assign_self, stored]
        rfl
      · rw [if_neg same, ← values asked]
        cases other : table.get? asked with
        | none => rfl
        | some ref' =>
            have differ : ref' ≠ ref := by
              rintro rfl
              exact same (distinct asked tier ref' other located)
            exact ObjectHeap.read_assign_of_ne heap change differ

end Copies

section Refinement

variable {objects : RiskObjects} {policyRef tableRef : ℕ} {policy : RiskPolicy} {tiers : TierPolicies}

/-- The table of copies reads like the original and shares nothing with it. -/
theorem copied_table (reads : objects.Reads policyRef tableRef policy tiers) :
    ∃ table grown copies, fetchObject objects.tables tableRef = .ok table ∧
      copyTiers objects.tiers table.entries = .ok (grown, copies) ∧ objects.tiers.Extends grown ∧
      TableReads grown (.ofList copies) tiers ∧ RefsDistinct (.ofList copies) ∧
      ∀ tier ref, (OrderedDict.ofList copies).get? tier = some ref → objects.tiers.read ref = none := by
  obtain ⟨table, stored, keys, values⟩ := reads.table
  have entries_stored : ∀ entry ∈ table.entries, ∃ found, objects.tiers.read entry.2 = some found := by
    intro entry member
    have located := (table.get?_eq_some_iff entry.1 entry.2).mpr member
    have listed : entry.1 ∈ tiers.keys := keys ▸ List.mem_map.mpr ⟨entry, member, rfl⟩
    obtain ⟨original, original_mem, name⟩ := List.mem_map.mp listed
    have found := (tiers.get?_eq_some_iff original.1 original.2).mpr original_mem
    rw [name, ← values, located] at found
    exact ⟨_, found⟩
  obtain ⟨grown, copies, copied, extended, names, fresh, distinct, reads_copies⟩ :=
    copyTiers_spec entries_stored
  have names_nodup : (copies.map Prod.fst).Nodup := names ▸ table.nodup
  have entries_eq := OrderedDict.entries_ofList names_nodup
  refine ⟨table, grown, copies, fetchObject_of_read stored, copied, extended, ⟨?_, ?_⟩,
    refsDistinct_ofList names_nodup distinct, ?_⟩
  · rw [OrderedDict.keys, entries_eq, names]
    exact keys
  · intro tier
    rw [← values tier, OrderedDict.get?, entries_eq]
    exact reads_copies tier
  · intro tier ref located
    rw [OrderedDict.get?_eq_some_iff, entries_eq] at located
    exact fresh _ located

/-- The policy the three assignments leave. -/
def liveMicroPolicy (policy : RiskPolicy) : RiskPolicy :=
  { policy with
    maxOpenPositions := min policy.maxOpenPositions liveMicroMaxOpenPositions
    grossExposureSoft := min policy.grossExposureSoft liveMicroGrossExposureSoft
    grossExposureHard := min policy.grossExposureHard liveMicroGrossExposureHard }

/-- The assignments on the copies compute what the overrides say, and nothing
that existed before the call changes. -/
theorem overrideObjects_refines (reads : objects.Reads policyRef tableRef policy tiers)
    (mode : RuntimeMode) {runtime : RiskPolicy × TierPolicies}
    (overridden : applyRuntimeRiskOverrides policy tiers mode = .ok runtime) :
    ∃ after runtimePolicy runtimeTable, overrideObjects objects policyRef tableRef mode =
        .ok (after, runtimePolicy, runtimeTable) ∧
      after.Reads runtimePolicy runtimeTable runtime.1 runtime.2 ∧ objects.Extends after := by
  obtain ⟨table, grown, copies, fetched, copied, extended, copy_reads, distinct, fresh⟩ :=
    copied_table reads
  have policy_extended := ObjectHeap.extends_alloc objects.policies policy
  have table_extended := ObjectHeap.extends_alloc objects.tables (OrderedDict.ofList copies)
  have table_read := ObjectHeap.read_alloc_self objects.tables (OrderedDict.ofList copies)
  by_cases live : mode = .liveMicro
  · subst live
    simp only [applyRuntimeRiskOverrides, ne_eq, not_true_eq_false, if_false] at overridden
    obtain ⟨coreTiers, core_changed, overridden⟩ := bind_ok overridden
    obtain ⟨liquidTiers, liquid_changed, overridden⟩ := bind_ok overridden
    obtain ⟨runtimeTiers, experimental_changed, overridden⟩ := bind_ok overridden
    cases overridden
    obtain ⟨core, core_located, core_reads⟩ := copy_reads.modify distinct core_changed
    obtain ⟨liquidAlt, liquid_located, liquid_reads⟩ := core_reads.modify distinct liquid_changed
    obtain ⟨experimental, experimental_located, runtime_reads⟩ :=
      liquid_reads.modify distinct experimental_changed
    have policy_fresh := ObjectHeap.read_alloc_fresh objects.policies policy
    refine ⟨⟨(objects.policies.alloc policy).1.assign (objects.policies.alloc policy).2 liveMicroPolicy,
        ((grown.assign core _).assign liquidAlt _).assign experimental _,
        (objects.tables.alloc (.ofList copies)).1⟩,
      (objects.policies.alloc policy).2, (objects.tables.alloc (.ofList copies)).2, ?_,
      ⟨?_, _, table_read, runtime_reads⟩, ⟨?_, ?_, table_extended⟩⟩
    · simp only [overrideObjects, fetchObject_of_read reads.policy, fetched, copied, bind, Except.bind,
        tierRef, core_located, liquid_located, experimental_located, ObjectHeap.assign_assign]
      rfl
    · rw [ObjectHeap.read_assign_self, ObjectHeap.read_alloc_self]
      rfl
    · exact policy_extended.assign policy_fresh _
    · exact ((extended.assign (fresh _ _ core_located) _).assign (fresh _ _ liquid_located) _).assign
        (fresh _ _ experimental_located) _
  · simp only [applyRuntimeRiskOverrides, ne_eq, live, not_false_eq_true, if_true,
      Except.ok.injEq] at overridden
    subst overridden
    refine ⟨⟨(objects.policies.alloc policy).1, grown, (objects.tables.alloc (.ofList copies)).1⟩,
      (objects.policies.alloc policy).2, (objects.tables.alloc (.ofList copies)).2, ?_,
      ⟨ObjectHeap.read_alloc_self objects.policies policy, _, table_read, copy_reads⟩,
      ⟨policy_extended, extended, table_extended⟩⟩
    simp only [overrideObjects, fetchObject_of_read reads.policy, fetched, copied, bind, Except.bind,
      ne_eq, live, not_false_eq_true, if_true]
    rfl

end Refinement

section Kernel

/-- The kernel `build_services` would make of these limits. -/
def kernelOf (symbolTiers : OrderedDict String SymbolTier) (symbolClusters : OrderedDict String String)
    (limits : RiskPolicy × TierPolicies) : RiskKernel where
  policy := limits.1
  tierPolicies := limits.2
  symbolTiers := symbolTiers
  symbolClusters := symbolClusters

/-- On a complete table the overrides cap the core tier and disable the others. -/
theorem liveMicro_overrides (policy : RiskPolicy) {tiers : TierPolicies}
    (complete : ∀ tier, (tiers.get? tier).isSome) :
    ∃ runtimeTiers core, applyRuntimeRiskOverrides policy tiers .liveMicro =
        .ok (liveMicroPolicy policy, runtimeTiers) ∧
      tiers.get? .core = some core ∧
      runtimeTiers.get? .core = some { core with
        maxSymbolNotionalPct := min core.maxSymbolNotionalPct liveMicroMaxSymbolNotionalPct
        maxLeverage := min core.maxLeverage liveMicroMaxLeverage } ∧
      ∀ tier ≠ .core, ∃ original, tiers.get? tier = some original ∧
        runtimeTiers.get? tier = some { original with enabled := false } := by
  obtain ⟨core, core_found⟩ := Option.isSome_iff_exists.mp (complete .core)
  obtain ⟨liquidAlt, liquid_found⟩ := Option.isSome_iff_exists.mp (complete .liquidAlt)
  obtain ⟨experimental, experimental_found⟩ := Option.isSome_iff_exists.mp (complete .experimental)
  refine ⟨((tiers.set .core { core with
      maxSymbolNotionalPct := min core.maxSymbolNotionalPct liveMicroMaxSymbolNotionalPct
      maxLeverage := min core.maxLeverage liveMicroMaxLeverage }).set .liquidAlt
        { liquidAlt with enabled := false }).set .experimental { experimental with enabled := false },
    core, ?_, core_found, ?_, ?_⟩
  · simp only [applyRuntimeRiskOverrides, TierPolicies.modify, core_found, liquid_found,
      experimental_found, OrderedDict.get?_set, reduceCtorEq, ne_eq, not_true_eq_false, if_false, bind,
      Except.bind]
    rfl
  · simp [OrderedDict.get?_set]
  · intro tier other
    cases tier with
    | core => exact absurd rfl other
    | liquidAlt => exact ⟨liquidAlt, liquid_found, by simp [OrderedDict.get?_set]⟩
    | experimental => exact ⟨experimental, experimental_found, by simp⟩

/-- The overridden kernel is the original with smaller limits. -/
theorem liveMicro_tightens (policy : RiskPolicy) {tiers runtimeTiers : TierPolicies}
    {core : SymbolTierPolicy} (core_found : tiers.get? .core = some core)
    (core_capped : runtimeTiers.get? .core = some { core with
      maxSymbolNotionalPct := min core.maxSymbolNotionalPct liveMicroMaxSymbolNotionalPct
      maxLeverage := min core.maxLeverage liveMicroMaxLeverage })
    (others_disabled : ∀ tier ≠ .core, ∃ original, tiers.get? tier = some original ∧
      runtimeTiers.get? tier = some { original with enabled := false })
    (symbolTiers : OrderedDict String SymbolTier) (symbolClusters : OrderedDict String String) :
    (kernelOf symbolTiers symbolClusters (liveMicroPolicy policy, runtimeTiers)).Tightens
      (kernelOf symbolTiers symbolClusters (policy, tiers)) where
  policy :=
    { openPositions := min_le_left _ _
      soft := min_le_left _ _
      hard := min_le_left _ _
      shared := rfl }
  tiers := by
    intro tier strict found
    by_cases same : tier = .core
    · subst same
      cases core_capped.symm.trans found
      exact ⟨core, core_found, min_le_left _ _, min_le_left _ _, id⟩
    · obtain ⟨original, original_found, disabled⟩ := others_disabled tier same
      cases disabled.symm.trans found
      exact ⟨original, original_found, le_rfl, le_rfl, fun on => nomatch on⟩
  symbolTiers := rfl
  symbolClusters := rfl

/-- What an approval under the overrides implies about the unmodified kernel, and
the bounds the mode adds. -/
structure LiveMicroApproval (base : RiskKernel) (signal : SignalCandidate) (account : AccountSnapshot)
    (decision : RiskDecision) : Prop where
  wider : ∃ wider, base.evaluate signal account = .ok wider ∧ wider.status = .approved ∧
    decision.approvedNotional ≤ wider.approvedNotional ∧ decision.approvedLeverage ≤ wider.approvedLeverage
  core : base.tierOf signal.symbol = .core
  flat : account.openPositions = 0
  notional : decision.approvedNotional ≤ 5 / 100 * account.equity
  gross : account.grossExposure * account.equity + decision.approvedNotional ≤ 20 / 100 * account.equity
  leverage : decision.approvedLeverage ≤ 2

theorem liveMicro_only_tightens (policy : RiskPolicy) (tiers : TierPolicies)
    (complete : ∀ tier, (tiers.get? tier).isSome) (symbolTiers : OrderedDict String SymbolTier)
    (symbolClusters : OrderedDict String String) (signal : SignalCandidate) (account : AccountSnapshot)
    (counted : 0 ≤ account.openPositions) :
    ∃ runtime, applyRuntimeRiskOverrides policy tiers .liveMicro = .ok runtime ∧
      (∀ decision, (kernelOf symbolTiers symbolClusters runtime).evaluate signal account = .ok decision →
        decision.status = .approved →
        LiveMicroApproval (kernelOf symbolTiers symbolClusters (policy, tiers)) signal account decision) ∧
      ∀ objects policyRef tableRef, RiskObjects.Reads objects policyRef tableRef policy tiers →
        ∃ after runtimePolicy runtimeTable, overrideObjects objects policyRef tableRef .liveMicro =
            .ok (after, runtimePolicy, runtimeTable) ∧
          after.Reads runtimePolicy runtimeTable runtime.1 runtime.2 ∧ objects.Extends after := by
  obtain ⟨runtimeTiers, core, overridden, core_found, core_capped, others_disabled⟩ :=
    liveMicro_overrides policy complete
  refine ⟨_, overridden, ?_, fun objects policyRef tableRef reads =>
    overrideObjects_refines reads .liveMicro overridden⟩
  intro decision evaluated approved
  have tightens := liveMicro_tightens policy core_found core_capped others_disabled
    symbolTiers symbolClusters
  obtain ⟨tierPolicy, cleared, found, unblocked, sized⟩ := evaluate_approved evaluated approved
  have tier : (kernelOf symbolTiers symbolClusters (policy, tiers)).tierOf signal.symbol = .core := by
    by_contra other
    obtain ⟨original, -, disabled⟩ := others_disabled _ other
    cases disabled.symm.trans found
    cases symbolVeto_enabled unblocked
  have tierPolicy_eq := (congrArg runtimeTiers.get? tier).symm.trans found
  rw [core_capped] at tierPolicy_eq
  cases tierPolicy_eq
  have equity := (approved_positive evaluated approved).1
  have open_lt : account.openPositions < min policy.maxOpenPositions liveMicroMaxOpenPositions :=
    (accountVeto_eq_none_iff.mp cleared).2.2.2.2.2.2.2
  have notional := sized.tier_after
  have soft : (liveMicroPolicy policy).grossExposureSoft ≤ 20 / 100 := min_le_right _ _
  have percent : min core.maxSymbolNotionalPct liveMicroMaxSymbolNotionalPct ≤ 5 := min_le_right _ _
  exact
    { wider := tightens.approves signal account evaluated approved
      core := tier
      flat := by
        have bounded : min policy.maxOpenPositions liveMicroMaxOpenPositions ≤ 1 := min_le_right _ _
        omega
      notional := by nlinarith
      gross := sized.gross_after.trans (mul_le_mul_of_nonneg_right soft equity.le)
      leverage := by
        rw [sized.leverage]
        exact (min_le_right _ _).trans (min_le_right _ _) }

/-- An idle account and a trend signal: the mode approves 5% where the
configuration alone would approve 14%. -/
def idleAccount : AccountSnapshot :=
  { equity := 10000, dailyDrawdownPct := 0, weeklyDrawdownPct := 0, grossExposure := 0,
    openPositions := 0 }

def btcSignal : SignalCandidate :=
  { symbol := "BTCUSDT", regime := .trend, side := .buy, conviction := 8 / 10, expectedEdgeBps := 18,
    stopDistancePct := 2 / 100, rationale := [] }

theorem liveMicro_only_tightens_btc : ∃ runtime decision,
    applyRuntimeRiskOverrides {} configuredTiers .liveMicro = .ok runtime ∧
      (kernelOf (.ofList [("BTCUSDT", .core)]) .empty runtime).evaluate btcSignal idleAccount =
        .ok decision ∧
      decision.approvedNotional = 500 ∧
      LiveMicroApproval (kernelOf (.ofList [("BTCUSDT", .core)]) .empty ({}, configuredTiers)) btcSignal
        idleAccount decision := by
  obtain ⟨runtime, overridden, approvals, -⟩ := liveMicro_only_tightens {} configuredTiers
    (by intro tier; cases tier <;> decide) (.ofList [("BTCUSDT", .core)]) .empty btcSignal idleAccount
    (by decide)
  have evaluated : (applyRuntimeRiskOverrides {} configuredTiers .liveMicro).bind (fun runtime =>
      (kernelOf (.ofList [("BTCUSDT", .core)]) .empty runtime).evaluate btcSignal idleAccount) =
      .ok { status := .approved, reason := "approved", symbolTier := some .core, approvedNotional := 500,
            approvedLeverage := 1, riskBudgetBps := 28 } := by
    decide +kernel
  rw [overridden] at evaluated
  exact ⟨runtime, _, overridden, evaluated, rfl, approvals _ evaluated rfl⟩

end Kernel

end CatsPy
