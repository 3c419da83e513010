import CatsPy.RiskCaps
import CatsPy.Bootstrap

/-!
# Configured tiers

What a configuration decides about a symbol: the tier and the cluster the
kernel looks it up under, the source the journal names, and the cap of its
cluster.
-/
namespace CatsPy
open PythonValues RiskKernel StateRuns

/-- The three lists, in the order the cycle visits them. -/
def SymbolConfig.symbols (symbolConfig : SymbolConfig) : List String :=
  symbolConfig.core ++ symbolConfig.liquidAlt ++ symbolConfig.experimental

section Maps

variable (symbolConfig : SymbolConfig)

/-- The kernel's maps: the last list that names a symbol decides. -/
theorem get?_symbolTiers (symbol : String) :
    (symbolTiers symbolConfig).get? symbol =
      if symbol ∈ symbolConfig.experimental then some .experimental
      else if symbol ∈ symbolConfig.liquidAlt then some .liquidAlt
      else if symbol ∈ symbolConfig.core then some .core else none := by
  simp only [symbolTiers, assignAll, OrderedDict.get?_update, OrderedDict.get?_ofList_const]
  split_ifs <;> rfl

theorem get?_symbolClusters (symbol : String) :
    (symbolClusters symbolConfig).get? symbol =
      ((symbolTiers symbolConfig).get? symbol).map SymbolTier.value := by
  rw [get?_symbolTiers]
  simp only [symbolClusters, assignAll, OrderedDict.get?_update, OrderedDict.get?_ofList_const]
  split_ifs <;> rfl

theorem symbolTiers_listed {symbol : String} (listed : symbol ∈ symbolConfig.symbols) :
    ∃ tier, (symbolTiers symbolConfig).get? symbol = some tier := by
  rw [get?_symbolTiers]
  simp only [SymbolConfig.symbols, List.mem_append] at listed
  split_ifs with experimental liquid core
  · exact ⟨_, rfl⟩
  · exact ⟨_, rfl⟩
  · exact ⟨_, rfl⟩
  · exact absurd listed (by simp [core, liquid, experimental])

end Maps

section Sources

namespace DecisionRuntimeService

theorem get?_setDefault (sources : OrderedDict String String) (symbol source x : String) :
    (setDefault sources symbol source).get? x =
      (sources.get? x).or (if x = symbol then some source else none) := by
  unfold setDefault OrderedDict.contains
  by_cases same : x = symbol
  · subst same
    cases found : sources.get? x <;> simp [found]
  · rw [if_neg same, Option.or_none]
    split
    · rfl
    · exact OrderedDict.get?_set_of_ne _ _ same

theorem get?_foldl_setDefault (symbols : List String) (source x : String)
    (sources : OrderedDict String String) :
    (symbols.foldl (setDefault · · source) sources).get? x =
      (sources.get? x).or (if x ∈ symbols then some source else none) := by
  induction symbols generalizing sources with
  | nil => simp
  | cons symbol rest ih =>
      rw [List.foldl_cons, ih, get?_setDefault]
      by_cases same : x = symbol
      · cases sources.get? x <;> simp [same]
      · simp [same]

/-- The journal's source: the first list that names a symbol decides. -/
theorem get?_symbolSources (service : DecisionRuntimeService) (symbol : String) :
    service.symbolSources.get? symbol =
      if symbol ∈ service.symbolConfig.core then some SymbolTier.core.value
      else if symbol ∈ service.symbolConfig.liquidAlt then some SymbolTier.liquidAlt.value
      else if symbol ∈ service.symbolConfig.experimental then some SymbolTier.experimental.value
      else none := by
  have core : (service.symbolConfig.core.foldl (fun sources symbol => sources.set symbol "core")
      (.empty : OrderedDict String String)).get? symbol =
      if symbol ∈ service.symbolConfig.core then some "core" else none := by
    rw [← OrderedDict.get?_ofList_const, OrderedDict.ofList, List.foldl_map]
  simp only [symbolSources, get?_foldl_setDefault, core]
  split_ifs <;> rfl

/-- The journal names the tier the kernel sizes a symbol under. -/
def SourcesAgree (service : DecisionRuntimeService) : Prop :=
  ∀ symbol ∈ service.symbolConfig.symbols, ∃ tier,
    (symbolTiers service.symbolConfig).get? symbol = some tier ∧
    (symbolClusters service.symbolConfig).get? symbol = some tier.value ∧
    service.symbolSources.get? symbol = some tier.value

/-- They agree exactly when no symbol is in two of the lists. -/
theorem sources_agree_iff (service : DecisionRuntimeService) :
    service.SourcesAgree ↔
      service.symbolConfig.core.Disjoint service.symbolConfig.liquidAlt ∧
      service.symbolConfig.core.Disjoint service.symbolConfig.experimental ∧
      service.symbolConfig.liquidAlt.Disjoint service.symbolConfig.experimental := by
  constructor
  · intro agree
    refine ⟨?_, ?_, ?_⟩ <;> intro symbol first second
    all_goals
      obtain ⟨tier, sized, -, named⟩ := agree symbol (by simp [SymbolConfig.symbols, first, second])
      rw [get?_symbolTiers] at sized
      rw [get?_symbolSources] at named
      split_ifs at sized named <;> cases sized <;> simp_all [SymbolTier.value]
  · rintro ⟨coreLiquid, coreExperimental, liquidExperimental⟩ symbol listed
    obtain ⟨tier, sized⟩ := symbolTiers_listed _ listed
    refine ⟨tier, sized, by rw [get?_symbolClusters, sized]; rfl, ?_⟩
    rw [get?_symbolTiers] at sized
    rw [get?_symbolSources]
    split_ifs at sized with experimental liquid core
    · cases sized
      rw [if_neg fun core => coreExperimental core experimental,
        if_neg fun liquid => liquidExperimental liquid experimental, if_pos experimental]
    · cases sized
      rw [if_neg fun core => coreLiquid core liquid, if_pos liquid]
    · cases sized
      rw [if_pos core]

/-- A symbol moved to the experimental list and left in the core list. -/
theorem twice_listed_disagrees :
    ∃ services, bootstrap {} { core := ["SOLUSDT"], experimental := ["SOLUSDT"] } .paper = .ok services ∧
      let service : DecisionRuntimeService :=
        { decisionEngine := services.decisionEngine, symbolConfig := services.symbolConfig
          modeSummary := services.modeSummary }
      service.symbolSources.get? "SOLUSDT" = some "core" ∧
        services.decisionEngine.riskKernel.symbolTiers.get? "SOLUSDT" = some .experimental ∧
        services.decisionEngine.riskKernel.symbolClusters.get? "SOLUSDT" = some "experimental" ∧
        ¬ service.SourcesAgree := by
  refine ⟨_, rfl, rfl, rfl, rfl, ?_⟩
  intro agree
  obtain ⟨tier, sized, -, named⟩ := agree "SOLUSDT" (by decide)
  obtain rfl : SymbolTier.experimental = tier := Option.some.inj sized
  exact absurd named (by decide +kernel)

end DecisionRuntimeService

end Sources

section Caps

/-- The caps the configuration file names. -/
def clusterCapsRaw (payload : PyValue) : OrderedDict String PyValue :=
  objectMapping (valueAt (objectMapping payload) "cluster_caps")

/-- The cap a cluster should have: the configured one where given, if that is a
number, else the default. -/
def expectedClusterCap (payload : PyValue) (tier : SymbolTier) : Option ℚ :=
  match (clusterCapsRaw payload).get? tier.value with
  | some configured => clusterCap tier.value configured
  | none => defaultClusterCaps.get? tier.value

theorem buildRiskPolicy_cap (payload : PyValue) (name : String) :
    (buildRiskPolicy payload).clusterCaps.get? name =
      if (clusterCapsRaw payload).isEmpty then defaultClusterCaps.get? name
      else ((clusterCapsRaw payload).get? name).bind (clusterCap name) := by
  have caps : (buildRiskPolicy payload).clusterCaps = buildClusterCaps (objectMapping payload) := rfl
  rw [caps, buildClusterCaps, ← clusterCapsRaw, apply_ite (OrderedDict.get? · name),
    OrderedDict.get?_ofList_entries (clusterCapsRaw payload) clusterCap]

theorem clusterCap_isSome (key : String) (value : PyValue) :
    (clusterCap key value).isSome = !readsNan value := by
  unfold clusterCap
  cases readsNan value <;> rfl

theorem defaultClusterCaps_total (tier : SymbolTier) : (defaultClusterCaps.get? tier.value).isSome := by
  cases tier <;> decide +kernel

/-- The file names no cap at all, or one for every cluster that is not NaN. -/
def CapsNamed (payload : PyValue) : Prop :=
  (clusterCapsRaw payload).isEmpty ∨
    ∀ tier : SymbolTier, ∃ configured ∈ (clusterCapsRaw payload).get? tier.value, readsNan configured = false

/-- A policy keeps the cap of every cluster exactly when the file names none, or all
of them by numbers. -/
theorem caps_kept_iff (payload : PyValue) :
    (∀ tier : SymbolTier, ∃ cap, expectedClusterCap payload tier = some cap ∧
      (buildRiskPolicy payload).clusterCaps.get? tier.value = some cap) ↔ CapsNamed payload := by
  simp only [buildRiskPolicy_cap, CapsNamed]
  by_cases nothing : (clusterCapsRaw payload).isEmpty
  · simp only [nothing, if_true, true_or, iff_true]
    intro tier
    obtain ⟨cap, total⟩ := Option.isSome_iff_exists.mp (defaultClusterCaps_total tier)
    have empty := (OrderedDict.isEmpty_iff _).mp nothing
    exact ⟨cap, by simp [expectedClusterCap, empty, total], total⟩
  · simp only [nothing, if_false, false_or, Bool.false_eq_true]
    refine forall_congr' fun tier => ?_
    unfold expectedClusterCap
    cases named : (clusterCapsRaw payload).get? tier.value with
    | none => simp
    | some configured =>
        have isNumber := clusterCap_isSome tier.value configured
        cases found : clusterCap tier.value configured with
        | none => simpa [found] using isNumber
        | some cap => simpa [found] using isNumber

/-- The overrides of a mode leave the cluster caps alone. -/
theorem overrides_clusterCaps {policy : RiskPolicy} {tiers : TierPolicies} {mode : RuntimeMode}
    {runtime : RiskPolicy × TierPolicies}
    (overridden : applyRuntimeRiskOverrides policy tiers mode = .ok runtime) :
    runtime.1.clusterCaps = policy.clusterCaps := by
  unfold applyRuntimeRiskOverrides at overridden
  split at overridden
  · cases overridden
    rfl
  · obtain ⟨_, -, overridden⟩ := bind_ok overridden
    obtain ⟨_, -, overridden⟩ := bind_ok overridden
    obtain ⟨_, -, overridden⟩ := bind_ok overridden
    cases overridden
    rfl

/-- What the kernel of a configuration looks clusters up in, and whose signals it gets. -/
theorem bootstrap_kernel {riskConfig : RiskConfig} {symbolConfig : SymbolConfig} {mode : RuntimeMode}
    {services : ServiceContainer} (built : bootstrap riskConfig symbolConfig mode = .ok services) :
    services.decisionEngine.riskKernel.policy.clusterCaps = (buildRiskPolicy riskConfig.risk).clusterCaps ∧
      services.decisionEngine.riskKernel.symbolClusters = symbolClusters symbolConfig ∧
      services.decisionEngine.strategies = shippedStrategies := by
  obtain ⟨_, -, built⟩ := bind_ok built
  obtain ⟨runtime, overridden, built⟩ := bind_ok built
  cases built
  exact ⟨overrides_clusterCaps overridden, rfl, rfl⟩

/-- Signals that name no cluster of their own, such as all the engine's strategies make. -/
def LeavesCluster (engine : DecisionEngine) (signal : SignalCandidate) : Prop :=
  (∀ name ∈ signal.cluster, name = "") ∨
    ∃ strategy ∈ engine.strategies, ∃ feature, strategy.generate feature = some signal

/-- No configuration drops a cap: the policy has the expected cap of every
cluster, and the kernel keeps every approval of a listed symbol within it. -/
structure CapsKept (riskConfig : RiskConfig) : Prop where
  policy : ∀ tier : SymbolTier, ∃ cap, expectedClusterCap riskConfig.risk tier = some cap ∧
    (buildRiskPolicy riskConfig.risk).clusterCaps.get? tier.value = some cap
  kernel : ∀ symbolConfig mode services, bootstrap riskConfig symbolConfig mode = .ok services →
    ∀ signal account decision, signal.symbol ∈ symbolConfig.symbols →
    LeavesCluster services.decisionEngine signal →
    services.decisionEngine.riskKernel.evaluate signal account = .ok decision →
    decision.status = .approved →
    ∃ (tier : SymbolTier) (cap : ℚ), services.decisionEngine.riskKernel.clusterOf signal.symbol = tier.value ∧
      expectedClusterCap riskConfig.risk tier = some cap ∧
      ((account.symbolGrossExposures.entries.filter fun entry =>
        services.decisionEngine.riskKernel.clusterOf entry.1 = tier.value).map Prod.snd).sum * account.equity +
          decision.approvedNotional ≤ cap * account.equity

/-- The caps are kept exactly by the files that name none, or all of them by numbers. -/
theorem cluster_caps_kept_iff (riskConfig : RiskConfig) :
    CapsKept riskConfig ↔ CapsNamed riskConfig.risk := by
  rw [← caps_kept_iff]
  constructor
  · exact CapsKept.policy
  · intro kept
    refine ⟨kept, ?_⟩
    intro symbolConfig mode services built signal account decision listed leaves evaluated approved
    obtain ⟨caps, clusters, strategies⟩ := bootstrap_kernel built
    have noCluster : ∀ name ∈ signal.cluster, name = "" := by
      rcases leaves with noCluster | ⟨strategy, member, feature, generated⟩
      · exact noCluster
      · rw [strategies] at member
        simp [(shipped_signal member generated).2]
    obtain ⟨tier, sized⟩ := symbolTiers_listed symbolConfig listed
    obtain ⟨cap, expected, stored⟩ := kept tier
    have cluster : services.decisionEngine.riskKernel.clusterOf signal.symbol = tier.value := by
      simp [clusterOf, OrderedDict.getD, clusters, get?_symbolClusters, sized]
    have charged := (clusterName_of_unclustered _ signal noCluster).trans cluster
    obtain ⟨tierPolicy, -, -, -, within⟩ := evaluate_approved evaluated approved
    have configured : services.decisionEngine.riskKernel.policy.clusterCaps.get?
        (services.decisionEngine.riskKernel.clusterName signal) = some cap := by
      rw [charged, caps, stored]
    have capped := within.cluster_after configured
    rw [charged] at capped
    exact ⟨tier, cap, cluster, expected, capped⟩

/-- A file that caps the core cluster alone. -/
def coreCapOnly : RiskConfig where
  risk := .dict [("cluster_caps", .dict [("core", .float (1 / 2))])]
  tiers := .ofList [("liquid_alt", .dict [("max_symbol_notional_pct", .int 30)])]

def liquidSignal : SignalCandidate where
  symbol := "SOLUSDT"
  regime := .trend
  side := .buy
  conviction := 1
  expectedEdgeBps := 18
  stopDistancePct := 1 / 100
  rationale := []

def liquidAccount : AccountSnapshot where
  equity := 10000
  dailyDrawdownPct := 0
  weeklyDrawdownPct := 0
  grossExposure := 4 / 10
  openPositions := 1
  symbolGrossExposures := .ofList [("XRPUSDT", 4 / 10)]

/-- The alts grow to seven tenths of the equity past their default cap of 45 percent. -/
theorem named_cap_drops_the_others :
    ∃ services decision,
      bootstrap coreCapOnly { liquidAlt := ["SOLUSDT", "XRPUSDT"] } .paper = .ok services ∧
      services.decisionEngine.riskKernel.policy.clusterCaps.get? "liquid_alt" = none ∧
      services.decisionEngine.riskKernel.evaluate liquidSignal liquidAccount = .ok decision ∧
      decision.status = .approved ∧ decision.approvedNotional = 3000 ∧
      expectedClusterCap coreCapOnly.risk .liquidAlt = some (45 / 100) ∧ ¬ CapsKept coreCapOnly := by
  let grown : RiskDecision :=
    { status := .approved, reason := "approved", symbolTier := some .liquidAlt
      approvedNotional := 3000, approvedLeverage := 1, riskBudgetBps := 35 }
  refine ⟨_, grown, rfl, rfl, ?_, rfl, rfl, by decide +kernel, ?_⟩
  · decide +kernel
  · intro kept
    obtain ⟨cap, -, stored⟩ := kept.policy .liquidAlt
    have dropped : (buildRiskPolicy coreCapOnly.risk).clusterCaps.get? SymbolTier.liquidAlt.value = none := by
      decide +kernel
    rw [dropped] at stored
    cases stored

end Caps

end CatsPy
