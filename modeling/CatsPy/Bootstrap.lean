import CatsPy.DecisionRuntime

/-!
# Bootstrap

The services assembled from the configuration files: the risk policy and the
tier policies read off untyped mappings, and the symbol lists flattened into the
maps the risk kernel looks symbols up in.
-/
namespace CatsPy
open PythonValues

/-- The two mappings of the risk configuration file. -/
structure RiskConfig where
  risk : PyValue := .dict []
  tiers : OrderedDict String PyValue := .empty

section Values

def objectMapping : PyValue → OrderedDict String PyValue
  | .dict entries => .ofList entries
  | _ => .empty

/-- Outside the texts `float()` reads as NaN or an infinity. -/
def floatValue (value : PyValue) (default : ℚ) : ℚ :=
  match value with
  | .bool b => if b then 1 else 0
  | .int n => n
  | .float q => q
  | .str s => (numeralOfText s).getD default
  | _ => default

/-- Whether `float()` reads the value as NaN. -/
def readsNan : PyValue → Bool
  | .str s => String.ofList ((takeSign (strip s.toList)).2.map Char.toLower) = "nan"
  | _ => false

/-- `int(value)` of a float drops the fraction. -/
def intValue (value : PyValue) (default : ℤ) : ℤ :=
  let truncated (q : ℚ) : ℤ := q.num.tdiv q.den
  match value with
  | .bool b => if b then 1 else 0
  | .int n => n
  | .float q => truncated q
  | .str s => ((numeralOfText s).map truncated).getD default
  | _ => default

/-- `values.get(key)`. -/
def valueAt (values : OrderedDict String PyValue) (key : String) : PyValue := values.getD key .none

end Values

section Policies

def buildSymbolTierPolicy (payload : OrderedDict String PyValue) (enabled : Bool := true)
    (maxLeverage : ℚ := 1) (maxSymbolNotionalPct : ℚ := 0) : SymbolTierPolicy :=
  let defaults : OrderedDict String PyValue := .ofList [("enabled", .bool enabled),
    ("max_leverage", .float maxLeverage), ("max_symbol_notional_pct", .float maxSymbolNotionalPct)]
  let values := defaults.update payload
  { enabled := (valueAt values "enabled").truthy
    maxLeverage := floatValue (valueAt values "max_leverage") maxLeverage
    maxSymbolNotionalPct := floatValue (valueAt values "max_symbol_notional_pct") maxSymbolNotionalPct }

/-- A configured cap as the kernel enforces it. It compares NaN with everything in
vain, so such a cap is as good as missing. -/
def clusterCap (key : String) (value : PyValue) : Option ℚ :=
  if readsNan value then none else some (floatValue value (defaultClusterCaps.getD key 0))

/-- The configured caps, or the default table when there are none. -/
def buildClusterCaps (values : OrderedDict String PyValue) : OrderedDict String ℚ :=
  let clusterCapsRaw := objectMapping (valueAt values "cluster_caps")
  if clusterCapsRaw.isEmpty then defaultClusterCaps
  else .ofList (clusterCapsRaw.entries.filterMap fun e => (clusterCap e.1 e.2).map fun cap => (e.1, cap))

def buildRiskPolicy (payload : PyValue) : RiskPolicy :=
  let defaults : RiskPolicy := {}
  let values := objectMapping payload
  { tradeRiskBpsDefault := floatValue (valueAt values "trade_risk_bps_default") defaults.tradeRiskBpsDefault
    tradeRiskBpsMax := floatValue (valueAt values "trade_risk_bps_max") defaults.tradeRiskBpsMax
    dailyDrawdownSoftPct := floatValue (valueAt values "daily_drawdown_soft_pct") defaults.dailyDrawdownSoftPct
    dailyDrawdownHardPct := floatValue (valueAt values "daily_drawdown_hard_pct") defaults.dailyDrawdownHardPct
    weeklyDrawdownHardPct :=
      floatValue (valueAt values "weekly_drawdown_hard_pct") defaults.weeklyDrawdownHardPct
    grossExposureSoft := floatValue (valueAt values "gross_exposure_soft") defaults.grossExposureSoft
    grossExposureHard := floatValue (valueAt values "gross_exposure_hard") defaults.grossExposureHard
    maxOpenPositions := intValue (valueAt values "max_open_positions") defaults.maxOpenPositions
    minLiqBufferPct := floatValue (valueAt values "min_liq_buffer_pct") defaults.minLiqBufferPct
    maxSlippageBpsOverModel :=
      floatValue (valueAt values "max_slippage_bps_over_model") defaults.maxSlippageBpsOverModel
    symbolConcentrationCap :=
      floatValue (valueAt values "symbol_concentration_cap") defaults.symbolConcentrationCap
    leverageBracketBuffer :=
      floatValue (valueAt values "leverage_bracket_buffer") defaults.leverageBracketBuffer
    clusterCaps := buildClusterCaps values }

/-- The tier policies of the configuration; the experimental tier is off unless enabled. -/
def buildTierPolicies (tiers : OrderedDict String PyValue) : TierPolicies :=
  .ofList [(.core, buildSymbolTierPolicy (objectMapping (valueAt tiers "core"))),
    (.liquidAlt, buildSymbolTierPolicy (objectMapping (valueAt tiers "liquid_alt"))),
    (.experimental, buildSymbolTierPolicy (objectMapping (valueAt tiers "experimental")) false)]

end Policies

section Symbols

/-- `{symbol: value for symbol in symbols}`. -/
def assignAll {ν : Type} (symbols : List String) (value : ν) : OrderedDict String ν :=
  .ofList (symbols.map fun symbol => (symbol, value))

def symbolTiers (symbolConfig : SymbolConfig) : OrderedDict String SymbolTier :=
  ((assignAll symbolConfig.core SymbolTier.core).update (assignAll symbolConfig.liquidAlt .liquidAlt)).update
    (assignAll symbolConfig.experimental .experimental)

def symbolClusters (symbolConfig : SymbolConfig) : OrderedDict String String :=
  ((assignAll symbolConfig.core SymbolTier.core.value).update
    (assignAll symbolConfig.liquidAlt SymbolTier.liquidAlt.value)).update
    (assignAll symbolConfig.experimental SymbolTier.experimental.value)

end Symbols

structure ServiceContainer where
  symbolConfig : SymbolConfig
  modeSummary : RuntimeModeSummary
  decisionEngine : DecisionEngine

/-- The services of a configuration; clients and their credentials are outside the model. -/
def bootstrap (riskConfig : RiskConfig) (symbolConfig : SymbolConfig) (mode : RuntimeMode) :
    Except PyError ServiceContainer := do
  let modeSummary ← buildRuntimeModeSummary mode symbolConfig
  let (risk, tierPolicies) ← applyRuntimeRiskOverrides (buildRiskPolicy riskConfig.risk)
    (buildTierPolicies riskConfig.tiers) mode
  let riskKernel : RiskKernel :=
    { policy := risk, tierPolicies, symbolTiers := symbolTiers symbolConfig
      symbolClusters := symbolClusters symbolConfig }
  return { symbolConfig, modeSummary
           decisionEngine := { strategies := shippedStrategies, riskKernel } }

end CatsPy
