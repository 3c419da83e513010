import CatsPy.DomainModels
import Mathlib.Order.Lattice

/-!
# Risk kernel

The risk policy, its tightening for the live modes, and the kernel that turns
a signal and an account snapshot into an approval, a rejection or a halt.
-/
namespace CatsPy
open PythonValues

structure SymbolTierPolicy where
  maxLeverage : ℚ
  maxSymbolNotionalPct : ℚ
  enabled : Bool := true
  deriving DecidableEq

def defaultClusterCaps : OrderedDict String ℚ :=
  .ofList [("core", 80 / 100), ("liquid_alt", 45 / 100), ("experimental", 15 / 100)]

structure RiskPolicy where
  tradeRiskBpsDefault : ℚ := 35
  tradeRiskBpsMax : ℚ := 75
  dailyDrawdownSoftPct : ℚ := -15 / 10
  dailyDrawdownHardPct : ℚ := -3
  weeklyDrawdownHardPct : ℚ := -6
  grossExposureSoft : ℚ := 125 / 100
  grossExposureHard : ℚ := 3
  maxOpenPositions : ℤ := 4
  minLiqBufferPct : ℚ := 18
  maxSlippageBpsOverModel : ℚ := 12
  symbolConcentrationCap : ℚ := 35 / 100
  leverageBracketBuffer : ℚ := 8 / 10
  clusterCaps : OrderedDict String ℚ := defaultClusterCaps

section Overrides

def liveMicroMaxOpenPositions : ℤ := 1
def liveMicroMaxSymbolNotionalPct : ℚ := 5
def liveMicroGrossExposureSoft : ℚ := 20 / 100
def liveMicroGrossExposureHard : ℚ := 35 / 100
def liveMicroMaxLeverage : ℚ := 2

abbrev TierPolicies := OrderedDict SymbolTier SymbolTierPolicy

/-- `tiers[tier].field = ...`: the entry must exist. -/
def TierPolicies.modify (tiers : TierPolicies) (tier : SymbolTier)
    (change : SymbolTierPolicy → SymbolTierPolicy) : Except PyError TierPolicies :=
  match tiers.get? tier with
  | some policy => .ok (tiers.set tier (change policy))
  | none => .error ⟨.keyError, tier.repr⟩

def applyRuntimeRiskOverrides (policy : RiskPolicy) (tierPolicies : TierPolicies)
    (mode : RuntimeMode) : Except PyError (RiskPolicy × TierPolicies) :=
  if mode ≠ .liveMicro then .ok (policy, tierPolicies)
  else do
    let runtimePolicy := { policy with
      maxOpenPositions := min policy.maxOpenPositions liveMicroMaxOpenPositions
      grossExposureSoft := min policy.grossExposureSoft liveMicroGrossExposureSoft
      grossExposureHard := min policy.grossExposureHard liveMicroGrossExposureHard }
    let tiers ← tierPolicies.modify .core fun tier => { tier with
      maxSymbolNotionalPct := min tier.maxSymbolNotionalPct liveMicroMaxSymbolNotionalPct
      maxLeverage := min tier.maxLeverage liveMicroMaxLeverage }
    let tiers ← tiers.modify .liquidAlt fun tier => { tier with enabled := false }
    let tiers ← tiers.modify .experimental fun tier => { tier with enabled := false }
    return (runtimePolicy, tiers)

end Overrides

structure RiskKernel where
  policy : RiskPolicy
  tierPolicies : TierPolicies
  symbolTiers : OrderedDict String SymbolTier
  symbolClusters : OrderedDict String String := .empty

namespace RiskKernel

def tierOf (kernel : RiskKernel) (symbol : String) : SymbolTier :=
  kernel.symbolTiers.getD symbol .experimental

/-- The configured cluster of a symbol, else the name of its tier. -/
def clusterOf (kernel : RiskKernel) (symbol : String) : String :=
  kernel.symbolClusters.getD symbol (kernel.tierOf symbol).value

/-- `signal.cluster or ...`: an empty cluster name counts as absent. -/
def clusterName (kernel : RiskKernel) (signal : SignalCandidate) : String :=
  match signal.cluster with
  | some name => if name = "" then kernel.clusterOf signal.symbol else name
  | none => kernel.clusterOf signal.symbol

def clusterExposure (kernel : RiskKernel) (account : AccountSnapshot) (clusterName : String) : ℚ :=
  account.symbolGrossExposures.entries.foldl (fun total entry =>
    if kernel.clusterOf entry.1 = clusterName then total + entry.2 else total) 0

def halted (reason : String) : RiskDecision := { status := .halted, reason }

def rejected (reason : String) : RiskDecision := { status := .rejected, reason }

/-- The account-wide guards, in the order they are tested. -/
def accountVeto (kernel : RiskKernel) (account : AccountSnapshot) : Option RiskDecision :=
  if account.killSwitchActive then some (halted "state kill switch active")
  else if account.stateMismatch then some (halted "account state mismatch")
  else if 0 < account.reconcileFailures then some (halted "account reconciliation failed")
  else if 90 < account.userStreamStaleSeconds then some (halted "user stream stale")
  else if account.dailyDrawdownPct ≤ kernel.policy.dailyDrawdownHardPct then
    some (halted "daily hard drawdown reached")
  else if account.weeklyDrawdownPct ≤ kernel.policy.weeklyDrawdownHardPct then
    some (halted "weekly hard drawdown reached")
  else if kernel.policy.grossExposureHard ≤ account.grossExposure then
    some (rejected "gross exposure hard cap")
  else if kernel.policy.maxOpenPositions ≤ account.openPositions then
    some (rejected "max open positions reached")
  else none

def currentSymbolExposure (account : AccountSnapshot) (signal : SignalCandidate) : ℚ :=
  account.symbolGrossExposures.getD signal.symbol 0

def capReached (cap : Option ℚ) (exposure : ℚ) : Bool := cap.any fun limit => limit ≤ exposure

/-- The guards that look at the symbol's tier, exposure and cluster. -/
def symbolVeto (kernel : RiskKernel) (signal : SignalCandidate) (account : AccountSnapshot)
    (tierPolicy : SymbolTierPolicy) : Option RiskDecision :=
  let clusterName := kernel.clusterName signal
  if !tierPolicy.enabled then some (rejected "symbol tier disabled")
  else if kernel.policy.symbolConcentrationCap ≤ currentSymbolExposure account signal then
    some (rejected "symbol concentration cap reached")
  else if capReached (kernel.policy.clusterCaps.get? clusterName)
      (kernel.clusterExposure account clusterName) then some (rejected "cluster cap reached")
  else none

def tradeRiskBudget (kernel : RiskKernel) (signal : SignalCandidate) (account : AccountSnapshot) : ℚ :=
  let budget := min (kernel.policy.tradeRiskBpsDefault * signal.conviction)
    kernel.policy.tradeRiskBpsMax
  if account.dailyDrawdownPct ≤ kernel.policy.dailyDrawdownSoftPct then budget * (1 / 2) else budget

def remainingGross (kernel : RiskKernel) (account : AccountSnapshot) : ℚ :=
  max (kernel.policy.grossExposureSoft - account.grossExposure) 0

def remainingSymbol (kernel : RiskKernel) (signal : SignalCandidate) (account : AccountSnapshot) : ℚ :=
  max (kernel.policy.symbolConcentrationCap - currentSymbolExposure account signal) 0

def remainingCluster (kernel : RiskKernel) (signal : SignalCandidate) (account : AccountSnapshot) :
    Option ℚ :=
  (kernel.policy.clusterCaps.get? (kernel.clusterName signal)).map fun cap =>
    max (cap - kernel.clusterExposure account (kernel.clusterName signal)) 0

def leverageBracketNotionalCap (kernel : RiskKernel) (signal : SignalCandidate) : Option ℚ :=
  signal.leverageBracketCap.map fun cap => cap * kernel.policy.leverageBracketBuffer

def notionalCaps (kernel : RiskKernel) (signal : SignalCandidate) (account : AccountSnapshot)
    (tierPolicy : SymbolTierPolicy) : List ℚ :=
  [account.equity * kernel.remainingGross account,
    account.equity * (kernel.tradeRiskBudget signal account / 10000) /
      max signal.stopDistancePct (1 / 1000000),
    account.equity * (tierPolicy.maxSymbolNotionalPct / 100),
    account.equity * kernel.remainingSymbol signal account] ++
  ((kernel.remainingCluster signal account).map fun remaining => account.equity * remaining).toList ++
  (kernel.leverageBracketNotionalCap signal).toList

/-- Sizing: exhausted headroom is rejected, else the smallest cap is approved. -/
def sizeTrade (kernel : RiskKernel) (signal : SignalCandidate) (account : AccountSnapshot)
    (tier : SymbolTier) (tierPolicy : SymbolTierPolicy) : RiskDecision :=
  if kernel.remainingGross account ≤ 0 then rejected "gross exposure soft headroom exhausted"
  else if kernel.remainingSymbol signal account ≤ 0 then rejected "symbol concentration cap reached"
  else if (kernel.remainingCluster signal account).any (· ≤ 0) then rejected "cluster cap reached"
  else if (kernel.leverageBracketNotionalCap signal).any (· ≤ 0) then
    rejected "leverage bracket cap unavailable"
  else
    let approvedNotional := (kernel.notionalCaps signal account tierPolicy).min?.getD 0
    if approvedNotional ≤ 0 then rejected "approved notional <= 0"
    else
      { status := .approved
        reason := "approved"
        symbolTier := some tier
        approvedNotional
        approvedLeverage := min (max (approvedNotional / max account.equity (1 / 1000000)) 1)
          tierPolicy.maxLeverage
        riskBudgetBps := kernel.tradeRiskBudget signal account }

/-- A symbol whose tier has no policy raises. -/
def evaluate (kernel : RiskKernel) (signal : SignalCandidate) (account : AccountSnapshot) :
    Except PyError RiskDecision :=
  match kernel.accountVeto account with
  | some veto => .ok veto
  | none =>
      let tier := kernel.tierOf signal.symbol
      match kernel.tierPolicies.get? tier with
      | none => .error ⟨.keyError, tier.repr⟩
      | some tierPolicy =>
          match kernel.symbolVeto signal account tierPolicy with
          | some veto => .ok veto
          | none => .ok (kernel.sizeTrade signal account tier tierPolicy)

end RiskKernel

section Configuration

/-- The tier table of `configs/risk.yaml`. -/
def configuredTiers : TierPolicies :=
  .ofList [(.core, { maxLeverage := 3, maxSymbolNotionalPct := 25 }),
    (.liquidAlt, { maxLeverage := 2, maxSymbolNotionalPct := 12 }),
    (.experimental, { maxLeverage := 1, maxSymbolNotionalPct := 0, enabled := false })]

/-- The kernel for two of the core symbols of `configs/symbols.yaml`. -/
def configuredKernel (policy : RiskPolicy) (tiers : TierPolicies) : RiskKernel where
  policy := policy
  tierPolicies := tiers
  symbolTiers := .ofList [("BTCUSDT", .core), ("ETHUSDT", .core)]
  symbolClusters := .ofList [("BTCUSDT", "core"), ("ETHUSDT", "core")]

end Configuration

end CatsPy
