import CatsPy.SoftDrawdown
import CatsPy.ResponseCache

/-!
# Freshness of payloads

A feature carries one staleness for three payloads, and that is the age of the
youngest. The engine is asked on fresh payloads only, as long as no symbol that
gets to the staleness gate mixes fresh and stale ones.
-/
namespace CatsPy
open PythonValues StateRuns

section Requests

def dropUsdt : List Char → List Char
  | 'U' :: 'S' :: 'D' :: 'T' :: rest => dropUsdt rest
  | c :: rest => c :: dropUsdt rest
  | [] => []

/-- `symbol.replace("USDT", "")`. -/
def baseSymbol (symbol : String) : String := String.ofList (dropUsdt symbol.toList)

structure CollectorTtls where
  coinTtlSeconds : ℤ
  fundingTtlSeconds : ℤ
  heatmapTtlSeconds : ℤ

/-- The clock reading of a cached request, and what a fetch would bring. -/
structure PayloadRequest where
  now : Datetime
  outcome : Except PyError PyValue

/-- The three cached requests of `_build_feature`, with nothing in between. The
first one that raises is the last one made. -/
def requestPayloads (cache : ResponseCache) (ttls : CollectorTtls) (symbol : String)
    (requestStats : Option ℕ) (coin funding heatmap : PayloadRequest) (normalizedAt : Datetime) :
    ResponseCache × SymbolResponses :=
  let base := baseSymbol symbol
  match cache.getCachedPayload ⟨"coin", symbol, ttls.coinTtlSeconds, requestStats⟩ coin.now coin.outcome with
  | (cache, .error e) => (cache, ⟨.error e, .error e, .error e, normalizedAt⟩)
  | (cache, .ok coin) =>
      match cache.getCachedPayload ⟨"funding_rate", base, ttls.fundingTtlSeconds, requestStats⟩ funding.now
          funding.outcome with
      | (cache, .error e) => (cache, ⟨.ok coin, .error e, .error e, normalizedAt⟩)
      | (cache, .ok funding) =>
          let (cache, heatmap) := cache.getCachedPayload
            ⟨"heatmap_future", base, ttls.heatmapTtlSeconds, requestStats⟩ heatmap.now heatmap.outcome
          (cache, ⟨.ok coin, .ok funding, heatmap, normalizedAt⟩)

end Requests

section Ages

/-- When the payloads of a symbol were fetched. -/
def SymbolResponses.fetchTimes (responses : SymbolResponses) : List Datetime :=
  [responses.coin, responses.funding, responses.heatmap].filterMap fun response =>
    (response.map CachedPayload.fetchedAt).toOption

/-- The staleness of a feature is within a limit exactly when some payload is. -/
theorem buildFeature_stale_iff {input : CycleInput} {responses : SymbolResponses} {symbol : String}
    {feature : FeatureVector} (built : buildFeature input responses symbol = .ok feature) (limit : ℚ) :
    feature.staleSeconds ≤ limit ↔
      0 ≤ limit ∧ ∃ t ∈ responses.fetchTimes, totalSeconds input.startedAt t ≤ limit := by
  obtain ⟨coin, coin_eq, built⟩ := bind_ok built
  obtain ⟨funding, funding_eq, built⟩ := bind_ok built
  obtain ⟨heatmap, heatmap_eq, built⟩ := bind_ok built
  obtain ⟨normalized, -, built⟩ := bind_ok built
  cases built
  have times : responses.fetchTimes = [coin.fetchedAt, funding.fetchedAt, heatmap.fetchedAt] := by
    simp [SymbolResponses.fetchTimes, coin_eq, funding_eq, heatmap_eq, Except.map, Except.toOption]
  have newest : ∀ t ∈ [coin.fetchedAt, funding.fetchedAt, heatmap.fetchedAt],
      t ≤ max (max coin.fetchedAt funding.fetchedAt) heatmap.fetchedAt := by
    simp
  rw [times, max_le_iff, and_comm]
  refine and_congr_right fun _ => ⟨?_, ?_⟩
  · intro young
    have attained : max (max coin.fetchedAt funding.fetchedAt) heatmap.fetchedAt ∈
        [coin.fetchedAt, funding.fetchedAt, heatmap.fetchedAt] := by
      rcases max_choice (max coin.fetchedAt funding.fetchedAt) heatmap.fetchedAt with first | last
      · rw [first]
        rcases max_choice coin.fetchedAt funding.fetchedAt with same | same <;> simp [same]
      · simp [last]
    exact ⟨_, attained, young⟩
  · rintro ⟨t, listed, young⟩
    exact (totalSeconds_anti (newest t listed) input.startedAt).trans young

theorem fetchSymbolFeature_stale_iff {input : CycleInput} {responses : SymbolResponses}
    {describe : PyError → FetchFailure} {symbol : String} {feature : FeatureVector}
    (fetched : fetchSymbolFeature input responses describe symbol = .ok feature) (limit : ℚ) :
    feature.staleSeconds ≤ limit ↔
      0 ≤ limit ∧ ∃ t ∈ responses.fetchTimes, totalSeconds input.startedAt t ≤ limit := by
  unfold fetchSymbolFeature at fetched
  cases built : buildFeature input responses symbol with
  | error error =>
      rw [built] at fetched
      cases fetched
  | ok normalized =>
      rw [built] at fetched
      cases fetched
      exact buildFeature_stale_iff built limit

end Ages

namespace DecisionRuntimeService

section Sources

variable (service : DecisionRuntimeService) (input : CycleInput)

/-- The last of the listed builds of a symbol that succeeded. -/
def lastBuild (symbol : String) : List (String × ℕ) → Option ℕ
  | [] => none
  | item :: rest => (lastBuild symbol rest).or
      (if item.1 = symbol ∧ (input.built item.2 item.1).isOk then some item.2 else none)

/-- The build whose feature `run_cycle()` keeps for the symbol. -/
def keptBuild (symbol : String) : Option ℕ := lastBuild input symbol service.configuredSymbols.zipIdx

theorem collectFeature_get? (acc : RuntimeState × OrderedDict String FeatureVector) (item : String × ℕ)
    (symbol : String) : (service.collectFeature input acc item).2.get? symbol =
      if item.1 = symbol ∧ (input.built item.2 item.1).isOk then (input.built item.2 symbol).toOption
      else acc.2.get? symbol := by
  unfold collectFeature
  cases built : input.built item.2 item.1 with
  | error failure => simp [Except.isOk, Except.toBool]
  | ok feature =>
      simp only [OrderedDict.get?_set, Except.isOk, Except.toBool, and_true]
      by_cases own : item.1 = symbol
      · rw [if_pos own.symm, if_pos own, ← own, built]
        rfl
      · rw [if_neg (Ne.symm own), if_neg own]

/-- The collecting loop keeps the last build that succeeded. -/
theorem collectLoop_get? (items : List (String × ℕ)) (acc : RuntimeState × OrderedDict String FeatureVector)
    (symbol : String) : (items.foldl (service.collectFeature input) acc).2.get? symbol =
      (lastBuild input symbol items).elim (acc.2.get? symbol) fun i => (input.built i symbol).toOption := by
  induction items generalizing acc with
  | nil => rfl
  | cons item rest ih =>
      rw [List.foldl_cons, ih, lastBuild, collectFeature_get?]
      cases lastBuild input symbol rest with
      | some i => rfl
      | none =>
          by_cases kept : item.1 = symbol ∧ (input.built item.2 item.1).isOk = true
          · simp only [Option.none_or, if_pos kept, Option.elim]
          · simp only [Option.none_or, if_neg kept, Option.elim]

theorem builtFeatures_get? (symbol : String) : (service.builtFeatures input).get? symbol =
    (service.keptBuild input symbol).bind fun i => (input.built i symbol).toOption := by
  rw [builtFeatures, collectFeatures, collectLoop_get?, keptBuild]
  cases lastBuild input symbol service.configuredSymbols.zipIdx <;> rfl

end Sources

section Passes

/-- A pass of the decide loop: the values captured before the loop, the state it
starts from and the symbol it decides. -/
structure DecidePass where
  openSymbols : List String
  paperDd : ℚ
  state : CycleState
  item : String × ℕ

variable (service : DecisionRuntimeService) (input : CycleInput)

def phasePasses (s : CycleState) : List DecidePass :=
  let paper := service.simulated s.runtime
  let paperDd := (paper.map PaperExecutionService.drawdownPct).getD 0
  emitted (service.decideStep input (openSymbols paper) paperDd)
    (fun s item => [⟨openSymbols paper, paperDd, s, item⟩]) s service.configuredSymbols.zipIdx

/-- The passes of one cycle, up to the one that raises. -/
def cyclePasses (state : RuntimeState) : List DecidePass :=
  let (collected, features) := service.collectFeatures input (service.recordGlobalData input state)
  match service.settleAccount input features collected with
  | .error _ => []
  | .ok s => service.phasePasses input s

end Passes

section Asking

variable (service : DecisionRuntimeService) (input : CycleInput)

/-- The pass gets past every gate, and `decision_engine.decide` is called. -/
def AsksEngine (pass : DecidePass) : Prop :=
  ∃ feature, pass.state.features.get? pass.item.1 = some feature ∧
    service.gate input (service.simulated pass.state.runtime) pass.openSymbols pass.paperDd pass.item.1
      feature = none

/-- The gates behind the staleness gate: cooldown, an open position, soft drawdown. -/
def OtherGatesOpen (pass : DecidePass) : Prop :=
  let paper := service.simulated pass.state.runtime
  (paper.any fun svc => svc.isInCooldown pass.item.1 input.startedAt
      service.appConfig.exitCooldownMinutes) = false ∧
    pass.item.1 ∉ pass.openSymbols ∧ ¬ (paper.isSome ∧ SoftGateShut pass.openSymbols pass.paperDd)

instance (pass : DecidePass) : Decidable (service.AsksEngine input pass) :=
  match known : pass.state.features.get? pass.item.1 with
  | none => isFalse (by simp [AsksEngine, known])
  | some feature => decidable_of_iff
      ((service.gate input (service.simulated pass.state.runtime) pass.openSymbols pass.paperDd pass.item.1
        feature).isNone = true) (by simp [AsksEngine, known])

variable {service input}

theorem gate_open_iff {pass : DecidePass} {feature : FeatureVector} :
    service.gate input (service.simulated pass.state.runtime) pass.openSymbols pass.paperDd pass.item.1
        feature = none ↔
      feature.staleSeconds ≤ service.appConfig.nofxStaleKillSeconds ∧ service.OtherGatesOpen input pass := by
  simp only [gate, ite_eq_iff, reduceCtorEq, and_false, false_or, not_lt, OtherGatesOpen, SoftGateShut,
    softDrawdownPct, Bool.not_eq_true, and_true]

/-- The passes of a decide loop over the given items. -/
def loopPasses (service : DecisionRuntimeService) (input : CycleInput) (openAtStart : List String)
    (paperDd : ℚ) (s : CycleState) (items : List (String × ℕ)) : List DecidePass :=
  emitted (service.decideStep input openAtStart paperDd) (fun s item => [⟨openAtStart, paperDd, s, item⟩])
    s items

variable {openAtStart : List String} {paperDd : ℚ} {symbol : String}

/-- A pass that leaves the engine alone, or is about another symbol, leaves the
feature of the symbol as it is. -/
theorem decideStep_feature {s next : CycleState} {item : String × ℕ}
    (stepped : service.decideStep input openAtStart paperDd s item = .ok next)
    (unasked : item.1 = symbol → ¬ service.AsksEngine input ⟨openAtStart, paperDd, s, item⟩) :
    next.features.get? symbol = s.features.get? symbol := by
  obtain ⟨name, i⟩ := item
  rcases decideStep_returned stepped with ⟨-, rfl⟩ | ⟨feature, decision, enriched, known, decided, features, -⟩
  · rfl
  · rw [features, OrderedDict.get?_set]
    split
    · next own =>
      subst own
      have blocked : service.gate input (service.simulated s.runtime) openAtStart paperDd symbol feature ≠
          none := fun passed => unasked rfl ⟨feature, known, passed⟩
      obtain ⟨refused, gated⟩ := Option.ne_none_iff_exists'.mp blocked
      simp only [decideSymbol, gated] at decided
      cases decided
      exact known.symm
    · rfl

/-- The engine is asked about a symbol exactly when its feature is fresh enough
and some pass gets the symbol through the other gates. -/
theorem loop_asks_iff (items : List (String × ℕ)) {s : CycleState} {feature : FeatureVector}
    (known : s.features.get? symbol = some feature) :
    (∃ pass ∈ service.loopPasses input openAtStart paperDd s items, pass.item.1 = symbol ∧
        service.AsksEngine input pass) ↔
      feature.staleSeconds ≤ service.appConfig.nofxStaleKillSeconds ∧
        ∃ pass ∈ service.loopPasses input openAtStart paperDd s items, pass.item.1 = symbol ∧
          service.OtherGatesOpen input pass := by
  induction items generalizing s with
  | nil => simp [loopPasses, emitted]
  | cons item rest ih =>
      have here (own : item.1 = symbol) : service.AsksEngine input ⟨openAtStart, paperDd, s, item⟩ ↔
          feature.staleSeconds ≤ service.appConfig.nofxStaleKillSeconds ∧
            service.OtherGatesOpen input ⟨openAtStart, paperDd, s, item⟩ := by
        rw [← gate_open_iff, AsksEngine, own, known]
        simp
      by_cases asked : item.1 = symbol ∧ service.AsksEngine input ⟨openAtStart, paperDd, s, item⟩
      · obtain ⟨own, asks⟩ := asked
        obtain ⟨fresh, others⟩ := (here own).mp asks
        have member : (⟨openAtStart, paperDd, s, item⟩ : DecidePass) ∈
            service.loopPasses input openAtStart paperDd s (item :: rest) := by
          simp [loopPasses, emitted]
        exact iff_of_true ⟨_, member, own, asks⟩ ⟨fresh, _, member, own, others⟩
      · have unasked : item.1 = symbol → ¬ service.AsksEngine input ⟨openAtStart, paperDd, s, item⟩ :=
          fun own asks => asked ⟨own, asks⟩
        have shut : feature.staleSeconds ≤ service.appConfig.nofxStaleKillSeconds → ¬ (item.1 = symbol ∧
            service.OtherGatesOpen input ⟨openAtStart, paperDd, s, item⟩) :=
          fun fresh open_here => unasked open_here.1 ((here open_here.1).mpr ⟨fresh, open_here.2⟩)
        cases stepped : service.decideStep input openAtStart paperDd s item with
        | error failure =>
            have only : service.loopPasses input openAtStart paperDd s (item :: rest) =
                [⟨openAtStart, paperDd, s, item⟩] := by simp [loopPasses, emitted, stepped]
            simp only [only, List.mem_singleton, exists_eq_left]
            exact iff_of_false asked fun both => shut both.1 both.2
        | ok next =>
            have passes : service.loopPasses input openAtStart paperDd s (item :: rest) =
                ⟨openAtStart, paperDd, s, item⟩ :: service.loopPasses input openAtStart paperDd next rest := by
              simp [loopPasses, emitted, stepped]
            have later := ih ((decideStep_feature stepped unasked).trans known)
            simp only [passes, List.mem_cons, exists_eq_or_imp]
            rw [or_iff_right asked, later]
            refine and_congr_right fun fresh => ?_
            rw [or_iff_right (shut fresh)]

end Asking

section Freshness

variable (service : DecisionRuntimeService) (input : CycleInput)
  (responses : ℕ → String → SymbolResponses) (describe : PyError → FetchFailure)

/-- When the payloads behind the feature of a symbol were fetched. -/
def payloadTimes (symbol : String) : List Datetime :=
  match service.keptBuild (input.fed responses describe) symbol with
  | none => []
  | some i => (responses i symbol).fetchTimes

/-- Each payload was fetched at most the configured time before the cycle. -/
def FreshPayloads (symbol : String) : Prop :=
  ∀ t ∈ service.payloadTimes input responses describe symbol,
    totalSeconds input.startedAt t ≤ service.appConfig.nofxStaleKillSeconds

/-- Some payload is within the limit and some is beyond it. -/
def MixedAges (symbol : String) : Prop :=
  (0 : ℚ) ≤ service.appConfig.nofxStaleKillSeconds ∧
    (∃ t ∈ service.payloadTimes input responses describe symbol,
      totalSeconds input.startedAt t ≤ service.appConfig.nofxStaleKillSeconds) ∧
    ∃ t ∈ service.payloadTimes input responses describe symbol,
      (service.appConfig.nofxStaleKillSeconds : ℚ) < totalSeconds input.startedAt t

variable {service input responses describe}

theorem lastBuild_ok {symbol : String} {items : List (String × ℕ)} {i : ℕ}
    (last : lastBuild input symbol items = some i) : ∃ feature, input.built i symbol = .ok feature := by
  induction items with
  | nil => cases last
  | cons item rest ih =>
      rw [lastBuild] at last
      rcases Option.or_eq_some_iff.mp last with later | ⟨-, here⟩
      · exact ih later
      · split at here
        · next succeeded =>
          cases here
          obtain ⟨rfl, returned⟩ := succeeded
          cases built : input.built item.2 item.1 with
          | error failure => simp [built, Except.isOk, Except.toBool] at returned
          | ok feature => exact ⟨feature, rfl⟩
        · cases here

/-- The decide loop starts on the collected features, without a decision. -/
theorem settleAccount_start {features : OrderedDict String FeatureVector} {state : RuntimeState}
    {s : CycleState} (settled : service.settleAccount input features state = .ok s) :
    s.features = features ∧ s.decisions = [] := by
  unfold settleAccount at settled
  repeat' split at settled
  all_goals cases settled
  all_goals exact ⟨rfl, rfl⟩

/-- Whenever the engine is asked about a symbol its payloads are fresh, exactly
when no symbol that gets through the other gates mixes fresh and stale ones. -/
theorem fresh_payloads_iff (service : DecisionRuntimeService) (input : CycleInput)
    (responses : ℕ → String → SymbolResponses) (describe : PyError → FetchFailure) (state : RuntimeState)
    (symbol : String) :
    ((∃ pass ∈ service.cyclePasses (input.fed responses describe) state, pass.item.1 = symbol ∧
          service.AsksEngine (input.fed responses describe) pass) →
        service.FreshPayloads input responses describe symbol) ↔
      ((∃ pass ∈ service.cyclePasses (input.fed responses describe) state, pass.item.1 = symbol ∧
          service.OtherGatesOpen (input.fed responses describe) pass) →
        ¬ service.MixedAges input responses describe symbol) := by
  have collected := builtFeatures_get? service (input.fed responses describe) symbol
  rw [← collectFeatures_features service _ (service.recordGlobalData (input.fed responses describe) state)]
    at collected
  simp only [cyclePasses]
  generalize service.collectFeatures (input.fed responses describe)
    (service.recordGlobalData (input.fed responses describe) state) = opened at collected ⊢
  obtain ⟨opened, features⟩ := opened
  cases settled : service.settleAccount (input.fed responses describe) features opened with
  | error failure => simp
  | ok s =>
      have known : s.features.get? symbol = features.get? symbol := by rw [(settleAccount_start settled).1]
      cases kept : service.keptBuild (input.fed responses describe) symbol with
      | none =>
          have times : service.payloadTimes input responses describe symbol = [] := by
            simp only [payloadTimes, kept]
          simp [FreshPayloads, MixedAges, times]
      | some i =>
          obtain ⟨feature, built⟩ := lastBuild_ok kept
          have times : service.payloadTimes input responses describe symbol =
              (responses i symbol).fetchTimes := by simp only [payloadTimes, kept]
          simp only [kept, Option.bind_some, built, Except.toOption] at collected
          have stale : feature.staleSeconds ≤ service.appConfig.nofxStaleKillSeconds ↔ _ :=
            fetchSymbolFeature_stale_iff built service.appConfig.nofxStaleKillSeconds
          have asks : (∃ pass ∈ service.phasePasses (input.fed responses describe) s,
              pass.item.1 = symbol ∧ service.AsksEngine (input.fed responses describe) pass) ↔ _ :=
            loop_asks_iff _ (known.trans collected)
          simp only [asks, stale, FreshPayloads, MixedAges, times]
          constructor
          · rintro fresh others ⟨nonneg, young, old, listed, beyond⟩
            exact (fresh ⟨⟨nonneg, young⟩, others⟩ old listed).not_gt beyond
          · rintro unmixed ⟨⟨nonneg, young⟩, others⟩ t listed
            by_contra beyond
            exact unmixed others ⟨nonneg, young, t, listed, not_le.mp beyond⟩

end Freshness

section Samples

/-- A coin payload ninety seconds old, in a cache that keeps payloads for an hour. -/
def agedCoinCache : ResponseCache where
  entries := .ofList [(("coin", "BTCUSDT"),
    ⟨.dict [("data", .dict [("price", .float 100)])], -90000000⟩)]

def fetchedNow : PayloadRequest := ⟨0, .ok (.dict [])⟩

def agedCoinResponses : SymbolResponses :=
  (requestPayloads agedCoinCache ⟨3600, 3600, 3600⟩ "BTCUSDT" none fetchedNow fetchedNow fetchedNow 0).2

/-- The other two payloads are fetched by the cycle, so the feature counts as
fresh and the engine decides on a price ninety seconds old. -/
theorem aged_coin_payload_decided :
    let service := liveMicroService ["BTCUSDT"]
    let responses := fun _ _ => agedCoinResponses
    let describe := fun error : PyError => (⟨error.message, "", ""⟩ : FetchFailure)
    service.appConfig.nofxStaleKillSeconds = 45 ∧
      ¬ ((∃ pass ∈ service.cyclePasses (trendingInput.fed responses describe) {},
            pass.item.1 = "BTCUSDT" ∧ service.AsksEngine (trendingInput.fed responses describe) pass) →
          service.FreshPayloads trendingInput responses describe "BTCUSDT") := by
  refine ⟨rfl, fun fresh => ?_⟩
  have asked : ∃ pass ∈ (liveMicroService ["BTCUSDT"]).cyclePasses
      (trendingInput.fed (fun _ _ => agedCoinResponses) fun error => ⟨error.message, "", ""⟩) {},
      pass.item.1 = "BTCUSDT" ∧ (liveMicroService ["BTCUSDT"]).AsksEngine
        (trendingInput.fed (fun _ _ => agedCoinResponses) fun error => ⟨error.message, "", ""⟩) pass := by
    decide +kernel
  have within := fresh asked (-90000000) (by decide +kernel)
  exact absurd within (by decide +kernel)

end Samples

end DecisionRuntimeService

end CatsPy
