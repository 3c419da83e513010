import CatsPy.FirstOccurrences
import CatsPy.PayloadFreshness
import CatsPy.ConfiguredTiers

/-!
# The decisions of a cycle

Every pass of the decide loop over a symbol with a feature decides that symbol,
whichever rung of the ladder decides. A cycle therefore decides every symbol
once exactly when no symbol with a feature is listed twice.
-/
namespace CatsPy.DecisionRuntimeService
open PythonValues StateRuns FirstOccurrences

section Symbols

variable {service : DecisionRuntimeService} {input : CycleInput} {paper : Option PaperExecutionService}
  {openAtStart : List String} {paperDd : ℚ} {symbol : String} {feature : FeatureVector}

/-- What the engine does not execute is about the symbol of the feature. -/
theorem decide_unexecuted {engine : DecisionEngine} {account : AccountSnapshot} {now : Datetime}
    {decisionId : String} {decision : TradeDecision} {enriched : FeatureVector}
    (decided : engine.decide feature account now decisionId = .ok (decision, enriched))
    (unexecuted : decision.status ≠ .execute) : decision.symbol = feature.symbol := by
  obtain ⟨-, ⟨regime, rationale, rfl⟩ | ⟨signal, risk, -, -, -, rfl⟩⟩ :=
    DecisionEngine.decide_returned decided
  · rfl
  · exact absurd rfl unexecuted

/-- Every rung of the ladder decides the symbol it is at. -/
theorem decideSymbol_symbol (shipped : service.decisionEngine.strategies = shippedStrategies)
    (own : feature.symbol = symbol) {snapshot : AccountSnapshot} {i : ℕ} {decision : TradeDecision}
    {enriched : FeatureVector}
    (decided : service.decideSymbol input paper openAtStart paperDd snapshot symbol i feature =
      .ok (decision, enriched)) : decision.symbol = symbol := by
  by_cases executes : decision.status = .execute
  · exact (decideSymbol_executed shipped decided executes).2.1.trans own
  · simp only [decideSymbol] at decided
    cases gated : service.gate input paper openAtStart paperDd symbol feature with
    | some blocked =>
        simp only [gated] at decided
        cases decided
        obtain ⟨label, regime, rationale, -, rfl⟩ := gate_blocked gated
        rfl
    | none =>
        simp only [gated] at decided
        exact (decide_unexecuted decided executes).trans own

end Symbols

section Loop

variable {service : DecisionRuntimeService} {input : CycleInput} {openAtStart : List String} {paperDd : ℚ}

/-- Every feature is about the symbol it is kept under. -/
def FeaturesOwn (features : OrderedDict String FeatureVector) : Prop :=
  ∀ symbol feature, features.get? symbol = some feature → feature.symbol = symbol

/-- The symbols with a feature, repetitions included. -/
def featured (features : OrderedDict String FeatureVector) (symbols : List String) : List String :=
  symbols.filter fun symbol => (features.get? symbol).isSome

/-- A pass decides its symbol where there is a feature, and adds or drops none. -/
theorem decideStep_symbols (shipped : service.decisionEngine.strategies = shippedStrategies)
    {s next : CycleState} {item : String × ℕ} (own : FeaturesOwn s.features)
    (stepped : service.decideStep input openAtStart paperDd s item = .ok next) :
    FeaturesOwn next.features ∧ (∀ symbols, featured next.features symbols = featured s.features symbols) ∧
      next.decisions.map TradeDecision.symbol =
        s.decisions.map TradeDecision.symbol ++ featured s.features [item.1] := by
  obtain ⟨symbol, i⟩ := item
  rcases decideStep_returned stepped with
    ⟨known, rfl⟩ | ⟨feature, decision, enriched, known, decided, kept, added⟩
  · refine ⟨own, fun _ => rfl, ?_⟩
    simp [featured, known]
  · have aligned := own symbol feature known
    refine ⟨?_, ?_, ?_⟩
    · intro x stored found
      rw [kept, OrderedDict.get?_set] at found
      split at found
      next same =>
        cases found
        exact ((decideSymbol_aligned decided).trans aligned).trans same.symm
      next => exact own x stored found
    · intro symbols
      refine List.filter_congr fun x _ => ?_
      rw [kept, OrderedDict.get?_set]
      split
      next same => simp [same, known]
      next => rfl
    · have one := decideSymbol_symbol shipped aligned decided
      simp [added, featured, known, one]

/-- The loop decides the listed symbols that have a feature, in order. -/
theorem decideLoop_symbols (shipped : service.decisionEngine.strategies = shippedStrategies)
    {items : List (String × ℕ)} {s after : CycleState} (own : FeaturesOwn s.features)
    (returned : items.foldlM (service.decideStep input openAtStart paperDd) s = .ok after) :
    after.decisions.map TradeDecision.symbol =
      s.decisions.map TradeDecision.symbol ++ featured s.features (items.map Prod.fst) := by
  induction items generalizing s with
  | nil =>
      cases returned
      simp [featured]
  | cons item rest ih =>
      obtain ⟨next, stepped, remaining⟩ := foldlM_cons_ok returned
      obtain ⟨still_own, same_features, decided⟩ := decideStep_symbols shipped own stepped
      rw [ih still_own remaining, decided, same_features, List.append_assoc, List.map_cons]
      simp only [featured, ← List.filter_append, List.singleton_append]

end Loop

section Cycle

variable (service : DecisionRuntimeService) (input : CycleInput)

/-- Some concurrent build of the symbol succeeded. -/
def featureBuilt (symbol : String) : Bool :=
  service.configuredSymbols.zipIdx.any fun item => item.1 = symbol ∧ (input.built item.2 item.1).isOk

theorem lastBuild_isSome (symbol : String) (items : List (String × ℕ)) :
    (lastBuild input symbol items).isSome =
      items.any fun item => item.1 = symbol ∧ (input.built item.2 item.1).isOk := by
  induction items with
  | nil => rfl
  | cons item rest ih =>
      rw [lastBuild, Option.isSome_or, ih, List.any_cons, Bool.or_comm]
      congr 1
      by_cases here : item.1 = symbol ∧ (input.built item.2 item.1).isOk = true
      · rw [if_pos here, decide_eq_true here, Option.isSome_some]
      · rw [if_neg here, decide_eq_false here, Option.isSome_none]

theorem builtFeatures_isSome (symbol : String) :
    ((service.builtFeatures input).get? symbol).isSome = service.featureBuilt input symbol := by
  rw [builtFeatures_get?, featureBuilt, ← lastBuild_isSome, keptBuild]
  cases kept : lastBuild input symbol service.configuredSymbols.zipIdx with
  | none => rfl
  | some i =>
      obtain ⟨feature, built⟩ := lastBuild_ok kept
      simp [built, Except.toOption]

variable {service input}

/-- A cycle that returns decides the configured symbols with a feature, in order. -/
theorem runCycle_symbols (shipped : service.decisionEngine.strategies = shippedStrategies)
    {state : RuntimeState} {result : DecisionRuntimeResult}
    (returned : (service.runCycle state input).2 = .ok result) :
    result.decisions.map TradeDecision.symbol = service.configuredSymbols.filter (service.featureBuilt input) := by
  have collected := collectFeatures_features service input (service.recordGlobalData input state)
  have own : FeaturesOwn (service.builtFeatures input) := by
    intro symbol feature found
    obtain ⟨i, built⟩ := collectFeatures_built found
    exact input.aligned i symbol feature built
  simp only [runCycle] at returned
  generalize service.collectFeatures input (service.recordGlobalData input state) = opened
    at collected returned
  obtain ⟨opened, features⟩ := opened
  obtain rfl : features = service.builtFeatures input := collected
  cases settled : service.settleAccount input (service.builtFeatures input) opened with
  | error failure => simp [settled] at returned
  | ok s =>
      obtain ⟨features, undecided⟩ := settleAccount_start settled
      cases looped : service.decidePhase input s with
      | error failure => simp [settled, looped] at returned
      | ok after =>
          simp only [settled, looped] at returned
          cases returned
          rw [← features] at own
          rw [decideLoop_symbols shipped own looped, undecided, features, List.map_nil,
            List.nil_append, List.zipIdx_map_fst]
          exact List.filter_congr fun symbol _ => builtFeatures_isSome service input symbol

/-- The symbols a mode is configured for, as the file lists them. -/
def listedSymbols (service : DecisionRuntimeService) : List String :=
  if service.modeSummary.mode = .liveMicro then service.symbolConfig.core
  else service.symbolConfig.symbols

/-- Outside live_micro the lists are flattened without repetitions. -/
theorem configuredSymbols_eq (service : DecisionRuntimeService) :
    service.configuredSymbols = if service.modeSummary.mode = .liveMicro then service.listedSymbols
      else service.listedSymbols.eraseDups := by
  unfold configuredSymbols listedSymbols
  split
  · rfl
  · rw [distinctSymbols, keys_ofList, List.map_map]
    simp [Function.comp_def, SymbolConfig.symbols]

/-- A cycle decides every symbol with a feature once exactly when it is not
live_micro, or its core list names no such symbol twice. -/
theorem decisions_once_iff (service : DecisionRuntimeService)
    (shipped : service.decisionEngine.strategies = shippedStrategies) (state : RuntimeState)
    (input : CycleInput) (result : DecisionRuntimeResult)
    (returned : (service.runCycle state input).2 = .ok result) :
    result.decisions.map TradeDecision.symbol =
        service.listedSymbols.eraseDups.filter (service.featureBuilt input) ↔
      service.modeSummary.mode ≠ .liveMicro ∨
        (service.symbolConfig.core.filter (service.featureBuilt input)).Nodup := by
  rw [runCycle_symbols shipped returned, configuredSymbols_eq]
  by_cases micro : service.modeSummary.mode = .liveMicro
  · rw [if_pos micro, eq_comm, eraseDups_filter_eq_iff]
    simp only [listedSymbols, micro, if_true, ne_eq, not_true_eq_false, false_or]
  · rw [if_neg micro]
    exact iff_of_true rfl (.inl micro)

theorem decisions_once_two : ∃ result,
    ((liveMicroService ["BTCUSDT", "ETHUSDT"]).runCycle {} trendingInput).2 = .ok result ∧
    result.decisions.map TradeDecision.symbol =
      (liveMicroService ["BTCUSDT", "ETHUSDT"]).listedSymbols.eraseDups.filter
        ((liveMicroService ["BTCUSDT", "ETHUSDT"]).featureBuilt trendingInput) := by
  have returns : ((liveMicroService ["BTCUSDT", "ETHUSDT"]).runCycle {} trendingInput).2.toOption.isSome =
      true := by
    decide +kernel
  obtain ⟨result, returned⟩ := Option.isSome_iff_exists.mp returns
  have ran := congrArg Prod.snd (returned_eq returned)
  exact ⟨result, ran, (decisions_once_iff _ rfl {} trendingInput result ran).mpr (.inr (by decide +kernel))⟩

/-- A core list that names BTCUSDT twice decides it twice. -/
theorem repeated_core_decided_twice : ∃ result,
    ((liveMicroService ["BTCUSDT", "BTCUSDT"]).runCycle {} trendingInput).2 = .ok result ∧
    result.decisions.map TradeDecision.symbol = ["BTCUSDT", "BTCUSDT"] ∧
    result.decisions.map TradeDecision.symbol ≠
      (liveMicroService ["BTCUSDT", "BTCUSDT"]).listedSymbols.eraseDups.filter
        ((liveMicroService ["BTCUSDT", "BTCUSDT"]).featureBuilt trendingInput) := by
  have twice : ((liveMicroService ["BTCUSDT", "BTCUSDT"]).runCycle {} trendingInput).2.toOption.any
      (fun result => result.decisions.map TradeDecision.symbol = ["BTCUSDT", "BTCUSDT"]) = true := by
    decide +kernel
  obtain ⟨result, returned, symbols⟩ := (Option.any_eq_true _ _).mp twice
  have listed : result.decisions.map TradeDecision.symbol = ["BTCUSDT", "BTCUSDT"] := by simpa using symbols
  refine ⟨result, congrArg Prod.snd (returned_eq returned), listed, ?_⟩
  rw [listed]
  decide +kernel

end Cycle

end CatsPy.DecisionRuntimeService
