import CatsPy.DecisionRuntime
import CatsPy.RiskVetoes

/-!
# What one cycle commits

Outside paper mode every symbol of a cycle is judged on the one reconciled
snapshot. A symbol contends when a candidate of its own clears every guard there.
One contender always fits; several fit exactly when there is a slot for each and
what they may ask for on their own is within the gross headroom.
-/
namespace CatsPy
open PythonValues StateRuns

namespace RiskKernel

/-- Every cap on a signal's notional but the gross headroom that all signals share. -/
def ownCaps (kernel : RiskKernel) (signal : SignalCandidate) (account : AccountSnapshot)
    (tierPolicy : SymbolTierPolicy) : List ℚ :=
  [account.equity * (kernel.tradeRiskBudget signal account / 10000) /
      max signal.stopDistancePct (1 / 1000000),
    account.equity * (tierPolicy.maxSymbolNotionalPct / 100),
    account.equity * kernel.remainingSymbol signal account] ++
  ((kernel.remainingCluster signal account).map fun remaining => account.equity * remaining).toList ++
  (kernel.leverageBracketNotionalCap signal).toList

/-- What a signal may ask for on its own. -/
def ownCap (kernel : RiskKernel) (signal : SignalCandidate) (account : AccountSnapshot) : ℚ :=
  ((kernel.tierPolicies.get? (kernel.tierOf signal.symbol)).bind fun tierPolicy =>
    (kernel.ownCaps signal account tierPolicy).min?).getD 0

/-- What it asks for, cut to the gross headroom. -/
def granted (kernel : RiskKernel) (account : AccountSnapshot) (signal : SignalCandidate) : ℚ :=
  min (account.equity * kernel.remainingGross account) (kernel.ownCap signal account)

theorem approvedNotional_eq {kernel : RiskKernel} {signal : SignalCandidate} {account : AccountSnapshot}
    {risk : RiskDecision} (evaluated : kernel.evaluate signal account = .ok risk)
    (approved : risk.status = .approved) : risk.approvedNotional = kernel.granted account signal := by
  obtain ⟨tierPolicy, -, found, -, rfl⟩ := evaluate_sizeTrade evaluated approved
  have least := sizeTrade_notional approved
  obtain ⟨own, smallest⟩ : ∃ own, (kernel.ownCaps signal account tierPolicy).min? = some own :=
    Option.isSome_iff_exists.mp (by simp [ownCaps])
  have split : kernel.notionalCaps signal account tierPolicy =
      account.equity * kernel.remainingGross account :: kernel.ownCaps signal account tierPolicy := rfl
  rw [split, List.min?_cons, smallest] at least
  have own_eq : kernel.ownCap signal account = own := by simp [ownCap, found, smallest]
  rw [granted, own_eq]
  exact (Option.some.inj least).symm

/-- A signal that clears every guard has something to ask for. -/
theorem Clears.ownCap_pos {kernel : RiskKernel} {signal : SignalCandidate} {account : AccountSnapshot}
    (clears : kernel.Clears signal account) : 0 < kernel.ownCap signal account := by
  obtain ⟨risk, evaluated, approved⟩ := clears.approved
  have positive := (approved_positive evaluated approved).2
  rw [approvedNotional_eq evaluated approved, granted] at positive
  exact (lt_min_iff.mp positive).2

end RiskKernel

namespace DecisionEngine

/-- A positive score, and nothing the kernel has against it. -/
def Contends (kernel : RiskKernel) (account : AccountSnapshot) (signal : SignalCandidate) : Prop :=
  0 < signal.actionScore ∧ kernel.Clears signal account

instance (kernel : RiskKernel) (account : AccountSnapshot) (signal : SignalCandidate) :
    Decidable (Contends kernel account signal) := inferInstanceAs (Decidable (_ ∧ _))

/-- The first candidate of the ranking that contends. -/
def contender (engine : DecisionEngine) (feature : FeatureVector) (account : AccountSnapshot)
    (now : Datetime) : Option SignalCandidate :=
  if detect (enrich feature now) = .defense then none
  else (ranked (engine.candidates (enrich feature now) (detect (enrich feature now)))).find?
    fun signal => Contends engine.riskKernel account signal

/-- A search that returns has found the first contender. -/
theorem firstApproved_ok {kernel : RiskKernel} {account : AccountSnapshot}
    {signals : List SignalCandidate} {reasons : List String}
    {outcome : List String ⊕ SignalCandidate × RiskDecision}
    (found : firstApproved kernel account signals reasons = .ok outcome) :
    (signals.find? (fun signal => Contends kernel account signal) = none ∧
      ∃ texts, outcome = .inl texts) ∨
    ∃ signal risk, signals.find? (fun signal => Contends kernel account signal) = some signal ∧
      kernel.evaluate signal account = .ok risk ∧ risk.status = .approved ∧
      outcome = .inr (signal, risk) := by
  induction signals generalizing reasons with
  | nil =>
      cases found
      exact .inl ⟨rfl, reasons, rfl⟩
  | cons first rest ih =>
      simp only [firstApproved] at found
      split at found
      · next dominated =>
        have passed : ¬ Contends kernel account first := fun contends => contends.1.not_ge dominated
        simpa [passed] using ih found
      · next scored =>
        cases evaluated : kernel.evaluate first account with
        | error e => simp [evaluated] at found
        | ok verdict =>
            simp only [evaluated] at found
            split at found
            · next refused =>
              have passed : ¬ Contends kernel account first := by
                intro contends
                obtain ⟨other, same, approved⟩ := contends.2.approved
                rw [evaluated] at same
                cases same
                exact refused approved
              simpa [passed] using ih found
            · next accepted =>
              cases found
              have approved : verdict.status = .approved := not_not.mp accepted
              have contends : Contends kernel account first :=
                ⟨not_le.mp scored, RiskKernel.clears_of_approved evaluated approved⟩
              exact .inr ⟨first, verdict, by simp [contends], evaluated, approved, rfl⟩

/-- Every candidate is a strategy's signal, relabelled and scored. -/
theorem mem_candidates {engine : DecisionEngine} {feature : FeatureVector} {regime : MarketRegime}
    {signal : SignalCandidate} (listed : signal ∈ engine.candidates feature regime) :
    ∃ strategy ∈ engine.strategies, ∃ raw, strategy.generate feature = some raw ∧
      signal.symbol = raw.symbol ∧ signal.cluster = raw.cluster := by
  obtain ⟨strategy, member, generated⟩ := List.mem_filterMap.mp listed
  obtain ⟨raw, emitted, rfl⟩ := Option.map_eq_some_iff.mp generated
  exact ⟨strategy, member, raw, emitted, rfl, rfl⟩

/-- What the engine returns: a refusal for the feature's symbol, or the approval
of a candidate. -/
theorem decide_returned {engine : DecisionEngine} {feature : FeatureVector} {account : AccountSnapshot}
    {now : Datetime} {decisionId : String} {decision : TradeDecision} {enriched : FeatureVector}
    (decided : engine.decide feature account now decisionId = .ok (decision, enriched)) :
    enriched = enrich feature now ∧
      ((∃ regime rationale, decision = .noTrade decisionId feature.symbol regime rationale) ∨
        ∃ signal risk, signal ∈ engine.candidates (enrich feature now) (detect (enrich feature now)) ∧
          engine.riskKernel.evaluate signal account = .ok risk ∧ risk.status = .approved ∧
          decision = .execute decisionId signal.symbol signal.regime signal.side signal.rationale risk
            signal.actionScore (some signal.strategyName)) := by
  simp only [decide] at decided
  split at decided
  · cases decided
    exact ⟨rfl, .inl ⟨_, _, rfl⟩⟩
  · split at decided
    · cases decided
      exact ⟨rfl, .inl ⟨_, _, rfl⟩⟩
    · split at decided
      · cases decided
      · next signal risk found =>
        cases decided
        obtain ⟨-, texts, other⟩ | ⟨_, _, first, evaluated, approved, same⟩ := firstApproved_ok found
        · cases other
        · cases same
          exact ⟨rfl, .inr ⟨signal, risk,
            (List.mem_insertionSort _).mp (List.mem_of_find?_eq_some first), evaluated, approved, rfl⟩⟩
      · cases decided
        exact ⟨rfl, .inl ⟨_, _, rfl⟩⟩

/-- An executed decision carries a kernel approval on the given snapshot. -/
theorem decide_execute {engine : DecisionEngine} {feature : FeatureVector} {account : AccountSnapshot}
    {now : Datetime} {decisionId : String} {decision : TradeDecision} {enriched : FeatureVector}
    (decided : engine.decide feature account now decisionId = .ok (decision, enriched))
    (executes : decision.status = .execute) :
    ∃ signal risk, decision.risk = some risk ∧ decision.symbol = signal.symbol ∧
      signal ∈ engine.candidates (enrich feature now) (detect (enrich feature now)) ∧
      engine.riskKernel.evaluate signal account = .ok risk ∧ risk.status = .approved := by
  obtain ⟨-, ⟨regime, rationale, rfl⟩ | ⟨signal, risk, listed, evaluated, approved, rfl⟩⟩ :=
    decide_returned decided
  · cases executes
  · exact ⟨signal, risk, rfl, rfl, listed, evaluated, approved⟩

/-- A call that returns executes the contender, or nothing when there is none. -/
theorem decide_contender {engine : DecisionEngine} {feature : FeatureVector} {account : AccountSnapshot}
    {now : Datetime} {decisionId : String} {decision : TradeDecision} {enriched : FeatureVector}
    (decided : engine.decide feature account now decisionId = .ok (decision, enriched)) :
    (engine.contender feature account now = none ∧ decision.status ≠ .execute) ∨
    ∃ signal risk, engine.contender feature account now = some signal ∧
      engine.riskKernel.evaluate signal account = .ok risk ∧ risk.status = .approved ∧
      decision = .execute decisionId signal.symbol signal.regime signal.side signal.rationale risk
        signal.actionScore (some signal.strategyName) := by
  simp only [decide] at decided
  unfold contender
  split at decided
  · next defense =>
    cases decided
    exact .inl ⟨if_pos defense, by simp [TradeDecision.noTrade]⟩
  · next calm =>
    rw [if_neg calm]
    split at decided
    · next empty =>
      cases decided
      exact .inl ⟨by simp [empty, ranked], by simp [TradeDecision.noTrade]⟩
    · split at decided
      · cases decided
      · next signal risk found =>
        cases decided
        obtain ⟨-, texts, other⟩ | ⟨_, _, first, evaluated, approved, same⟩ := firstApproved_ok found
        · cases other
        · cases same
          exact .inr ⟨signal, risk, first, evaluated, approved, rfl⟩
      · next found =>
        cases decided
        obtain ⟨none_contends, -⟩ | ⟨_, _, -, -, -, other⟩ := firstApproved_ok found
        · exact .inl ⟨none_contends, by simp [TradeDecision.noTrade]⟩
        · cases other

end DecisionEngine

section Commitments

def TradeDecision.executes (decision : TradeDecision) : Bool := decision.status = .execute

def TradeDecision.notional (decision : TradeDecision) : ℚ :=
  (decision.risk.map RiskDecision.approvedNotional).getD 0

/-- The snapshot and the executed decisions together respect both limits. -/
def CommitsWithin (policy : RiskPolicy) (snapshot : AccountSnapshot) (decisions : List TradeDecision) :
    Prop :=
  ((decisions.filter TradeDecision.executes).length : ℤ) + snapshot.openPositions ≤
      policy.maxOpenPositions ∧
    snapshot.grossExposure * snapshot.equity +
      ((decisions.filter TradeDecision.executes).map TradeDecision.notional).sum ≤
        policy.grossExposureSoft * snapshot.equity

instance (policy : RiskPolicy) (snapshot : AccountSnapshot) (decisions : List TradeDecision) :
    Decidable (CommitsWithin policy snapshot decisions) := inferInstanceAs (Decidable (_ ∧ _))

/-- Without a contender the snapshot has to respect the limits itself, and one
contender always fits. Several need a slot each, and what they may ask for has to be
within the gross headroom. -/
def FitTogether (kernel : RiskKernel) (snapshot : AccountSnapshot) : List SignalCandidate → Prop
  | [] => snapshot.openPositions ≤ kernel.policy.maxOpenPositions ∧
      snapshot.grossExposure * snapshot.equity ≤ kernel.policy.grossExposureSoft * snapshot.equity
  | [_] => True
  | first :: second :: rest =>
      ((first :: second :: rest).length : ℤ) + snapshot.openPositions ≤
          kernel.policy.maxOpenPositions ∧
        ((first :: second :: rest).map fun signal => kernel.ownCap signal snapshot).sum ≤
          snapshot.equity * (kernel.policy.grossExposureSoft - snapshot.grossExposure)

instance decidableFitTogether (kernel : RiskKernel) (snapshot : AccountSnapshot) :
    ∀ contenders, Decidable (FitTogether kernel snapshot contenders)
  | [] => inferInstanceAs (Decidable (_ ∧ _))
  | [_] => inferInstanceAs (Decidable True)
  | _ :: _ :: _ => inferInstanceAs (Decidable (_ ∧ _))

/-- Below the room, cutting to the room changes nothing. -/
theorem sum_cut_of_lt {room : ℚ} {asks : List ℚ} (positive : ∀ ask ∈ asks, 0 < ask) (open_room : 0 < room)
    (within : (asks.map (min room)).sum < room) : asks.map (min room) = asks := by
  induction asks with
  | nil => rfl
  | cons ask rest ih =>
      have rest_positive : ∀ later ∈ rest, 0 < later := fun later member =>
        positive later (List.mem_cons_of_mem ask member)
      have cut_positive : 0 < min room ask := lt_min open_room (positive ask List.mem_cons_self)
      have rest_sum : 0 ≤ (rest.map (min room)).sum := by
        apply List.sum_nonneg
        intro cut member
        obtain ⟨later, listed, rfl⟩ := List.mem_map.mp member
        exact (lt_min open_room (rest_positive later listed)).le
      rw [List.map_cons, List.sum_cons] at within
      have uncut : min room ask = ask := by
        apply min_eq_right
        by_contra beyond
        rw [min_eq_left (not_le.mp beyond).le] at within
        linarith
      rw [List.map_cons, uncut, ih rest_positive (by linarith)]

/-- Several asks cut to the room are within it together exactly when they are so uncut:
an ask that is cut fills the room alone. -/
theorem sum_cut_le_iff {room first second : ℚ} {rest : List ℚ} (open_room : 0 < room)
    (positive : ∀ ask ∈ first :: second :: rest, 0 < ask) :
    ((first :: second :: rest).map (min room)).sum ≤ room ↔ (first :: second :: rest).sum ≤ room := by
  constructor
  · intro within
    have later_positive : ∀ ask ∈ second :: rest, 0 < ask := fun ask member =>
      positive ask (List.mem_cons_of_mem first member)
    have first_cut : 0 < min room first := lt_min open_room (positive first List.mem_cons_self)
    have later_sum : 0 < ((second :: rest).map (min room)).sum := by
      apply List.sum_pos
      · intro cut member
        obtain ⟨ask, listed, rfl⟩ := List.mem_map.mp member
        exact lt_min open_room (later_positive ask listed)
      · simp
    rw [List.map_cons, List.sum_cons] at within
    have later_uncut := sum_cut_of_lt later_positive open_room (by linarith)
    have first_uncut : min room first = first := by
      apply min_eq_right
      by_contra beyond
      rw [min_eq_left (not_le.mp beyond).le] at within
      linarith
    rw [later_uncut, first_uncut] at within
    rwa [List.sum_cons]
  · intro within
    have uncut : ((first :: second :: rest).map (min room)).sum ≤
        ((first :: second :: rest).map id).sum := List.sum_le_sum fun ask _ => min_le_right room ask
    rw [List.map_id] at uncut
    exact uncut.trans within

/-- The grants respect both limits exactly when their signals fit together. -/
theorem fitTogether_iff {kernel : RiskKernel} {snapshot : AccountSnapshot}
    {contenders : List SignalCandidate}
    (cleared : ∀ signal ∈ contenders, kernel.Clears signal snapshot) :
    FitTogether kernel snapshot contenders ↔
      (contenders.length : ℤ) + snapshot.openPositions ≤ kernel.policy.maxOpenPositions ∧
      snapshot.grossExposure * snapshot.equity + (contenders.map (kernel.granted snapshot)).sum ≤
        kernel.policy.grossExposureSoft * snapshot.equity := by
  cases contenders with
  | nil => simp [FitTogether]
  | cons first rest =>
      have clears := cleared first List.mem_cons_self
      have equity := clears.equity
      have headroom : kernel.remainingGross snapshot =
          kernel.policy.grossExposureSoft - snapshot.grossExposure :=
        max_eq_left (sub_pos.mpr clears.grossSoft).le
      have room_pos : 0 < snapshot.equity * kernel.remainingGross snapshot := by
        rw [headroom]
        exact mul_pos equity (sub_pos.mpr clears.grossSoft)
      have gross_iff : ∀ total : ℚ, snapshot.grossExposure * snapshot.equity + total ≤
          kernel.policy.grossExposureSoft * snapshot.equity ↔
            total ≤ snapshot.equity * kernel.remainingGross snapshot := by
        intro total
        rw [headroom]
        constructor
        · intro within
          linarith
        · intro within
          linarith
      rw [gross_iff]
      cases rest with
      | nil =>
          have slot := clears.count
          simp only [FitTogether, List.length_singleton, List.map_singleton, List.sum_singleton,
            RiskKernel.granted, true_iff]
          exact ⟨by omega, min_le_left _ _⟩
      | cons second others =>
          have positive : ∀ ask ∈ (first :: second :: others).map fun signal => kernel.ownCap signal snapshot,
              0 < ask := by
            intro ask member
            obtain ⟨signal, listed, rfl⟩ := List.mem_map.mp member
            exact (cleared signal listed).ownCap_pos
          have cut := sum_cut_le_iff room_pos positive
          have grants : (first :: second :: others).map (kernel.granted snapshot) =
              ((first :: second :: others).map fun signal => kernel.ownCap signal snapshot).map
                (min (snapshot.equity * kernel.remainingGross snapshot)) := by
            simp [RiskKernel.granted]
          rw [grants, FitTogether, ← headroom]
          exact and_congr_right fun _ => cut.symm

end Commitments

namespace DecisionRuntimeService

section Inputs

/-- The features of a cycle depend on what was fetched only. -/
def builtFeatures (service : DecisionRuntimeService) (input : CycleInput) :
    OrderedDict String FeatureVector := (service.collectFeatures input {}).2

theorem collectFeatures_features (service : DecisionRuntimeService) (input : CycleInput)
    (state : RuntimeState) : (service.collectFeatures input state).2 = service.builtFeatures input := by
  have fold : ∀ (items : List (String × ℕ)) (s t : RuntimeState) (d : OrderedDict String FeatureVector),
      (items.foldl (service.collectFeature input) (s, d)).2 =
        (items.foldl (service.collectFeature input) (t, d)).2 := by
    intro items
    induction items with
    | nil => intro s t d; rfl
    | cons item rest ih =>
        intro s t d
        simp only [List.foldl_cons, collectFeature]
        split
        · exact ih _ _ _
        · exact ih _ _ _
  exact fold _ _ _ _

/-- The contenders of a cycle on the one snapshot it judges by. A feature that is too
old has none. A symbol listed again comes with the age its enrichment gave it. -/
def contendersOn (service : DecisionRuntimeService) (input : CycleInput) (snapshot : AccountSnapshot) :
    OrderedDict String FeatureVector → List (String × ℕ) → List SignalCandidate
  | _, [] => []
  | features, (symbol, i) :: rest =>
      match features.get? symbol with
      | none => service.contendersOn input snapshot features rest
      | some feature =>
          if (service.appConfig.nofxStaleKillSeconds : ℚ) < feature.staleSeconds then
            service.contendersOn input snapshot (features.set symbol feature) rest
          else
            (service.decisionEngine.contender feature snapshot (input.decideNow i)).toList ++
              service.contendersOn input snapshot
                (features.set symbol (enrich feature (input.decideNow i))) rest

def contenders (service : DecisionRuntimeService) (input : CycleInput) (snapshot : AccountSnapshot) :
    List SignalCandidate :=
  service.contendersOn input snapshot (service.builtFeatures input) service.configuredSymbols.zipIdx

end Inputs

section Loop

variable {service : DecisionRuntimeService} {input : CycleInput}

/-- A gate refuses its symbol, under an id it names. -/
theorem gate_blocked {paper : Option PaperExecutionService} {openAtStart : List String} {paperDd : ℚ}
    {symbol : String} {feature : FeatureVector} {blocked : TradeDecision}
    (gated : service.gate input paper openAtStart paperDd symbol feature = some blocked) :
    ∃ label regime rationale, label ≠ "" ∧
      blocked = .noTrade (blockedId label symbol input) symbol regime rationale := by
  simp only [gate] at gated
  split_ifs at gated
  all_goals
    cases gated
    exact ⟨_, _, _, by decide, rfl⟩

/-- The gates only ever refuse. -/
theorem gate_noTrade {paper : Option PaperExecutionService} {openAtStart : List String} {paperDd : ℚ}
    {symbol : String} {feature : FeatureVector} {blocked : TradeDecision}
    (gated : service.gate input paper openAtStart paperDd symbol feature = some blocked) :
    blocked.status = .noTrade := by
  obtain ⟨label, regime, rationale, -, rfl⟩ := gate_blocked gated
  rfl

/-- Without a paper account only the age of the feature is gated. -/
theorem gate_unsimulated (symbol : String) (feature : FeatureVector) :
    service.gate input none [] 0 symbol feature = none ↔
      ¬ (service.appConfig.nofxStaleKillSeconds : ℚ) < feature.staleSeconds := by
  simp [gate]

/-- One symbol executes its contender, if it has one, and takes what that is granted. -/
theorem decideSymbol_contender {snapshot : AccountSnapshot} {symbol : String} {i : ℕ}
    {feature enriched : FeatureVector} {decision : TradeDecision}
    (decided : service.decideSymbol input none [] 0 snapshot symbol i feature = .ok (decision, enriched))
    (features : OrderedDict String FeatureVector) (known : features.get? symbol = some feature)
    (rest : List (String × ℕ)) :
    ∃ taken : Option SignalCandidate,
      service.contendersOn input snapshot features ((symbol, i) :: rest) =
        taken.toList ++ service.contendersOn input snapshot (features.set symbol enriched) rest ∧
      ([decision].filter TradeDecision.executes).map TradeDecision.notional =
        taken.toList.map (service.decisionEngine.riskKernel.granted snapshot) := by
  simp only [decideSymbol] at decided
  cases gated : service.gate input none [] 0 symbol feature with
  | some blocked =>
      have stale : (service.appConfig.nofxStaleKillSeconds : ℚ) < feature.staleSeconds := by
        by_contra young
        rw [(gate_unsimulated symbol feature).mpr young] at gated
        cases gated
      simp only [gated] at decided
      cases decided
      refine ⟨none, by simp [contendersOn, known, stale], ?_⟩
      simp [TradeDecision.executes, gate_noTrade gated]
  | none =>
      have young := (gate_unsimulated symbol feature).mp gated
      simp only [gated] at decided
      have enriched_eq := (DecisionEngine.decide_returned decided).1
      refine ⟨service.decisionEngine.contender feature snapshot (input.decideNow i),
        by simp [contendersOn, known, young, enriched_eq], ?_⟩
      obtain ⟨none_contends, idle⟩ | ⟨signal, risk, first, evaluated, approved, rfl⟩ :=
        DecisionEngine.decide_contender decided
      · simp [none_contends, TradeDecision.executes, idle]
      · simp [first, TradeDecision.executes, TradeDecision.execute, TradeDecision.notional,
          RiskKernel.approvedNotional_eq evaluated approved]

/-- Whoever contends clears every guard. -/
theorem mem_contendersOn {snapshot : AccountSnapshot} {features : OrderedDict String FeatureVector}
    {items : List (String × ℕ)} :
    ∀ signal ∈ service.contendersOn input snapshot features items,
      service.decisionEngine.riskKernel.Clears signal snapshot := by
  induction items generalizing features with
  | nil => simp [contendersOn]
  | cons item rest ih =>
      obtain ⟨symbol, i⟩ := item
      intro signal member
      simp only [contendersOn] at member
      split at member
      · exact ih signal member
      · split at member
        · exact ih signal member
        · rcases List.mem_append.mp member with here | later
          · have found := Option.mem_toList.mp here
            simp only [DecisionEngine.contender] at found
            split at found
            · cases found
            · have contends := List.find?_some found
              exact (of_decide_eq_true contends).2
          · exact ih signal later

/-- Without a paper account a step decides and journals, and the snapshot stays. -/
theorem decideStep_ok (unsimulated : service.modeSummary.paperExecution = false) {s next : CycleState}
    {symbol : String} {i : ℕ} (stepped : service.decideStep input [] 0 s (symbol, i) = .ok next) :
    next.accountSnapshot = s.accountSnapshot ∧
      ((s.features.get? symbol = none ∧ next = s) ∨
        ∃ feature decision enriched, s.features.get? symbol = some feature ∧
          service.decideSymbol input none [] 0 s.accountSnapshot symbol i feature =
            .ok (decision, enriched) ∧
          next.features = s.features.set symbol enriched ∧
          next.decisions = s.decisions ++ [decision]) := by
  have no_paper : ∀ state, service.simulated state = none := by simp [simulated, unsimulated]
  simp only [decideStep] at stepped
  cases known : s.features.get? symbol with
  | none =>
      simp only [known] at stepped
      cases stepped
      exact ⟨rfl, .inl ⟨rfl, rfl⟩⟩
  | some feature =>
      simp only [known, no_paper] at stepped
      cases decided : service.decideSymbol input none [] 0 s.accountSnapshot symbol i feature with
      | error e => simp [decided] at stepped
      | ok outcome =>
          simp only [decided, settleDecision, no_paper] at stepped
          cases stepped
          exact ⟨rfl, .inr ⟨feature, outcome.1, outcome.2, rfl, decided, rfl, rfl⟩⟩

/-- The executed decisions of the loop take what the contenders are granted. -/
theorem decideLoop_contenders (unsimulated : service.modeSummary.paperExecution = false)
    {items : List (String × ℕ)} {s after : CycleState}
    (returned : items.foldlM (service.decideStep input [] 0) s = .ok after) :
    ∃ decided, after.decisions = s.decisions ++ decided ∧
      (decided.filter TradeDecision.executes).map TradeDecision.notional =
        (service.contendersOn input s.accountSnapshot s.features items).map
          (service.decisionEngine.riskKernel.granted s.accountSnapshot) := by
  induction items generalizing s with
  | nil =>
      cases returned
      exact ⟨[], by simp [contendersOn]⟩
  | cons item rest ih =>
      obtain ⟨symbol, i⟩ := item
      obtain ⟨next, stepped, remaining⟩ := foldlM_cons_ok returned
      obtain ⟨later, decisions_eq, notionals_eq⟩ := ih remaining
      obtain ⟨same_snapshot, skipped | ⟨feature, decision, enriched, known, decided, features_eq, one⟩⟩ :=
        decideStep_ok unsimulated stepped
      · obtain ⟨unknown, rfl⟩ := skipped
        exact ⟨later, decisions_eq, by simp [contendersOn, unknown, notionals_eq]⟩
      · rw [same_snapshot, features_eq] at notionals_eq
        obtain ⟨taken, split, here⟩ := decideSymbol_contender decided s.features known rest
        refine ⟨decision :: later, by simp [decisions_eq, one], ?_⟩
        rw [split, List.map_append, ← here, ← notionals_eq, ← List.map_append, ← List.filter_append,
          List.singleton_append]

end Loop

/-- A shadow or live_micro cycle stays within the limits exactly when its
contenders fit together on the snapshot it started from. -/
theorem cycle_commits_iff (service : DecisionRuntimeService) (mode : RuntimeMode)
    (summary : buildRuntimeModeSummary mode service.symbolConfig = .ok service.modeSummary)
    (unsimulated : mode = .shadow ∨ mode = .liveMicro) (state after : RuntimeState) (input : CycleInput)
    (account : AccountState) (reconciled : input.reconciled = .ok account)
    (result : DecisionRuntimeResult) (ran : service.runCycle state input = (after, .ok result)) :
    let snapshot := account.toSnapshot input.startedAt 0
    CommitsWithin service.decisionEngine.riskKernel.policy snapshot result.decisions ↔
      FitTogether service.decisionEngine.riskKernel snapshot (service.contenders input snapshot) := by
  intro snapshot
  have no_paper_mode : service.modeSummary.paperExecution = false := by
    rcases unsimulated with rfl | rfl
    · simp only [buildRuntimeModeSummary, Except.ok.injEq] at summary
      rw [← summary]
    · simp only [buildRuntimeModeSummary] at summary
      split at summary
      · cases summary
      · rw [← Except.ok.inj summary]
  have no_paper : ∀ state, service.simulated state = none := by simp [simulated, no_paper_mode]
  simp only [runCycle, settleAccount, no_paper, reconciled] at ran
  split at ran
  · cases ran
  · next s looped =>
    cases ran
    simp only [decidePhase, no_paper, openSymbols, Option.map_none, Option.getD_none] at looped
    obtain ⟨decided, decisions_eq, notionals_eq⟩ := decideLoop_contenders no_paper_mode looped
    simp only [List.nil_append, collectFeatures_features] at decisions_eq notionals_eq
    have count_eq := congrArg List.length notionals_eq
    simp only [List.length_map] at count_eq
    rw [contenders, fitTogether_iff mem_contendersOn, CommitsWithin, decisions_eq, notionals_eq, count_eq]

section Samples

/-- The shipped kernel under the live_micro overrides. -/
def liveMicroKernel : RiskKernel :=
  match applyRuntimeRiskOverrides {} configuredTiers .liveMicro with
  | .ok (policy, tiers) => configuredKernel policy tiers
  | .error _ => configuredKernel {} configuredTiers

def liveMicroService (core : List String) : DecisionRuntimeService where
  decisionEngine := { strategies := shippedStrategies, riskKernel := liveMicroKernel }
  symbolConfig := { core }
  modeSummary := { mode := .liveMicro, liveOrderSubmission := true, paperExecution := false }

def trendingFeature (symbol : String) : FeatureVector :=
  { symbol, ts := 0, referencePrice := 100, ai500Score := 80, priceChange1h := 6 / 100,
    instFutureFlow1h := 1, oiBinance1h := 2 / 100 }

def fundedAccount : AccountState :=
  AccountState.upsertBalance {} { asset := usdt, walletBalance := 10000, updatedAt := 0 }

/-- A funded account without positions, and every symbol trending up. -/
def trendingInput : CycleInput where
  cycleId := "9f2c6a34-58f1-4b57-9c55-1d7a0e6b3f10"
  startedAt := 0
  built := fun _ symbol => .ok (trendingFeature symbol)
  aligned := by
    intro i symbol feature built
    cases built
    rfl
  reconciled := .ok fundedAccount
  decisionId := fun i => if i = 0 then "3b1d2c5e-8a47-4f0e-b1f4-6c2f9d0a7e21"
    else "7e90a1f2-0c3d-4a6b-9d8e-5f4c3b2a1d06"
  decisionId_length := by intro i; split <;> decide

/-- Every symbol is a tenth down, with nothing else to go by. -/
def fallenInput : CycleInput :=
  { trendingInput with
    built := fun _ symbol => .ok { symbol, ts := 0, referencePrice := 90 }
    aligned := by
      intro i symbol feature built
      cases built
      rfl }

/-- The shipped kernel with paper execution of one symbol. -/
def paperService : DecisionRuntimeService where
  decisionEngine := { strategies := shippedStrategies, riskKernel := configuredKernel {} configuredTiers }
  symbolConfig := { core := ["BTCUSDT"] }
  modeSummary := { mode := .paper, liveOrderSubmission := false, paperExecution := true }
  exitEvaluator := some {}

def openedPaper : RuntimeState := { paper := some (PaperExecutionService.init {}) }

theorem returned_eq {σ ε ρ : Type*} {outcome : σ × Except ε ρ} {result : ρ}
    (returned : outcome.2.toOption = some result) : outcome = (outcome.1, .ok result) := by
  obtain ⟨after, _ | ok⟩ := outcome
  · cases returned
  · cases returned
    rfl

/-- In shadow mode two trending symbols fit into the default limits: each asks for a
quarter of the equity. -/
def shadowService (core : List String) : DecisionRuntimeService where
  decisionEngine := { strategies := shippedStrategies, riskKernel := configuredKernel {} configuredTiers }
  symbolConfig := { core }
  modeSummary := { mode := .shadow, liveOrderSubmission := false, paperExecution := false }

theorem two_symbols_commit : ∃ after result,
    (shadowService ["BTCUSDT", "ETHUSDT"]).runCycle {} trendingInput = (after, .ok result) ∧
    result.decisions.map TradeDecision.executes = [true, true] ∧
    CommitsWithin (configuredKernel {} configuredTiers).policy (fundedAccount.toSnapshot 0 0)
      result.decisions := by
  have returns : ((shadowService ["BTCUSDT", "ETHUSDT"]).runCycle {} trendingInput).2.toOption.any
      (fun result => result.decisions.map TradeDecision.executes = [true, true]) = true := by
    decide +kernel
  obtain ⟨result, returned, executed⟩ := (Option.any_eq_true _ _).mp returns
  have ran := returned_eq returned
  exact ⟨_, result, ran, of_decide_eq_true executed,
    (cycle_commits_iff (shadowService ["BTCUSDT", "ETHUSDT"]) .shadow rfl (.inl rfl) {} _
      trendingInput fundedAccount rfl result ran).mpr (by decide +kernel)⟩

/-- Two symbols trend, both are approved, and live_micro allows one position. -/
theorem two_symbols_overcommit : ∃ after result,
    (liveMicroService ["BTCUSDT", "ETHUSDT"]).runCycle {} trendingInput = (after, .ok result) ∧
    ¬ CommitsWithin liveMicroKernel.policy (fundedAccount.toSnapshot 0 0) result.decisions := by
  have overcommits : ((liveMicroService ["BTCUSDT", "ETHUSDT"]).runCycle {} trendingInput).2.toOption.any
      (fun result => ¬ CommitsWithin liveMicroKernel.policy (fundedAccount.toSnapshot 0 0)
        result.decisions) = true := by
    decide +kernel
  obtain ⟨result, returned, beyond⟩ := (Option.any_eq_true _ _).mp overcommits
  exact ⟨_, result, returned_eq returned, by simpa using beyond⟩

end Samples

end DecisionRuntimeService

end CatsPy
