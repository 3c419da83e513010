import CatsPy.CycleFrames
import CatsPy.HighWaterMark
import CatsPy.ReconcileCommit

/-!
# The hard drawdown stop

The paper account remembers its highest equity, and every cycle stamps it before
it decides, so the drawdown fed to the kernel is measured from at least the
highest equity of any earlier cycle. The other modes feed it a constant zero.
-/
namespace CatsPy
open PythonValues StateRuns

/-- The equity lies at least that many percent below the high. -/
def Below (pct high equity : ℚ) : Prop := pct * |high| ≤ 100 * (high - equity)

instance (pct high equity : ℚ) : Decidable (Below pct high equity) := inferInstanceAs (Decidable (_ ≤ _))

/-- What a cycle shows of its equity and its decisions. -/
structure CycleReport where
  opening : ℚ
  closing : ℚ
  decisions : List TradeDecision

/-- A later cycle that opens at the hard stop of an earlier one executes nothing. -/
def HardStop (policy : RiskPolicy) (earlier later : CycleReport) : Prop :=
  Below |policy.dailyDrawdownHardPct| earlier.opening later.opening ∨
      Below |policy.dailyDrawdownHardPct| earlier.closing later.opening →
    ∀ decision ∈ later.decisions, decision.status ≠ .execute

instance (policy : RiskPolicy) (earlier later : CycleReport) : Decidable (HardStop policy earlier later) :=
  inferInstanceAs (Decidable (_ → _))

namespace PaperExecutionService

section HighWater

/-- Nothing more is approved: the drawdown has reached the stop, or the equity is gone. -/
def Stopped (policy : RiskPolicy) (svc : PaperExecutionService) : Prop :=
  svc.state.totalEquity ≤ svc.sessionHighEquity ∧
    (svc.state.totalEquity ≤ 0 ∨ svc.drawdownPct ≤ policy.dailyDrawdownHardPct)

theorem Stopped.accountState {policy : RiskPolicy} {svc : PaperExecutionService}
    (stopped : svc.Stopped policy) (now : Datetime) : (svc.accountState now).Stopped policy := by
  have same_high : (svc.accountState now).sessionHighEquity = svc.sessionHighEquity :=
    max_eq_right stopped.1
  have same_equity : (svc.accountState now).state.totalEquity = svc.state.totalEquity := rfl
  rw [Stopped, drawdownPct, same_high, same_equity]
  exact stopped

/-- At the hard stop of any equity under the high-water mark the account is stopped. -/
theorem stopped_of_below {policy : RiskPolicy} {svc : PaperExecutionService}
    (marked : svc.state.totalEquity ≤ svc.sessionHighEquity) {high : ℚ}
    (seen : high ≤ svc.sessionHighEquity)
    (below : Below |policy.dailyDrawdownHardPct| high svc.state.totalEquity) : svc.Stopped policy := by
  refine ⟨marked, ?_⟩
  rcases le_or_gt 0 policy.dailyDrawdownHardPct with lax | hard
  · exact .inr ((drawdownPct_nonpos marked).trans lax)
  · rcases le_or_gt svc.state.totalEquity 0 with gone | funded
    · exact .inl gone
    · right
      unfold Below at below
      rw [abs_of_neg hard] at below
      have high_pos : 0 < high := by
        by_contra low
        have size : 0 ≤ -policy.dailyDrawdownHardPct * |high| :=
          mul_nonneg (by linarith) (abs_nonneg high)
        linarith
      rw [abs_of_pos high_pos] at below
      have session_pos : 0 < svc.sessionHighEquity := high_pos.trans_le seen
      have kept : 0 < 100 + policy.dailyDrawdownHardPct := by
        by_contra wiped
        have product : high * (100 + policy.dailyDrawdownHardPct) ≤ 0 :=
          mul_nonpos_of_nonneg_of_nonpos high_pos.le (le_of_not_gt wiped)
        linarith
      have scaled : high * (100 + policy.dailyDrawdownHardPct) ≤
          svc.sessionHighEquity * (100 + policy.dailyDrawdownHardPct) :=
        mul_le_mul_of_nonneg_right seen kept.le
      rw [drawdownPct, if_neg session_pos.not_ge, div_mul_eq_mul_div, div_le_iff₀ session_pos]
      linarith

end HighWater

end PaperExecutionService

namespace DecisionRuntimeService

section Reports

variable (service : DecisionRuntimeService)

/-- A cycle that raises after it settled its account returns no decision. -/
def cycleReports (state : RuntimeState) (input : CycleInput) : List CycleReport :=
  let (collected, features) := service.collectFeatures input (service.recordGlobalData input state)
  match service.settleAccount input features collected with
  | .error _ => []
  | .ok s =>
      match (service.runCycle state input).2 with
      | .error _ => [{ opening := s.accountState.totalEquity, closing := s.accountState.totalEquity
                       decisions := [] }]
      | .ok result => [{ opening := s.accountState.totalEquity
                         closing := result.accountState.totalEquity, decisions := result.decisions }]

def runReports (state : RuntimeState) (inputs : List CycleInput) : List CycleReport :=
  trace service.cycleStep service.cycleReports state inputs

end Reports

section Stops
open PaperExecutionService

variable {service : DecisionRuntimeService} {input : CycleInput}

theorem refuses_of_drawdown {kernel : RiskKernel} {snapshot : AccountSnapshot}
    (reached : snapshot.dailyDrawdownPct ≤ kernel.policy.dailyDrawdownHardPct) : kernel.Refuses snapshot := by
  intro signal risk evaluated approved
  obtain ⟨tierPolicy, unvetoed, -, -, -⟩ := RiskKernel.evaluate_approved evaluated approved
  have above := (RiskKernel.accountVeto_eq_none_iff.mp unvetoed).2.2.2.2.1
  exact absurd reached above.not_ge

theorem stopped_condition (service : DecisionRuntimeService) (now : Datetime) :
    StopCondition service now (Stopped service.decisionEngine.riskKernel.policy) where
  journal := fun _ _ stopped => stopped
  stamped := fun _ stopped => stopped.accountState now
  refuses := by
    intro svc stopped
    rcases stopped.2 with gone | reached
    · intro signal risk evaluated approved
      exact absurd gone (RiskKernel.approved_positive evaluated approved).1.not_ge
    · exact refuses_of_drawdown reached

/-- Whatever is under the high-water mark stays under it. -/
theorem highWater_closed (bound : ℚ) : AccountClosed fun svc => bound ≤ svc.sessionHighEquity where
  journal := fun _ _ held => held
  step := fun svc op held => held.trans (sessionHighEquity_step svc op)

theorem AccountKept.and {P Q : PaperExecutionService → Prop} {state : RuntimeState}
    (first : AccountKept P state) (second : AccountKept Q state) :
    AccountKept (fun svc => P svc ∧ Q svc) state := by
  obtain ⟨svc, present, held⟩ := first
  obtain ⟨same, found, also⟩ := second
  obtain rfl : svc = same := Option.some.inj (present.symm.trans found)
  exact ⟨svc, present, held, also⟩

/-- The account the loop shows is under the high-water mark throughout. -/
theorem decidePhase_marked (service : DecisionRuntimeService) (input : CycleInput) {s : CycleState}
    (kept : AccountKept (fun svc => s.accountState.totalEquity ≤ svc.sessionHighEquity) s.runtime) :
    AccountKept (fun svc => (final (service.decidePhase input s)).accountState.totalEquity ≤
      svc.sessionHighEquity) (final (service.decidePhase input s)).runtime := by
  apply foldlM_invariant (fun s : CycleState =>
    AccountKept (fun svc => s.accountState.totalEquity ≤ svc.sessionHighEquity) s.runtime) _ _ _ kept
  rintro s ⟨symbol, i⟩ kept
  rcases decideStep_cases service input _ _ s symbol i with
    ⟨left, -⟩ | ⟨feature, decision, enriched, -, -, outcome⟩
  · rwa [left]
  · rcases outcome with ⟨left, -⟩ | ⟨svc, filled, result, account, applied, left, -⟩
    · rw [left]
      exact kept.record (highWater_closed _) _ _
    · rw [left]
      exact ⟨_, rfl, le_max_left _ _⟩

/-- What a cycle that settled its account reports of its decide phase. -/
theorem cycleReports_settled {state opened : RuntimeState} {features : OrderedDict String FeatureVector}
    (opening : service.collectFeatures input (service.recordGlobalData input state) = (opened, features))
    {s : CycleState} (settled : service.settleAccount input features opened = .ok s) :
    service.cycleStep state input = (final (service.decidePhase input s)).runtime ∧
      ∃ report, service.cycleReports state input = [report] ∧
        report.opening = s.accountState.totalEquity ∧
        (report.closing = report.opening ∨
          report.closing = (final (service.decidePhase input s)).accountState.totalEquity) ∧
        ∀ decision ∈ report.decisions, decision ∈ (final (service.decidePhase input s)).decisions := by
  cases deciding : service.decidePhase input s with
  | error failure =>
      simp only [cycleStep, cycleReports, runCycle, opening, settled, deciding]
      exact ⟨rfl, _, rfl, rfl, .inl rfl, by simp⟩
  | ok done =>
      simp only [cycleStep, cycleReports, runCycle, opening, settled, deciding]
      exact ⟨rfl, _, rfl, rfl, .inr rfl, fun _ member => member⟩

theorem cycleReports_raised {state opened : RuntimeState} {features : OrderedDict String FeatureVector}
    (opening : service.collectFeatures input (service.recordGlobalData input state) = (opened, features))
    {failure : RuntimeState × PyError}
    (raised : service.settleAccount input features opened = .error failure) :
    service.cycleReports state input = [] := by
  simp only [cycleReports, opening, raised]

/-- A paper cycle reports equities under the mark it leaves, and stops at the
hard stop of everything under the mark it started from. -/
theorem cycleReports_watched (input : CycleInput)
    (simulates : service.modeSummary.paperExecution = true) {state : RuntimeState}
    (present : AccountKept (fun _ => True) state) :
    service.cycleReports state input = [] ∨ ∃ report, service.cycleReports state input = [report] ∧
      AccountKept (fun svc => report.opening ≤ svc.sessionHighEquity ∧
        report.closing ≤ svc.sessionHighEquity) (service.cycleStep state input) ∧
      ∀ high, AccountKept (fun svc => high ≤ svc.sessionHighEquity) state →
        Below |service.decisionEngine.riskKernel.policy.dailyDrawdownHardPct| high report.opening →
          ∀ decision ∈ report.decisions, decision.status = .noTrade := by
  have collected (high : ℚ) (kept : AccountKept (fun svc => high ≤ svc.sessionHighEquity) state) :=
    collectFeatures_keeps service input (highWater_closed high) kept
  have opened_paper := collectFeatures_keeps service input
    (P := fun _ => True) ⟨fun _ _ held => held, fun _ _ held => held⟩ present
  generalize opening : service.collectFeatures input (service.recordGlobalData input state) = opened
    at collected opened_paper
  obtain ⟨opened, features⟩ := opened
  obtain ⟨svc, found, -⟩ := opened_paper
  have account : service.simulated opened = some svc := by simpa [simulated, simulates] using found
  cases settled : service.settleAccount input features opened with
  | error failure => exact .inl (cycleReports_raised opening settled)
  | ok s =>
      obtain ⟨exited, returned, rfl⟩ := settleAccount_simulated account settled
      obtain ⟨left, report, reported, opens, closes, decisions⟩ := cycleReports_settled opening settled
      have marked : AccountKept (fun svc => (settledState input opened features exited).accountState.totalEquity
          ≤ svc.sessionHighEquity) (settledState input opened features exited).runtime :=
        ⟨_, rfl, le_max_left _ _⟩
      refine .inr ⟨report, reported, ?_, ?_⟩
      · have opening_kept := decidePhase_keeps service input (highWater_closed _) marked
        have closing_kept := decidePhase_marked service input marked
        rw [left, opens]
        rcases closes with same | last
        · rw [same, opens]
          exact opening_kept.and opening_kept
        · rw [last]
          exact opening_kept.and closing_kept
      · intro high kept below
        obtain ⟨same, found', seen⟩ := collected high kept
        obtain rfl : svc = same := Option.some.inj (found.symm.trans found')
        have seen_exited := exitPhase_keeps service input (highWater_closed high)
          features seen
        rw [returned] at seen_exited
        rw [opens] at below
        have stop := stopped_condition service input.startedAt
        have stopped : Stopped service.decisionEngine.riskKernel.policy
            (exited.accountState input.startedAt) :=
          stopped_of_below (le_max_left _ _) (seen_exited.trans (le_max_right _ _)) below
        have refused := ((stop.settled opened features stopped).decidePhase stop).1
        exact fun decision member => refused.decisions decision (decisions decision member)

/-- With a hard stop at zero or above every cycle stops. -/
theorem cycleReports_refused
    (lax : 0 ≤ service.decisionEngine.riskKernel.policy.dailyDrawdownHardPct) (state : RuntimeState) :
    ∀ report ∈ service.cycleReports state input, ∀ decision ∈ report.decisions,
      decision.status = .noTrade := by
  generalize opening : service.collectFeatures input (service.recordGlobalData input state) = opened
  obtain ⟨opened, features⟩ := opened
  cases settled : service.settleAccount input features opened with
  | error failure =>
      rw [cycleReports_raised opening settled]
      simp
  | ok s =>
      obtain ⟨-, report, reported, -, -, decisions⟩ := cycleReports_settled opening settled
      suffices refused : ∀ decision ∈ (final (service.decidePhase input s)).decisions,
          decision.status = .noTrade by
        rw [reported]
        intro shown member decision listed
        rw [List.mem_singleton.mp member] at listed
        exact refused decision (decisions decision listed)
      cases account : service.simulated opened with
      | some svc =>
          obtain ⟨exited, returned, rfl⟩ := settleAccount_simulated account settled
          have stop := stopped_condition service input.startedAt
          have stopped : Stopped service.decisionEngine.riskKernel.policy
              (exited.accountState input.startedAt) :=
            ⟨le_max_left _ _, .inr ((drawdownPct_nonpos (le_max_left _ _)).trans lax)⟩
          exact ((stop.settled opened features stopped).decidePhase stop).1.decisions
      | none =>
          -- the snapshot carries a drawdown of zero, and no paper account is there to stop
          have refusing : Refusing service (fun _ => False) s := by
            simp only [settleAccount, account] at settled
            cases reconciled : input.reconciled with
            | error error =>
                simp only [reconciled] at settled
                cases settled
            | ok observed =>
                simp only [reconciled] at settled
                cases settled
                exact ⟨refuses_of_drawdown lax, fun svc found => by simp [account] at found, by simp⟩
          have never : StopCondition service input.startedAt fun _ => False :=
            ⟨fun _ _ held => held, fun _ held => held, fun _ held => held.elim⟩
          exact (refusing.decidePhase never).1.decisions

/-- The reports of a paper run so far: all under the mark, and stopped in order. -/
structure Watched (policy : RiskPolicy) (state : RuntimeState) (history : List CycleReport) : Prop where
  seen : AccountKept (fun svc => ∀ report ∈ history,
    report.opening ≤ svc.sessionHighEquity ∧ report.closing ≤ svc.sessionHighEquity) state
  stops : history.Pairwise (HardStop policy)

theorem seen_closed (history : List CycleReport) : AccountClosed fun svc => ∀ report ∈ history,
    report.opening ≤ svc.sessionHighEquity ∧ report.closing ≤ svc.sessionHighEquity where
  journal := fun _ _ held => held
  step := by
    intro svc op held report member
    have risen := sessionHighEquity_step svc op
    exact ⟨(held report member).1.trans risen, (held report member).2.trans risen⟩

theorem Watched.cycle (simulates : service.modeSummary.paperExecution = true) {state : RuntimeState}
    {history : List CycleReport}
    (watched : Watched service.decisionEngine.riskKernel.policy state history) :
    Watched service.decisionEngine.riskKernel.policy (service.cycleStep state input)
      (history ++ service.cycleReports state input) := by
  obtain ⟨⟨svc, present, seen⟩, stops⟩ := watched
  have later := cycleStep_keeps service input (seen_closed history)
    ⟨svc, present, seen⟩
  rcases cycleReports_watched input simulates ⟨svc, present, trivial⟩ with
    nothing | ⟨report, reported, shown, stopped⟩
  · rw [nothing, List.append_nil]
    exact ⟨later, stops⟩
  · rw [reported]
    constructor
    · obtain ⟨after, found, old, new⟩ := later.and shown
      refine ⟨after, found, ?_⟩
      intro known member
      rcases List.mem_append.mp member with earlier | own
      · exact old known earlier
      · rw [List.mem_singleton.mp own]
        exact new
    · rw [List.pairwise_append]
      refine ⟨stops, List.pairwise_singleton _ _, ?_⟩
      intro earlier member own listed
      rw [List.mem_singleton.mp listed]
      rintro (below | below) decision decided executes
      · rw [stopped _ ⟨svc, present, (seen earlier member).1⟩ below decision decided] at executes
        cases executes
      · rw [stopped _ ⟨svc, present, (seen earlier member).2⟩ below decision decided] at executes
        cases executes

end Stops

section Samples

/-- The price falls by a fifth. -/
def crashedInput : CycleInput :=
  { trendingInput with
    startedAt := 60000000
    built := fun _ symbol => .ok { symbol, ts := 0, referencePrice := 80 }
    aligned := by
      intro i symbol feature built
      cases built
      rfl }

/-- The long is stopped out, and the trend is back when the cooldown is over. -/
def crashedInputs : List CycleInput := [trendingInput, crashedInput, { trendingInput with startedAt := 1860000000 }]

def walletReads (wallet : ℤ) : ReconcileReads :=
  AccountReconciler.responses [.dict [("asset", .str "USDT"), ("walletBalance", .int wallet)]] [] []

/-- One input in cycles that each get the account from the one reconciler. -/
def reconciledInputs (input : CycleInput) : AccountState → List (Datetime × ReconcileReads) → List CycleInput
  | _, [] => []
  | account, (startedAt, reads) :: rest =>
      let (after, outcome) :=
        AccountReconciler.reconcile account reads ⟨startedAt, startedAt, startedAt, startedAt⟩
      { input with startedAt, reconciled := outcome.map fun _ => after } :: reconciledInputs input after rest

/-- The trend goes on while a tenth of the equity is gone. -/
def lossInputs : List CycleInput :=
  reconciledInputs trendingInput {}
    [(0, walletReads 10000), (60000000, walletReads 9000), (120000000, walletReads 9000)]

end Samples

end DecisionRuntimeService

end CatsPy
