import CatsPy.CycleFrames
import CatsPy.ProtectionFailures
import CatsPy.ReconcileCommit

/-!
# The kill switch latch

Every operation of the program that writes the account state, on one shared
account: stream events, reconciles, the guardian, order handling, the paper
ledger and whole cycles. None of them releases the kill switch, and while it is
active no path leads from the account to an approval.
-/
namespace CatsPy
open PythonValues StateRuns

/-- The account all services write, inside the paper ledger, with the guardian
and the runtime's journal. -/
structure SharedAccount where
  guardian : PositionGuardian
  ownJournal : JsonlStorage := .empty
  paper : PaperExecutionService

inductive AccountOp where
  | userEvent (payload : PyValue) (now : Datetime)
  | reconcile (reads : ReconcileReads) (clock : ReconcileClock)
  | scan
  | protectionUpdate (order : OrderState)
  | handleOrder (service : ExecutionService) (router : Option OrderRouter) (order : OrderState)
  /-- A handler that was waiting for its placement goes on. -/
  | resume (order : OrderState) (placed : Option OrderResponse)
  | heartbeat (symbol : String) (outcome : Except PyError PyValue)
  | paper (op : PaperOp)
  | cycle (input : CycleInput)

namespace SharedAccount
open PositionGuardian

def account (s : SharedAccount) : AccountState := s.paper.state

def setAccount (s : SharedAccount) (account : AccountState) : SharedAccount :=
  { s with paper := { s.paper with state := account } }

def runtime (s : SharedAccount) : RuntimeState := { ownJournal := s.ownJournal, paper := some s.paper }

def step (service : DecisionRuntimeService) (s : SharedAccount) : AccountOp → SharedAccount
  | .userEvent payload now => s.setAccount (final (BinanceUserEventHandler.apply s.account payload now))
  | .reconcile reads clock => s.setAccount (AccountReconciler.reconcile s.account reads clock).1
  | .scan => s.setAccount (findUnprotectedPositions s.account).1
  | .protectionUpdate order => s.setAccount (handleProtectionOrderUpdate s.account order).1
  | .handleOrder execution router order =>
      let outcome := execution.handleOrderUpdate { s.guardian with router } s.account order
      { s.setAccount outcome.1.2 with guardian := outcome.1.1 }
  | .resume order placed =>
      let guarded := ExecutionService.guardPosition s.guardian s.account order placed
      { s.setAccount guarded.1.2 with guardian := guarded.1.1 }
  | .heartbeat symbol outcome =>
      let beaten := PositionGuardian.heartbeat s.guardian s.account symbol outcome
      { s.setAccount beaten.2 with guardian := beaten.1 }
  | .paper op => { s with paper := s.paper.step op }
  | .cycle input =>
      let after := service.cycleStep s.runtime input
      { s with ownJournal := after.ownJournal, paper := after.paper.getD s.paper }

/-- The fills of the cycles. -/
def fills (service : DecisionRuntimeService) (s : SharedAccount) : AccountOp → List PaperFill
  | .cycle input => service.cycleFills input s.runtime
  | _ => []

end SharedAccount

/-- The latch is set. -/
def AccountState.Halted (state : AccountState) : Prop := state.killSwitchActive = true

section Latch
open AccountState

variable {state : AccountState}

theorem AccountState.Halted.activated (state : AccountState) (reason : String) :
    (state.activateKillSwitch reason).Halted := rfl

theorem AccountState.Halted.recordStateMismatch (halted : state.Halted) (reason : String) :
    (state.recordStateMismatch reason).Halted := by
  unfold AccountState.recordStateMismatch
  by_cases reached : 2 ≤ state.stateMismatchCount + 1
  · simp only [if_pos reached]
    exact .activated _ reason
  · simp only [if_neg reached]
    exact halted

theorem AccountState.Halted.recordReconcileFailure (halted : state.Halted) (reason : String) :
    (state.recordReconcileFailure reason).Halted := by
  unfold AccountState.recordReconcileFailure
  by_cases reached : 2 ≤ state.reconcileFailureCount + 1
  · simp only [if_pos reached]
    exact .activated _ reason
  · simp only [if_neg reached]
    exact halted

theorem upsertOrder_halted (order : OrderState) (next : AccountState)
    (stored : state.upsertOrder order = .ok next) (halted : state.Halted) : next.Halted := by
  cases identified : order.identity with
  | error error => simp [upsertOrder, identified, Except.map] at stored
  | ok identity =>
      simp only [upsertOrder, identified, Except.map, Except.ok.injEq] at stored
      rw [← stored]
      exact halted

theorem BinanceUserEventHandler.apply_halted (payload : PyValue) (now : Datetime) (halted : state.Halted) :
    (final (BinanceUserEventHandler.apply state payload now)).Halted :=
  apply_preserves (fun _ _ kept => kept) (fun _ _ kept => kept) (fun _ _ kept => kept)
    (fun _ order next stored => upsertOrder_halted order next stored) state payload now halted

namespace AccountReconciler

theorem countMismatch_halted (snapshot : ParsedSnapshot) (halted : state.Halted) :
    (final (countMismatch state snapshot)).Halted := by
  simp only [countMismatch]
  cases (if hasExistingState state then isMismatch state snapshot else .ok false) with
  | error error => exact halted
  | ok mismatch =>
      cases mismatch with
      | true => exact halted.recordStateMismatch mismatchReason
      | false => exact halted

theorem commit_halted {snapshot : ParsedSnapshot} {now : Datetime} (halted : state.Halted) :
    (final (commit state snapshot now)).Halted := by
  simp only [commit, replaceOrders]
  cases orderMap snapshot.orders with
  | error error => exact halted
  | ok orders => exact halted

/-- A reconcile that returns and one that raises both leave the latch set. -/
theorem reconcile_halted (reads : ReconcileReads) (clock : ReconcileClock) (halted : state.Halted) :
    (reconcile state reads clock).1.Halted := by
  have attempted : (final (attempt state reads clock)).Halted := by
    simp only [attempt]
    cases readSnapshot reads clock with
    | error error => exact halted
    | ok snapshot =>
        apply final_bind (P := AccountState.Halted)
        · intro left error raised
          have counted := countMismatch_halted snapshot halted
          rwa [raised] at counted
        · intro counted returned
          have kept := countMismatch_halted snapshot halted
          rw [returned] at kept
          exact commit_halted kept
  unfold reconcile
  cases outcome : attempt state reads clock with
  | ok after =>
      rw [outcome] at attempted
      exact attempted
  | error failure =>
      rw [outcome] at attempted
      exact attempted.recordReconcileFailure failure.2.message

end AccountReconciler

namespace PositionGuardian

theorem findUnprotectedPositions_halted (halted : state.Halted) :
    (findUnprotectedPositions state).1.Halted := by
  rw [AccountState.Halted, findUnprotectedPositions_killSwitch, halted, Bool.true_or]

theorem handleProtectionOrderUpdate_halted (order : OrderState) (halted : state.Halted) :
    (handleProtectionOrderUpdate state order).1.Halted := by
  simp only [handleProtectionOrderUpdate]
  repeat' split
  all_goals first | exact halted | exact .activated state _

theorem heartbeat_halted (guardian : PositionGuardian) (symbol : String)
    (outcome : Except PyError PyValue) (halted : state.Halted) :
    (guardian.heartbeat state symbol outcome).2.Halted := by
  cases outcome with
  | ok value => exact halted
  | error error =>
      simp only [heartbeat]
      split
      · exact .activated state _
      · exact halted

end PositionGuardian

namespace ExecutionService

theorem guardPosition_halted (guardian : PositionGuardian) (order : OrderState)
    (placed : Option OrderResponse) (halted : state.Halted) :
    (guardPosition guardian state order placed).1.2.Halted :=
  PositionGuardian.findUnprotectedPositions_halted
    (PositionGuardian.handleProtectionOrderUpdate_halted order halted)

theorem handleOrderUpdate_halted (service : ExecutionService) (guardian : PositionGuardian)
    (order : OrderState) (halted : state.Halted) :
    (service.handleOrderUpdate guardian state order).1.2.Halted := by
  simp only [handleOrderUpdate]
  split
  · exact halted
  · exact guardPosition_halted guardian order _ halted

end ExecutionService

namespace PaperExecutionService

theorem syncBalance_halted {svc : PaperExecutionService} (halted : svc.state.Halted) :
    svc.syncBalance.state.Halted := by
  simp only [syncBalance, syncedState]
  split
  · exact .activated _ _
  · exact halted

theorem step_halted (svc : PaperExecutionService) (op : PaperOp) (halted : svc.state.Halted) :
    (svc.step op).state.Halted := by
  cases op with
  | accountState now => exact halted
  | markToMarket features cycleId ts =>
      obtain ⟨clock, metadata, fundingDelta, marked⟩ := markToMarket_eq features ts svc cycleId
      simp only [step, marked]
      split
      · exact syncBalance_halted halted
      · exact halted
  | applyDecision decision feature cycleId ts =>
      rcases step_applyDecision_cases svc decision cycleId ts feature with
        same | ⟨side, risk, -, -, -, -, filled⟩
      · rw [same]
        exact halted
      · rw [filled]
        exact syncBalance_halted halted

end PaperExecutionService

end Latch

section Refusal

variable {account : AccountSnapshot}

theorem RiskKernel.evaluate_halted (kernel : RiskKernel) (signal : SignalCandidate)
    (active : account.killSwitchActive = true) :
    kernel.evaluate signal account = .ok (halted "state kill switch active") := by
  simp only [evaluate, accountVeto, active, if_true]

theorem DecisionEngine.firstApproved_halted (kernel : RiskKernel)
    (active : account.killSwitchActive = true) (signals : List SignalCandidate) (reasons : List String) :
    ∃ refusals, firstApproved kernel account signals reasons = .ok (.inl refusals) := by
  induction signals generalizing reasons with
  | nil => exact ⟨reasons, rfl⟩
  | cons signal rest ih =>
      simp only [firstApproved, kernel.evaluate_halted signal active]
      split
      · exact ih _
      · exact ih _

/-- On a halted snapshot the engine returns, and refuses. -/
theorem DecisionEngine.decide_halted (engine : DecisionEngine) (feature : FeatureVector)
    (active : account.killSwitchActive = true) (now : Datetime) (decisionId : String) :
    ∃ decision enriched, engine.decide feature account now decisionId = .ok (decision, enriched) ∧
      decision.status = .noTrade := by
  simp only [decide]
  split
  · exact ⟨_, _, rfl, rfl⟩
  · split
    · exact ⟨_, _, rfl, rfl⟩
    · obtain ⟨refusals, refused⟩ := firstApproved_halted engine.riskKernel active
        (ranked (engine.candidates (enrich feature now) (detect (enrich feature now)))) []
      rw [refused]
      exact ⟨_, _, rfl, rfl⟩

end Refusal

namespace DecisionRuntimeService

section HaltedCycles
open PaperExecutionService

variable {service : DecisionRuntimeService} {input : CycleInput}

def HaltedPaper (svc : PaperExecutionService) : Prop := svc.state.Halted

theorem haltedPaper_closed : AccountClosed HaltedPaper where
  journal := fun _ _ halted => halted
  step := step_halted

theorem haltedPaper_stop (service : DecisionRuntimeService) (now : Datetime) :
    StopCondition service now HaltedPaper where
  journal := fun _ _ halted => halted
  stamped := fun _ halted => halted
  refuses := by
    intro svc active signal risk evaluated
    have snapshotted : (svc.state.toSnapshot now svc.drawdownPct).killSwitchActive = true := active
    rw [RiskKernel.evaluate_halted _ signal snapshotted] at evaluated
    cases evaluated
    simp [RiskKernel.halted]

/-- A cycle on a halted account fills exits at most. -/
theorem cycleFills_halted {state : RuntimeState} (halted : AccountKept HaltedPaper state) :
    ∀ fill ∈ service.cycleFills input state, fill.phase = .exit := by
  obtain ⟨paper, present, active⟩ := collectFeatures_keeps service input
    haltedPaper_closed halted
  simp only [cycleFills]
  generalize service.collectFeatures input (service.recordGlobalData input state) = opened at present
  obtain ⟨opened, features⟩ := opened
  cases account : service.simulated opened with
  | none => simp
  | some svc =>
      have exits := exitPhaseFills_phase service input features svc
      cases settled : service.settleAccount input features opened with
      | error failure =>
          simp only [List.append_nil]
          exact exits
      | ok s =>
          obtain ⟨exited, returned, rfl⟩ := settleAccount_simulated account settled
          obtain rfl : svc = paper := Option.some.inj ((simulated_some account).symm.trans present)
          have held := exitPhase_keeps service input haltedPaper_closed features
            active
          rw [returned, final_ok] at held
          have stop := haltedPaper_stop service input.startedAt
          have stopped := stop.settled opened features held
          simp only [(stopped.decidePhase stop).2, List.append_nil]
          exact exits

end HaltedCycles

end DecisionRuntimeService

namespace SharedAccount

theorem step_halted (service : DecisionRuntimeService) (s : SharedAccount) (op : AccountOp)
    (halted : s.account.Halted) : (step service s op).account.Halted := by
  cases op with
  | userEvent payload now => exact BinanceUserEventHandler.apply_halted payload now halted
  | reconcile reads clock => exact AccountReconciler.reconcile_halted reads clock halted
  | scan => exact PositionGuardian.findUnprotectedPositions_halted halted
  | protectionUpdate order => exact PositionGuardian.handleProtectionOrderUpdate_halted order halted
  | handleOrder execution router order => exact execution.handleOrderUpdate_halted _ order halted
  | resume order placed => exact ExecutionService.guardPosition_halted s.guardian order placed halted
  | heartbeat symbol outcome => exact s.guardian.heartbeat_halted symbol outcome halted
  | paper op => exact s.paper.step_halted op halted
  | cycle input =>
      obtain ⟨svc, present, active⟩ := DecisionRuntimeService.cycleStep_keeps service input
        DecisionRuntimeService.haltedPaper_closed (show DecisionRuntimeService.AccountKept _ s.runtime from
          ⟨s.paper, rfl, halted⟩)
      simp only [step, account, present, Option.getD_some]
      exact active

theorem fills_halted (service : DecisionRuntimeService) (s : SharedAccount) (op : AccountOp)
    (halted : s.account.Halted) : ∀ fill ∈ fills service s op, fill.phase = .exit := by
  cases op with
  | cycle input => exact DecisionRuntimeService.cycleFills_halted ⟨s.paper, rfl, halted⟩
  | _ => simp [fills]

/-- Once set, the latch stays set under every operation, the kernel halts, the
engine refuses, and cycles fill nothing but exits. -/
theorem killSwitch_absorbing (service : DecisionRuntimeService) (s : SharedAccount) (ops : List AccountOp)
    (active : s.account.killSwitchActive = true) :
    let after := run (step service) s ops
    after.account.killSwitchActive = true ∧
      (∀ (kernel : RiskKernel) signal now daily weekly,
        kernel.evaluate signal (after.account.toSnapshot now daily weekly) =
          .ok (RiskKernel.halted "state kill switch active")) ∧
      (∀ (engine : DecisionEngine) feature now daily weekly clock decisionId, ∃ decision enriched,
        engine.decide feature (after.account.toSnapshot now daily weekly) clock decisionId =
          .ok (decision, enriched) ∧ decision.status = .noTrade) ∧
      ∀ fill ∈ trace (step service) (fills service) s ops, fill.phase ≠ .decide := by
  obtain ⟨halted, exits⟩ := run_history (step service) (fills service)
    (fun _ s history => s.account.Halted ∧ ∀ fill ∈ history, fill.phase = .exit)
    (by
      rintro s op rest history ⟨halted, exits⟩
      refine ⟨step_halted service s op halted, ?_⟩
      intro fill member
      rcases List.mem_append.mp member with old | new
      · exact exits fill old
      · exact fills_halted service s op halted fill new)
    s ops [] ⟨active, by simp⟩
  have snapshotted : ∀ now daily weekly, ((run (step service) s ops).account.toSnapshot now daily
      weekly).killSwitchActive = true := fun _ _ _ => halted
  refine ⟨halted, fun kernel signal now daily weekly =>
      kernel.evaluate_halted signal (snapshotted now daily weekly),
    fun engine feature now daily weekly clock decisionId =>
      engine.decide_halted feature (snapshotted now daily weekly) clock decisionId, ?_⟩
  intro fill member
  rw [exits fill member]
  decide

section Samples
open DecisionRuntimeService

/-- A cycle entered a long, and the guardian found it without a stop. -/
def haltedAccount : SharedAccount :=
  run (step paperService) { guardian := { router := none }, paper := .init { slippageBps := 0 } }
    [.cycle trendingInput, .scan]

/-- A balance event, a mark, a reconcile that fails, and two cycles: the price falls, and
the trend comes back. -/
def haltedOps : List AccountOp :=
  [.userEvent (.dict [("e", .str "ACCOUNT_UPDATE"), ("a", .dict
      [("B", .list [.dict [("a", .str "USDT"), ("wb", .str "9990")]])])]) 1000000,
    .paper (.markToMarket (.ofList [("BTCUSDT", quoted 95)]) "mark" 2000000),
    .reconcile
      { accountInfo := .error ⟨.runtimeError, "timeout"⟩
        positionRisk := .ok (.list [])
        openOrders := .ok (.list []) } ⟨3000000, 3000000, 3000000, 3000000⟩,
    .cycle fallenInput, .cycle { trendingInput with startedAt := 1860000000 }]

/-- The long is stopped out, and not entered again. -/
theorem killSwitch_absorbing_held :
    (trace (step paperService) (fills paperService) haltedAccount haltedOps).map PaperFill.phase = [.exit] ∧
    let after := run (step paperService) haltedAccount haltedOps
    after.account.killSwitchActive = true ∧
      (∀ (kernel : RiskKernel) signal now daily weekly,
        kernel.evaluate signal (after.account.toSnapshot now daily weekly) =
          .ok (RiskKernel.halted "state kill switch active")) ∧
      (∀ (engine : DecisionEngine) feature now daily weekly clock decisionId, ∃ decision enriched,
        engine.decide feature (after.account.toSnapshot now daily weekly) clock decisionId =
          .ok (decision, enriched) ∧ decision.status = .noTrade) ∧
      ∀ fill ∈ trace (step paperService) (fills paperService) haltedAccount haltedOps,
        fill.phase ≠ .decide :=
  ⟨by decide +kernel, killSwitch_absorbing paperService haltedAccount haltedOps (by decide +kernel)⟩

end Samples

end SharedAccount

end CatsPy
