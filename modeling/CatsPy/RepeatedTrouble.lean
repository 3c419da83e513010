import CatsPy.MovingPrices

/-!
# Repeated trouble

A run of reconciles keeps two streaks, the mismatching ones since the last clean
one and the failed ones since the last that returned, and one switch that either
of them latches at two.
-/
namespace CatsPy
open PythonValues StateRuns AccountReconciler

section Counters

variable (state : AccountState) (message : String)

theorem recordStateMismatch_counters :
    let counted := state.recordStateMismatch message
    counted.stateMismatchCount = state.stateMismatchCount + 1 ∧
      counted.reconcileFailureCount = state.reconcileFailureCount ∧
      (counted.killSwitchActive = true ↔
        state.killSwitchActive = true ∨ 2 ≤ state.stateMismatchCount + 1) := by
  unfold AccountState.recordStateMismatch
  by_cases reached : 2 ≤ state.stateMismatchCount + 1
  · simp [reached, AccountState.activateKillSwitch]
  · simp [reached]

theorem recordReconcileFailure_counters :
    let failed := state.recordReconcileFailure message
    failed.stateMismatchCount = state.stateMismatchCount ∧
      failed.reconcileFailureCount = state.reconcileFailureCount + 1 ∧
      (failed.killSwitchActive = true ↔
        state.killSwitchActive = true ∨ 2 ≤ state.reconcileFailureCount + 1) := by
  unfold AccountState.recordReconcileFailure
  by_cases reached : 2 ≤ state.reconcileFailureCount + 1
  · simp [reached, AccountState.activateKillSwitch]
  · simp [reached]

end Counters

namespace AccountReconciler

section Outcomes

/-- How a call of `reconcile()` ends. -/
inductive ReconcileOutcome where
  | clean
  | mismatching
  | failed
  deriving DecidableEq, Repr

/-- The test of the code: something is stored, and the comparison finds a difference. -/
def findsMismatch (state : AccountState) (snapshot : ParsedSnapshot) : Bool :=
  hasExistingState state &&
    match isMismatch state snapshot with
    | .ok mismatch => mismatch
    | .error _ => false

def outcomeOf (state : AccountState) (call : ReconcileCall) : ReconcileOutcome :=
  match (reconcile state call.1 call.2).2, readSnapshot call.1 call.2 with
  | .ok (), .ok snapshot => if findsMismatch state snapshot then .mismatching else .clean
  | _, _ => .failed

/-- A call that raises raised in one of the three reads or in a parser. -/
def FailsReading (state : AccountState) (call : ReconcileCall) : Prop :=
  ¬ Returns state call → ∃ error, readSnapshot call.1 call.2 = .error error

variable {state : AccountState} {call : ReconcileCall} {snapshot : ParsedSnapshot}

theorem findsMismatch_iff {entries : List (String × OrderState)}
    (identified : identifiedOrders snapshot.orders = .ok entries) :
    findsMismatch state snapshot = false ↔
      hasExistingState state = false ∨ Agrees state snapshot entries := by
  obtain ⟨mismatch, compared, agrees⟩ := isMismatch_identified state identified
  rw [findsMismatch, compared, Bool.and_eq_false_iff, agrees]

/-- All a call can do to the counters, with the outcome it has. -/
inductive Counted (state : AccountState) : ReconcileOutcome → AccountState → Prop
  | failed (message : String) : Counted state .failed (state.recordReconcileFailure message)
  | mismatching (snapshot : ParsedSnapshot) (entries : List (String × OrderState)) (now : Datetime) :
      Counted state .mismatching (committed (countedFor state true) snapshot entries now)
  | clean (snapshot : ParsedSnapshot) (entries : List (String × OrderState)) (now : Datetime) :
      Counted state .clean (committed (countedFor state false) snapshot entries now)

theorem reconcileStep_counted (reads : FailsReading state call) :
    Counted state (outcomeOf state call) (reconcileStep state call) := by
  by_cases returned : Returns state call
  · obtain ⟨snapshot, entries, mismatch, parsed, identified, agrees, after⟩ :=
      reconcile_returned (Prod.ext rfl returned)
    have found : findsMismatch state snapshot = mismatch := by
      have same := (findsMismatch_iff identified).trans agrees.symm
      cases mismatch with
      | true => simpa using same
      | false => exact same.mpr rfl
    have stepped : reconcileStep state call =
        committed (countedFor state mismatch) snapshot entries call.2.markedAt := after
    have returned : (reconcile state call.1 call.2).2 = .ok () := returned
    rw [outcomeOf, returned, parsed, stepped]
    simp only [found]
    cases mismatch with
    | true => exact .mismatching snapshot entries call.2.markedAt
    | false => exact .clean snapshot entries call.2.markedAt
  · obtain ⟨error, unread⟩ := reads returned
    have raised : reconcile state call.1 call.2 =
        (state.recordReconcileFailure error.message, .error error) := by
      simp only [reconcile, attempt, unread]
      rfl
    rw [outcomeOf, reconcileStep, raised, unread]
    exact .failed error.message

end Outcomes

section Streaks

/-- Either streak of trouble has reached two. -/
def InTrouble (state : AccountState) : Prop :=
  2 ≤ state.stateMismatchCount ∨ 2 ≤ state.reconcileFailureCount

variable {state after : AccountState} {outcome : ReconcileOutcome}

theorem Counted.mismatchCount (counted : Counted state outcome after) :
    after.stateMismatchCount = if outcome = .clean then 0 else
      state.stateMismatchCount + if outcome = .mismatching then 1 else 0 := by
  cases counted with
  | failed message => exact (recordReconcileFailure_counters state message).1
  | mismatching snapshot entries now => exact (recordStateMismatch_counters state mismatchReason).1
  | clean snapshot entries now => rfl

theorem Counted.failureCount (counted : Counted state outcome after) :
    after.reconcileFailureCount = if outcome ≠ .failed then 0 else
      state.reconcileFailureCount + if outcome = .failed then 1 else 0 := by
  cases counted with
  | failed message => exact (recordReconcileFailure_counters state message).2.1
  | mismatching snapshot entries now => rfl
  | clean snapshot entries now => rfl

/-- The switch goes up exactly when the call leaves a streak of two. -/
theorem Counted.killSwitch (counted : Counted state outcome after)
    (latched : InTrouble state → state.killSwitchActive = true) :
    after.killSwitchActive = true ↔ state.killSwitchActive = true ∨ InTrouble after := by
  have mismatches := counted.mismatchCount
  have failures := counted.failureCount
  unfold InTrouble at latched ⊢
  cases counted with
  | failed message =>
      rw [(recordReconcileFailure_counters state message).2.2, mismatches, failures]
      have kept : 2 ≤ state.stateMismatchCount → state.killSwitchActive = true :=
        fun reached => latched (.inl reached)
      simp
      tauto
  | mismatching snapshot entries now =>
      have switch : (committed (countedFor state true) snapshot entries now).killSwitchActive =
          (state.recordStateMismatch mismatchReason).killSwitchActive := rfl
      rw [switch, (recordStateMismatch_counters state mismatchReason).2.2, mismatches, failures]
      simp
  | clean snapshot entries now =>
      rw [mismatches, failures]
      exact (or_iff_left (by simp)).symm

/-- From a state whose switch is down and whose streaks are short, whatever the
calls return: the counters are the two streaks, and the switch is up exactly
when one of them reached two at some point. -/
theorem repeated_trouble_latches (state : AccountState) (off : state.killSwitchActive = false)
    (calm : ¬ InTrouble state) (calls : List ReconcileCall)
    (reads : Along reconcileStep FailsReading state calls) (done : List ReconcileCall)
    (within : done <+: calls) :
    let after := run reconcileStep state done
    let outcomes := trace reconcileStep (fun state call => [outcomeOf state call]) state done
    after.stateMismatchCount =
        sinceLast (· = .clean) (· = .mismatching) state.stateMismatchCount outcomes ∧
      after.reconcileFailureCount =
        sinceLast (· ≠ .failed) (· = .failed) state.reconcileFailureCount outcomes ∧
      (after.killSwitchActive = true ↔
        ∃ earlier, earlier <+: done ∧ InTrouble (run reconcileStep state earlier)) := by
  have reads := along_prefix reconcileStep within reads
  refine ⟨?_, ?_, ?_⟩
  · apply run_sinceLast reconcileStep _ _ AccountState.stateMismatchCount outcomeOf _ state done reads
    intro now call reading
    simpa using (reconcileStep_counted reading).mismatchCount
  · apply run_sinceLast reconcileStep _ _ AccountState.reconcileFailureCount outcomeOf _ state done reads
    intro now call reading
    simpa using (reconcileStep_counted reading).failureCount
  · have latched := run_latch_iff reconcileStep (fun now => now.killSwitchActive = true) InTrouble
      (fun _ _ reading latched => (reconcileStep_counted reading).killSwitch latched)
      state done (fun trouble => absurd trouble calm) reads
    simpa [off] using latched

def unreachable : ReconcileCall :=
  ({ longReads 50000 with accountInfo := .error ⟨.runtimeError, "boom"⟩ }, noon)

/-- A first look, a tick of the mark price, and a read that fails twice. -/
def tickThenOutage : List ReconcileCall :=
  [longMarked 50000, longMarked 50500, unreachable, unreachable]

theorem repeated_trouble_latches_outage :
    let after := run reconcileStep {} tickThenOutage
    let outcomes := trace reconcileStep (fun state call => [outcomeOf state call]) {} tickThenOutage
    after.stateMismatchCount = sinceLast (· = .clean) (· = .mismatching) 0 outcomes ∧
      after.reconcileFailureCount = sinceLast (· ≠ .failed) (· = .failed) 0 outcomes ∧
      (after.killSwitchActive = true ↔
        ∃ earlier, earlier <+: tickThenOutage ∧ InTrouble (run reconcileStep {} earlier)) :=
  repeated_trouble_latches {} rfl (by simp [InTrouble]) tickThenOutage
    ⟨fun raised => absurd (by decide +kernel) raised, fun raised => absurd (by decide +kernel) raised,
      fun _ => ⟨_, rfl⟩, fun _ => ⟨_, rfl⟩, trivial⟩
    tickThenOutage List.prefix_rfl

/-- The outage halts the account with one mismatch still standing. -/
example :
    let after := run reconcileStep {} tickThenOutage
    after.stateMismatchCount = 1 ∧ after.reconcileFailureCount = 2 ∧ after.killSwitchActive = true := by
  decide +kernel

end Streaks

end AccountReconciler

end CatsPy
