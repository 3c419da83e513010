import CatsPy.KillSwitchLatch

/-!
# Heartbeat runs

The auto-cancel loops of the guardian as the event loop runs them: one task for
each started symbol, every request answered some time later, tasks cancelled
and started again while others wait, order updates and other writers of the
account in between.
-/
namespace CatsPy
open PythonValues StateRuns

/-- Where the task of a symbol is in `maintain_auto_cancel`. -/
inductive BeatPhase where
  /-- Created or asleep; the test of the loop comes next. -/
  | waiting
  | calling
  | done
  deriving DecidableEq

structure HeartbeatStatus where
  symbol : String
  active : Bool
  failureCount : ℕ
  lastError : Option String
  deriving DecidableEq

/-- The guardian with its tasks, and the account they were given. -/
structure HeartbeatLoops where
  guardian : PositionGuardian
  account : AccountState := {}
  running : Bool := true
  phase : String → BeatPhase := fun _ => .waiting

inductive HeartbeatOp where
  /-- The event loop resumes the task of a symbol at the top of its loop. -/
  | wake (symbol : String)
  /-- `countdown_cancel_all` returns or raises. -/
  | answer (symbol : String) (outcome : Except PyError PyValue)
  | start (symbol : String)
  | stop (symbol : String)
  /-- The guardian's own `stop()`. -/
  | stopGuardian
  /-- `handle_order_update`, from where its placement returned. -/
  | orderHandled (order : OrderState) (placed : Option OrderResponse)
  /-- Anything else that writes the account. -/
  | write (account : AccountState)

namespace HeartbeatLoops
open PositionGuardian

def beats (loops : HeartbeatLoops) (symbol : String) (phase : BeatPhase) : Bool :=
  symbol ∈ loops.guardian.heartbeatTasks ∧ loops.phase symbol = phase

/-- `start_auto_cancel` creates the task of a symbol that has none. -/
def startTask (loops : HeartbeatLoops) (symbol : String) : HeartbeatLoops :=
  let (guardian, started) := loops.guardian.startAutoCancel symbol
  { loops with
    guardian
    phase := if started then Function.update loops.phase symbol .waiting else loops.phase }

/-- A cancelled task is gone before its next step. -/
def step (loops : HeartbeatLoops) : HeartbeatOp → HeartbeatLoops
  | .wake symbol =>
      if loops.beats symbol .waiting then
        { loops with phase := Function.update loops.phase symbol (if loops.running then .calling else .done) }
      else loops
  | .answer symbol outcome =>
      if loops.beats symbol .calling then
        let (guardian, account) := loops.guardian.heartbeat loops.account symbol outcome
        { loops with guardian, account, phase := Function.update loops.phase symbol .waiting }
      else loops
  | .start symbol => loops.startTask symbol
  | .stop symbol => { loops with guardian := (loops.guardian.stopAutoCancel symbol).1 }
  | .stopGuardian => { loops with running := false }
  | .orderHandled order placed =>
      let started := if placed.isSome then loops.startTask order.symbol else loops
      let handled := ExecutionService.guardPosition loops.guardian loops.account order placed
      { started with guardian := handled.1.1, account := handled.1.2 }
  | .write account => { loops with account }

def heartbeatStatus (loops : HeartbeatLoops) (symbol : String) : HeartbeatStatus where
  symbol := symbol
  active := symbol ∈ loops.guardian.heartbeatTasks ∧ loops.phase symbol ≠ .done
  failureCount := loops.guardian.heartbeatFailures.getD symbol 0
  lastError := loops.guardian.heartbeatLastErrors.get? symbol

/-- `PositionGuardian.__init__`: nothing started, nothing failed. -/
def fresh (router : Option OrderRouter) (account : AccountState) : HeartbeatLoops where
  guardian := { router }
  account := account

/-- The requests a step sends. -/
def requests (loops : HeartbeatLoops) : HeartbeatOp → List String
  | .wake symbol => if loops.beats symbol .waiting && loops.running then [symbol] else []
  | _ => []

/-- The answers a step takes in. -/
def answers (loops : HeartbeatLoops) : HeartbeatOp → List (String × Except PyError PyValue)
  | .answer symbol outcome => if loops.beats symbol .calling then [(symbol, outcome)] else []
  | _ => []

/-- The answers to the requests of one symbol. -/
def answersTo (symbol : String) (history : List (String × Except PyError PyValue)) : List (Except PyError PyValue) :=
  (history.filter fun answer => answer.1 = symbol).map Prod.snd

/-- Whether an operation begins the heartbeat of a symbol, and whether it lets it be. -/
structure HeartbeatMark where
  begins : Bool
  stays : Bool

def marks (symbol : String) (loops : HeartbeatLoops) : HeartbeatOp → List HeartbeatMark
  | .start started => if started = symbol then [⟨true, true⟩] else []
  | .stop stopped => if stopped = symbol then [⟨false, false⟩] else []
  | .orderHandled order placed =>
      if order.symbol = symbol then
        [⟨placed.isSome, ExecutionService.hasOpenSymbolPosition loops.account symbol⟩]
      else []
  | _ => []

section Tasks

variable {guardian : PositionGuardian}

theorem startAutoCancel_tasks (guardian : PositionGuardian) (symbol other : String) :
    other ∈ (guardian.startAutoCancel symbol).1.heartbeatTasks ↔ other ∈ guardian.heartbeatTasks ∨ other = symbol := by
  unfold startAutoCancel
  split
  · next present =>
    refine (or_iff_left_of_imp ?_).symm
    rintro rfl
    exact present
  · simp

theorem startAutoCancel_nodup (symbol : String) (nodup : guardian.heartbeatTasks.Nodup) :
    (guardian.startAutoCancel symbol).1.heartbeatTasks.Nodup := by
  unfold startAutoCancel
  split
  · exact nodup
  · next absent => exact List.nodup_append_comm.mp (List.nodup_cons.mpr ⟨absent, nodup⟩)

theorem stopAutoCancel_tasks (guardian : PositionGuardian) (symbol : String) :
    (guardian.stopAutoCancel symbol).1.heartbeatTasks = guardian.heartbeatTasks.erase symbol := by
  unfold stopAutoCancel
  split
  · rfl
  · next absent => exact (List.erase_of_not_mem absent).symm

/-- Starting and stopping forget no failure. -/
theorem startAutoCancel_failures (guardian : PositionGuardian) (symbol other : String) :
    (guardian.startAutoCancel symbol).1.heartbeatFailures.getD other 0 = guardian.heartbeatFailures.getD other 0 ∧
      (guardian.startAutoCancel symbol).1.heartbeatLastErrors = guardian.heartbeatLastErrors := by
  unfold startAutoCancel
  split
  · exact ⟨rfl, rfl⟩
  · refine ⟨?_, rfl⟩
    dsimp only
    split
    · rfl
    · next unset =>
      simp only [OrderedDict.getD, OrderedDict.get?_set]
      split
      · next same =>
        subst same
        have none : guardian.heartbeatFailures.get? other = none := by
          simpa [OrderedDict.contains] using unset
        rw [none]
        rfl
      · rfl

theorem stopAutoCancel_failures (guardian : PositionGuardian) (symbol : String) :
    (guardian.stopAutoCancel symbol).1.heartbeatFailures = guardian.heartbeatFailures ∧
      (guardian.stopAutoCancel symbol).1.heartbeatLastErrors = guardian.heartbeatLastErrors := by
  unfold stopAutoCancel
  split <;> exact ⟨rfl, rfl⟩

/-- The guardian an order update leaves. -/
def afterOrder (guardian : PositionGuardian) (symbol : String) (placed isOpen : Bool) : PositionGuardian :=
  let beating := if placed then (guardian.startAutoCancel symbol).1 else guardian
  if isOpen then beating else (beating.stopAutoCancel symbol).1

theorem guardPosition_guardian (guardian : PositionGuardian) (account : AccountState) (order : OrderState)
    (placed : Option OrderResponse) : (ExecutionService.guardPosition guardian account order placed).1.1 =
      afterOrder guardian order.symbol placed.isSome
        (ExecutionService.hasOpenSymbolPosition account order.symbol) := by
  have positions : (findUnprotectedPositions (handleProtectionOrderUpdate account order).1).1.positions =
      account.positions :=
    ((scan_eq _ _ _).2.2.1).trans (handleProtectionOrderUpdate_frame account order).2
  have same : ExecutionService.hasOpenSymbolPosition
      (findUnprotectedPositions (handleProtectionOrderUpdate account order).1).1 order.symbol =
        ExecutionService.hasOpenSymbolPosition account order.symbol := by
    rw [ExecutionService.hasOpenSymbolPosition, positions]
    rfl
  simp only [ExecutionService.guardPosition, same, afterOrder]
  cases placed.isSome <;> cases ExecutionService.hasOpenSymbolPosition account order.symbol <;> rfl

end Tasks

section Failures

variable {loops : HeartbeatLoops} {history : List (String × Except PyError PyValue)}

/-- The text a failed beat leaves. -/
def errorOf : Except PyError PyValue → Option String
  | .ok _ => none
  | .error error => some error.message

/-- How many beats of a history failed since the last that did not. -/
def failedBeats (history : List (Except PyError PyValue)) : ℕ :=
  sinceLast Except.isOk (fun outcome => !outcome.isOk) 0 history

theorem failedBeats_append (history : List (Except PyError PyValue)) (outcome : Except PyError PyValue) :
    failedBeats (history ++ [outcome]) = if outcome.isOk then 0 else failedBeats history + 1 := by
  rw [failedBeats, sinceLast_append]
  cases outcome.isOk <;> rfl

theorem heartbeat_failures (guardian : PositionGuardian) (account : AccountState) (symbol other : String)
    (outcome : Except PyError PyValue) :
    let beaten := (guardian.heartbeat account symbol outcome).1
    beaten.heartbeatTasks = guardian.heartbeatTasks ∧
      beaten.heartbeatFailures.getD other 0 = (if other = symbol then
          if outcome.isOk then 0 else guardian.heartbeatFailures.getD symbol 0 + 1
        else guardian.heartbeatFailures.getD other 0) ∧
      beaten.heartbeatLastErrors.get? other =
        if other = symbol then errorOf outcome else guardian.heartbeatLastErrors.get? other := by
  cases outcome with
  | ok value =>
      refine ⟨rfl, ?_, ?_⟩
      · simp only [heartbeat, OrderedDict.getD, OrderedDict.get?_set, Except.isOk, Except.toBool, if_true]
        split <;> rfl
      · simp only [heartbeat, OrderedDict.get?_pop, errorOf]
  | error error =>
      refine ⟨rfl, ?_, ?_⟩
      · simp only [heartbeat, OrderedDict.getD, OrderedDict.get?_set, Except.isOk, Except.toBool]
        split <;> simp
      · simp only [heartbeat, OrderedDict.get?_set, errorOf]

theorem startTask_failures (loops : HeartbeatLoops) (symbol other : String) :
    (loops.startTask symbol).guardian.heartbeatFailures.getD other 0 =
        loops.guardian.heartbeatFailures.getD other 0 ∧
      (loops.startTask symbol).guardian.heartbeatLastErrors = loops.guardian.heartbeatLastErrors :=
  startAutoCancel_failures loops.guardian symbol other

theorem afterOrder_failures (guardian : PositionGuardian) (symbol other : String) (placed isOpen : Bool) :
    (afterOrder guardian symbol placed isOpen).heartbeatFailures.getD other 0 =
        guardian.heartbeatFailures.getD other 0 ∧
      (afterOrder guardian symbol placed isOpen).heartbeatLastErrors = guardian.heartbeatLastErrors := by
  have started := startAutoCancel_failures guardian symbol other
  have stopped := stopAutoCancel_failures (guardian.startAutoCancel symbol).1 symbol
  have unstarted := stopAutoCancel_failures guardian symbol
  cases placed <;> cases isOpen <;> simp [afterOrder, started, stopped, unstarted]

/-- The counter and the text of a symbol say what its answers were. -/
structure Counts (symbol : String) (loops : HeartbeatLoops)
    (history : List (String × Except PyError PyValue)) : Prop where
  failures : loops.guardian.heartbeatFailures.getD symbol 0 = failedBeats (answersTo symbol history)
  lastError : loops.guardian.heartbeatLastErrors.get? symbol = (answersTo symbol history).getLast?.bind errorOf

theorem Counts.step {symbol : String} (counts : Counts symbol loops history) (op : HeartbeatOp) :
    Counts symbol (loops.step op) (history ++ loops.answers op) := by
  obtain ⟨failures, lastError⟩ := counts
  have unanswered (same : loops.answers op = []) (count : (loops.step op).guardian.heartbeatFailures.getD symbol 0 =
      loops.guardian.heartbeatFailures.getD symbol 0) (text : (loops.step op).guardian.heartbeatLastErrors =
      loops.guardian.heartbeatLastErrors) : Counts symbol (loops.step op) (history ++ loops.answers op) := by
    rw [same, List.append_nil]
    exact ⟨count.trans failures, text ▸ lastError⟩
  cases op with
  | wake woken =>
      apply unanswered rfl
      · simp only [HeartbeatLoops.step]
        split <;> rfl
      · simp only [HeartbeatLoops.step]
        split <;> rfl
  | start started =>
      have same := startTask_failures loops started symbol
      exact unanswered rfl same.1 same.2
  | stop stopped =>
      have same := stopAutoCancel_failures loops.guardian stopped
      exact unanswered rfl (congrArg (fun d => d.getD symbol 0) same.1) same.2
  | stopGuardian => exact unanswered rfl rfl rfl
  | write account => exact unanswered rfl rfl rfl
  | orderHandled order placed =>
      have same := afterOrder_failures loops.guardian order.symbol symbol placed.isSome
        (ExecutionService.hasOpenSymbolPosition loops.account order.symbol)
      rw [← guardPosition_guardian] at same
      exact unanswered rfl same.1 same.2
  | answer answered outcome =>
      by_cases beating : loops.beats answered .calling = true
      · have took : loops.answers (.answer answered outcome) = [(answered, outcome)] := by simp [answers, beating]
        obtain ⟨-, count, text⟩ := heartbeat_failures loops.guardian loops.account answered symbol outcome
        have stepped : (loops.step (.answer answered outcome)).guardian =
            (loops.guardian.heartbeat loops.account answered outcome).1 := by
          simp [HeartbeatLoops.step, beating]
        rw [took]
        by_cases own : symbol = answered
        · subst own
          have longer : answersTo symbol (history ++ [(symbol, outcome)]) = answersTo symbol history ++ [outcome] := by
            simp [answersTo]
          refine ⟨?_, ?_⟩
          · rw [stepped, count, if_pos rfl, longer, failedBeats_append, failures]
          · rw [stepped, text, if_pos rfl, longer, List.getLast?_concat, Option.bind_some]
        · have same : answersTo symbol (history ++ [(answered, outcome)]) = answersTo symbol history := by
            simp [answersTo, Ne.symm own]
          refine ⟨?_, ?_⟩
          · rw [stepped, count, if_neg own, same, failures]
          · rw [stepped, text, if_neg own, same, lastError]
      · apply unanswered
        · simp [answers, beating]
        · simp [HeartbeatLoops.step, beating]
        · simp [HeartbeatLoops.step, beating]

theorem fresh_counts (symbol : String) (router : Option OrderRouter) (account : AccountState) :
    Counts symbol (fresh router account) [] := ⟨rfl, rfl⟩

end Failures

section Activity

variable {loops : HeartbeatLoops} {history : List HeartbeatMark}

/-- The heartbeat was begun, and from then on nothing ended it. -/
def BegunSince (history : List HeartbeatMark) : Prop :=
  Since (fun mark : HeartbeatMark => mark.begins = true) (fun mark => mark.stays = true) history

/-- The tasks are those begun and not ended; while the guardian runs none is done. -/
structure Beating (symbol : String) (loops : HeartbeatLoops) (history : List HeartbeatMark) : Prop where
  nodup : loops.guardian.heartbeatTasks.Nodup
  begun : symbol ∈ loops.guardian.heartbeatTasks ↔ BegunSince history
  live : loops.running = true → loops.phase symbol ≠ .done

theorem afterOrder_nodup {guardian : PositionGuardian} (symbol : String) (placed isOpen : Bool)
    (nodup : guardian.heartbeatTasks.Nodup) : (afterOrder guardian symbol placed isOpen).heartbeatTasks.Nodup := by
  have started : (if placed then (guardian.startAutoCancel symbol).1 else guardian).heartbeatTasks.Nodup := by
    split
    · exact startAutoCancel_nodup symbol nodup
    · exact nodup
  unfold afterOrder
  dsimp only
  split
  · exact started
  · rw [stopAutoCancel_tasks]
    exact started.erase symbol

theorem afterOrder_tasks {guardian : PositionGuardian} (symbol other : String) (placed isOpen : Bool)
    (nodup : guardian.heartbeatTasks.Nodup) : other ∈ (afterOrder guardian symbol placed isOpen).heartbeatTasks ↔
      if other = symbol then (other ∈ guardian.heartbeatTasks ∨ placed = true) ∧ isOpen = true
      else other ∈ guardian.heartbeatTasks := by
  have started := startAutoCancel_tasks guardian symbol other
  have startedNodup := startAutoCancel_nodup symbol nodup
  by_cases own : other = symbol
  · subst own
    have gone := startedNodup.not_mem_erase (a := other)
    have unstarted := nodup.not_mem_erase (a := other)
    cases placed <;> cases isOpen <;> simp [afterOrder, started, stopAutoCancel_tasks, gone, unstarted]
  · cases placed <;> cases isOpen <;>
      simp [afterOrder, started, stopAutoCancel_tasks, own, List.mem_erase_of_ne own]

theorem Beating.mark {symbol : String} {after : HeartbeatLoops} {op : HeartbeatOp}
    (beating : Beating symbol loops history) (mark : HeartbeatMark) (marked : loops.marks symbol op = [mark])
    (nodup : after.guardian.heartbeatTasks.Nodup)
    (tasks : symbol ∈ after.guardian.heartbeatTasks ↔
      (symbol ∈ loops.guardian.heartbeatTasks ∨ mark.begins = true) ∧ mark.stays = true)
    (live : after.running = true → after.phase symbol ≠ .done) :
    Beating symbol after (history ++ loops.marks symbol op) := by
  refine ⟨nodup, ?_, live⟩
  rw [tasks, marked, beating.begun, BegunSince, BegunSince, since_append]

theorem Beating.unmarked {symbol : String} {after : HeartbeatLoops} {op : HeartbeatOp}
    (beating : Beating symbol loops history) (none : loops.marks symbol op = [])
    (nodup : after.guardian.heartbeatTasks.Nodup)
    (tasks : symbol ∈ after.guardian.heartbeatTasks ↔ symbol ∈ loops.guardian.heartbeatTasks)
    (live : after.running = true → after.phase symbol ≠ .done) :
    Beating symbol after (history ++ loops.marks symbol op) := by
  rw [none, List.append_nil]
  exact ⟨nodup, tasks.trans beating.begun, live⟩

theorem startTask_live (symbol other : String) (live : loops.running = true → loops.phase other ≠ .done) :
    (loops.startTask symbol).running = true → (loops.startTask symbol).phase other ≠ .done := by
  intro running
  simp only [startTask]
  split
  · by_cases own : other = symbol
    · subst own
      simp
    · rw [Function.update_of_ne own]
      exact live running
  · exact live running

theorem Beating.step {symbol : String} (beating : Beating symbol loops history) (op : HeartbeatOp) :
    Beating symbol (loops.step op) (history ++ loops.marks symbol op) := by
  obtain ⟨nodup, begun, live⟩ := id beating
  cases op with
  | wake woken =>
      have same : (loops.step (.wake woken)).guardian = loops.guardian := by
        simp only [HeartbeatLoops.step]
        split <;> rfl
      refine beating.unmarked rfl (same ▸ nodup) (by rw [same]) ?_
      simp only [HeartbeatLoops.step]
      split
      · intro running
        by_cases own : symbol = woken
        · subst own
          have on : loops.running = true := running
          simp [on]
        · simp only [Function.update_of_ne own]
          exact live running
      · exact live
  | answer answered outcome =>
      by_cases calling : loops.beats answered .calling = true
      · have tasks := (heartbeat_failures loops.guardian loops.account answered symbol outcome).1
        refine beating.unmarked rfl ?_ ?_ ?_
        · simpa [HeartbeatLoops.step, calling, tasks] using nodup
        · simp [HeartbeatLoops.step, calling, tasks]
        · simp only [HeartbeatLoops.step, calling, if_true]
          intro running
          by_cases own : symbol = answered
          · subst own
            simp
          · rw [Function.update_of_ne own]
            exact live running
      · have same : loops.step (.answer answered outcome) = loops := by simp [HeartbeatLoops.step, calling]
        rw [same]
        exact beating.unmarked rfl nodup Iff.rfl live
  | start started =>
      have tasks := startAutoCancel_tasks loops.guardian started symbol
      by_cases own : started = symbol
      · subst own
        refine beating.mark ⟨true, true⟩ (by simp [marks]) (startAutoCancel_nodup started nodup) ?_
          (startTask_live started started live)
        simpa [HeartbeatLoops.step, startTask] using tasks
      · refine beating.unmarked (by simp [marks, own]) (startAutoCancel_nodup started nodup) ?_
          (startTask_live started symbol live)
        simpa [HeartbeatLoops.step, startTask, Ne.symm own] using tasks
  | stop stopped =>
      have tasks := stopAutoCancel_tasks loops.guardian stopped
      have stillNodup : (loops.step (.stop stopped)).guardian.heartbeatTasks.Nodup := by
        simp only [HeartbeatLoops.step, tasks]
        exact nodup.erase stopped
      by_cases own : stopped = symbol
      · subst own
        refine beating.mark ⟨false, false⟩ (by simp [marks]) stillNodup ?_ live
        simp [HeartbeatLoops.step, tasks, nodup.not_mem_erase]
      · refine beating.unmarked (by simp [marks, own]) stillNodup ?_ live
        simp only [HeartbeatLoops.step, tasks]
        exact List.mem_erase_of_ne (Ne.symm own)
  | stopGuardian => exact beating.unmarked rfl nodup Iff.rfl fun running => by cases running
  | write account => exact beating.unmarked rfl nodup Iff.rfl live
  | orderHandled order placed =>
      have same := guardPosition_guardian loops.guardian loops.account order placed
      have tasks := afterOrder_tasks order.symbol symbol placed.isSome
        (ExecutionService.hasOpenSymbolPosition loops.account order.symbol) nodup
      have stillNodup := afterOrder_nodup order.symbol placed.isSome
        (ExecutionService.hasOpenSymbolPosition loops.account order.symbol) nodup
      rw [← same] at tasks stillNodup
      have stillLive : (loops.step (.orderHandled order placed)).running = true →
          (loops.step (.orderHandled order placed)).phase symbol ≠ .done := by
        simp only [HeartbeatLoops.step]
        split
        · exact startTask_live order.symbol symbol live
        · exact live
      by_cases own : order.symbol = symbol
      · refine beating.mark ⟨placed.isSome, ExecutionService.hasOpenSymbolPosition loops.account symbol⟩
          (by simp [marks, own]) stillNodup ?_ stillLive
        rw [if_pos own.symm, own] at tasks
        exact tasks
      · refine beating.unmarked (by simp [marks, own]) stillNodup ?_ stillLive
        rw [if_neg (Ne.symm own)] at tasks
        exact tasks

theorem fresh_beating (symbol : String) (router : Option OrderRouter) (account : AccountState) :
    Beating symbol (fresh router account) [] where
  nodup := List.nodup_nil
  begun := iff_of_false (List.not_mem_nil) (not_since_nil _ _)
  live := fun _ => by simp [fresh]

end Activity

section Status

theorem heartbeatStatus_counts (router : Option OrderRouter) (account : AccountState) (ops : List HeartbeatOp)
    (symbol : String) : Counts symbol (run HeartbeatLoops.step (fresh router account) ops)
      (trace HeartbeatLoops.step answers (fresh router account) ops) :=
  run_history HeartbeatLoops.step answers (fun _ now history => Counts symbol now history)
    (fun _ op _ _ counts => counts.step op) (fresh router account) ops [] (fresh_counts symbol router account)

/-- What `heartbeat_status` answers at any moment of any run: the failed beats in a
row, over every restart of the task in between, the text of the last one, and
whether the heartbeat was begun and neither stopped nor ended by an order update
that found no open position. -/
theorem heartbeatStatus_tells (router : Option OrderRouter) (account : AccountState) (ops : List HeartbeatOp)
    (symbol : String) :
    let loops := run HeartbeatLoops.step (fresh router account) ops
    let outcomes := answersTo symbol (trace HeartbeatLoops.step answers (fresh router account) ops)
    (loops.heartbeatStatus symbol).failureCount = failedBeats outcomes ∧
      (loops.heartbeatStatus symbol).lastError = outcomes.getLast?.bind errorOf ∧
      (loops.running = true → ((loops.heartbeatStatus symbol).active = true ↔
        BegunSince (trace HeartbeatLoops.step (marks symbol) (fresh router account) ops))) := by
  intro loops outcomes
  have counts := heartbeatStatus_counts router account ops symbol
  have beating := run_history HeartbeatLoops.step (marks symbol) (fun _ now history => Beating symbol now history)
    (fun _ op _ _ beating => beating.step op) (fresh router account) ops [] (fresh_beating symbol router account)
  refine ⟨counts.failures, counts.lastError, fun running => ?_⟩
  have live : loops.phase symbol ≠ .done := beating.live running
  rw [heartbeatStatus, decide_eq_true_eq, and_iff_left live]
  exact beating.begun

end Status

section Latch

/-- What the heartbeats do by themselves: no order update, no other writer. -/
def HeartbeatOp.OwnStep : HeartbeatOp → Prop
  | .orderHandled _ _ => False
  | .write _ => False
  | _ => True

/-- Some symbol has failed twice in a row. -/
def Alarmed (loops : HeartbeatLoops) : Prop := ∃ symbol, 2 ≤ loops.guardian.heartbeatFailures.getD symbol 0

theorem heartbeat_halted_iff (guardian : PositionGuardian) (account : AccountState) (symbol : String)
    (outcome : Except PyError PyValue) : (guardian.heartbeat account symbol outcome).2.Halted ↔
      account.Halted ∨ 2 ≤ (guardian.heartbeat account symbol outcome).1.heartbeatFailures.getD symbol 0 := by
  have count := (heartbeat_failures guardian account symbol symbol outcome).2.1
  rw [if_pos rfl] at count
  rw [count]
  cases outcome with
  | ok value => simp [heartbeat, Except.isOk, Except.toBool]
  | error error =>
      simp only [heartbeat, Except.isOk, Except.toBool, Bool.false_eq_true, if_false]
      split
      · next reached => exact iff_of_true (.activated account _) (.inr reached)
      · next below => exact (or_iff_left below).symm

theorem step_latches (loops : HeartbeatLoops) (op : HeartbeatOp) (own : HeartbeatOp.OwnStep op)
    (start : loops.Alarmed → loops.account.Halted) :
    (loops.step op).account.Halted ↔ loops.account.Halted ∨ (loops.step op).Alarmed := by
  have quiet (account : (loops.step op).account = loops.account) (failures : ∀ symbol,
      (loops.step op).guardian.heartbeatFailures.getD symbol 0 = loops.guardian.heartbeatFailures.getD symbol 0) :
      (loops.step op).account.Halted ↔ loops.account.Halted ∨ (loops.step op).Alarmed := by
    rw [account]
    refine (or_iff_left_of_imp ?_).symm
    rintro ⟨symbol, reached⟩
    exact start ⟨symbol, failures symbol ▸ reached⟩
  cases op with
  | orderHandled order placed => exact own.elim
  | write account => exact own.elim
  | stopGuardian => exact quiet rfl fun _ => rfl
  | start started => exact quiet rfl fun symbol => (startTask_failures loops started symbol).1
  | stop stopped =>
      exact quiet rfl fun symbol =>
        congrArg (fun d => d.getD symbol 0) (stopAutoCancel_failures loops.guardian stopped).1
  | wake woken =>
      refine quiet ?_ fun symbol => ?_
      · simp only [HeartbeatLoops.step]
        split <;> rfl
      · simp only [HeartbeatLoops.step]
        split <;> rfl
  | answer answered outcome =>
      by_cases calling : loops.beats answered .calling = true
      · have account : (loops.step (.answer answered outcome)).account =
            (loops.guardian.heartbeat loops.account answered outcome).2 := by
          simp [HeartbeatLoops.step, calling]
        have guardian : (loops.step (.answer answered outcome)).guardian =
            (loops.guardian.heartbeat loops.account answered outcome).1 := by
          simp [HeartbeatLoops.step, calling]
        rw [account, heartbeat_halted_iff, Alarmed, guardian]
        constructor
        · exact Or.imp_right fun reached => ⟨answered, reached⟩
        · rintro (halted | ⟨symbol, reached⟩)
          · exact .inl halted
          · by_cases same : symbol = answered
            · exact .inr (same ▸ reached)
            · rw [(heartbeat_failures loops.guardian loops.account answered symbol outcome).2.1, if_neg same]
                at reached
              exact .inl (start ⟨symbol, reached⟩)
      · have same : loops.step (.answer answered outcome) = loops := by simp [HeartbeatLoops.step, calling]
        exact quiet (by rw [same]) fun symbol => by rw [same]

/-- The heartbeats by themselves halt exactly if, at some moment of the run, the
last two answers to the requests of one symbol were failures, whatever was
stopped and started again between them. -/
theorem heartbeats_halt_iff (router : Option OrderRouter) (account : AccountState) (ops : List HeartbeatOp)
    (own : ∀ op ∈ ops, HeartbeatOp.OwnStep op) :
    (run HeartbeatLoops.step (fresh router account) ops).account.killSwitchActive = true ↔
      account.killSwitchActive = true ∨ ∃ earlier, earlier <+: ops ∧ ∃ symbol,
        2 ≤ failedBeats (answersTo symbol (trace HeartbeatLoops.step answers (fresh router account) earlier)) := by
  have unalarmed : Alarmed (fresh router account) → (fresh router account).account.Halted := by
    rintro ⟨symbol, reached⟩
    exact absurd reached (by simp [fresh, OrderedDict.getD])
  have latched := run_latch_iff HeartbeatLoops.step (fun loops => loops.account.Halted) Alarmed
    (fun loops op here start => step_latches loops op here start) (fresh router account) ops unalarmed
    (along_of_forall HeartbeatLoops.step own _)
  refine latched.trans (or_congr Iff.rfl (exists_congr fun earlier => and_congr_right fun _ =>
    exists_congr fun symbol => ?_))
  rw [← (heartbeatStatus_counts router account earlier symbol).failures]

end Latch

section Stopping

variable {loops : HeartbeatLoops}

theorem step_stopped (op : HeartbeatOp) (stopped : loops.running = false) : (loops.step op).running = false := by
  cases op with
  | stopGuardian => rfl
  | wake woken =>
      simp only [HeartbeatLoops.step]
      split <;> exact stopped
  | answer answered outcome =>
      simp only [HeartbeatLoops.step]
      split <;> exact stopped
  | orderHandled order placed =>
      simp only [HeartbeatLoops.step]
      split <;> exact stopped
  | _ => exact stopped

theorem requests_stopped (op : HeartbeatOp) (stopped : loops.running = false) : loops.requests op = [] := by
  cases op with
  | wake woken => simp [requests, stopped]
  | _ => rfl

theorem beats_iff (symbol : String) (phase : BeatPhase) :
    loops.beats symbol phase = true ↔ symbol ∈ loops.guardian.heartbeatTasks ∧ loops.phase symbol = phase := by
  rw [beats, decide_eq_true_eq]

theorem startTask_phase (loops : HeartbeatLoops) (symbol : String) : (loops.startTask symbol).phase =
    if symbol ∈ loops.guardian.heartbeatTasks then loops.phase
    else Function.update loops.phase symbol .waiting := by
  simp only [startTask, startAutoCancel]
  split <;> rfl

/-- A task that is started has not called yet. -/
theorem startTask_calling (symbol other : String) {task : Prop}
    (tasks : task → other ∈ loops.guardian.heartbeatTasks ∨ other = symbol) (kept : task)
    (phase : (loops.startTask symbol).phase other = .calling) : loops.beats other .calling = true := by
  rw [startTask_phase] at phase
  rw [beats_iff]
  split at phase
  · next present =>
    exact ⟨(tasks kept).elim id fun same => same ▸ present, phase⟩
  · by_cases own : other = symbol
    · subst own
      simp at phase
    · rw [Function.update_of_ne own] at phase
      exact ⟨(tasks kept).resolve_right own, phase⟩

theorem afterOrder_started {guardian : PositionGuardian} {symbol other : String} {placed isOpen : Bool}
    (kept : other ∈ (afterOrder guardian symbol placed isOpen).heartbeatTasks) :
    other ∈ guardian.heartbeatTasks ∨ placed = true ∧ other = symbol := by
  have started := startAutoCancel_tasks guardian symbol other
  unfold afterOrder at kept
  dsimp only at kept
  have before : other ∈ (if placed then (guardian.startAutoCancel symbol).1 else guardian).heartbeatTasks := by
    split at kept
    · exact kept
    · rw [stopAutoCancel_tasks] at kept
      exact List.mem_of_mem_erase kept
  split at before
  · next sent => exact (started.mp before).imp_right fun same => ⟨sent, same⟩
  · exact .inl before

/-- Once stopped, nothing brings a request on its way. -/
theorem calling_of_step (symbol : String) (op : HeartbeatOp) (stopped : loops.running = false)
    (calling : (loops.step op).beats symbol .calling = true) : loops.beats symbol .calling = true := by
  obtain ⟨task, phase⟩ := (beats_iff symbol .calling).mp calling
  cases op with
  | stopGuardian => exact calling
  | write account => exact calling
  | start started =>
      exact startTask_calling started symbol (startAutoCancel_tasks loops.guardian started symbol).mp task phase
  | stop ended =>
      simp only [HeartbeatLoops.step, stopAutoCancel_tasks] at task
      exact (beats_iff symbol .calling).mpr ⟨List.mem_of_mem_erase task, phase⟩
  | wake woken =>
      by_cases waiting : loops.beats woken .waiting = true
      · by_cases own : symbol = woken
        · subst own
          simp [HeartbeatLoops.step, waiting, stopped] at phase
        · simp only [HeartbeatLoops.step, waiting, if_true, Function.update_of_ne own] at task phase
          exact (beats_iff symbol .calling).mpr ⟨task, phase⟩
      · simpa [HeartbeatLoops.step, waiting] using calling
  | answer answered outcome =>
      by_cases called : loops.beats answered .calling = true
      · have tasks := (heartbeat_failures loops.guardian loops.account answered symbol outcome).1
        by_cases own : symbol = answered
        · exact own ▸ called
        · simp only [HeartbeatLoops.step, called, if_true, tasks, Function.update_of_ne own] at task phase
          exact (beats_iff symbol .calling).mpr ⟨task, phase⟩
      · simpa [HeartbeatLoops.step, called] using calling
  | orderHandled order placed =>
      simp only [HeartbeatLoops.step, guardPosition_guardian] at task phase
      cases sent : placed.isSome with
      | true =>
          rw [sent, if_pos rfl] at phase
          exact startTask_calling order.symbol symbol
            (fun kept => (afterOrder_started kept).imp_right And.right) task phase
      | false =>
          rw [sent] at task phase
          exact (beats_iff symbol .calling).mpr
            ⟨(afterOrder_started task).resolve_right fun started => Bool.false_ne_true started.1, phase⟩

/-- An answer takes the request of its symbol off the way. -/
theorem step_calling (symbol : String) (op : HeartbeatOp) (stopped : loops.running = false) :
    (answersTo symbol (loops.answers op)).length + (if (loops.step op).beats symbol .calling then 1 else 0) ≤
      if loops.beats symbol .calling then 1 else 0 := by
  have kept := calling_of_step symbol op stopped
  by_cases took : answersTo symbol (loops.answers op) = []
  · rw [took, List.length_nil, Nat.zero_add]
    by_cases after : (loops.step op).beats symbol .calling = true
    · simp [after, kept after]
    · simp [after]
  · cases op with
    | answer answered outcome =>
        by_cases called : loops.beats answered .calling = true
        · by_cases own : answered = symbol
          · subst own
            have back : (loops.step (.answer answered outcome)).beats answered .calling = false := by
              simp [HeartbeatLoops.step, beats, (beats_iff answered .calling).mp called]
            simp [answers, answersTo, called, back]
          · exact absurd (by simp [answers, answersTo, called, own]) took
        · exact absurd (by simp [answers, answersTo, called]) took
    | _ => exact absurd rfl took

/-- After `stop()` no request is sent any more, and what is still answered is at
most the one request of each symbol that was on its way. -/
theorem stopGuardian_quiets (loops : HeartbeatLoops) (ops : List HeartbeatOp) :
    trace HeartbeatLoops.step requests (loops.step .stopGuardian) ops = [] ∧
      ∀ symbol, (answersTo symbol (trace HeartbeatLoops.step answers (loops.step .stopGuardian) ops)).length ≤
        if loops.beats symbol .calling then 1 else 0 := by
  have silent := trace_forall HeartbeatLoops.step requests (fun now => now.running = false) (fun _ _ => True)
    (fun _ => False) (fun now op _ stopped => step_stopped op stopped)
    (fun now op _ stopped symbol sent => by simp [requests_stopped op stopped] at sent)
    (loops.step .stopGuardian) ops rfl (along_of_forall HeartbeatLoops.step (fun _ _ => trivial) _)
  refine ⟨List.eq_nil_iff_forall_not_mem.mpr silent, fun symbol => ?_⟩
  have counted := run_history HeartbeatLoops.step answers
    (fun _ now history => now.running = false ∧
      (answersTo symbol history).length + (if now.beats symbol .calling then 1 else 0) ≤
        if loops.beats symbol .calling then 1 else 0)
    (fun now op _ history held => ⟨step_stopped op held.1, by
      have less := step_calling symbol op held.1
      have longer : (answersTo symbol (history ++ now.answers op)).length =
          (answersTo symbol history).length + (answersTo symbol (now.answers op)).length := by
        simp [answersTo]
      omega⟩)
    (loops.step .stopGuardian) ops [] ⟨rfl, le_of_eq (Nat.zero_add _)⟩
  exact (Nat.le_add_right _ _).trans counted.2

end Stopping

section Sample

def timedOut : Except PyError PyValue := .error ⟨.runtimeError, "timed out"⟩

/-- Two beats fail, one before the task is stopped and one after it is started again. -/
def restartedBeats : List HeartbeatOp :=
  [.start "BTCUSDT", .wake "BTCUSDT", .answer "BTCUSDT" timedOut, .stop "BTCUSDT", .start "BTCUSDT",
    .wake "BTCUSDT", .answer "BTCUSDT" timedOut]

theorem heartbeats_halt_restarted :
    (run HeartbeatLoops.step (fresh none {}) restartedBeats).account.killSwitchActive = true := by
  refine (heartbeats_halt_iff none {} restartedBeats (by simp [restartedBeats, HeartbeatOp.OwnStep])).mpr (.inr ?_)
  exact ⟨restartedBeats, List.prefix_refl _, "BTCUSDT", by decide +kernel⟩

theorem heartbeatStatus_tells_restarted :
    let status := (run HeartbeatLoops.step (fresh none {}) restartedBeats).heartbeatStatus "BTCUSDT"
    status.failureCount = 2 ∧ status.lastError = some "timed out" ∧ status.active = true := by
  obtain ⟨failures, error, active⟩ := heartbeatStatus_tells none {} restartedBeats "BTCUSDT"
  refine ⟨?_, ?_, ?_⟩
  · rw [failures]
    decide +kernel
  · rw [error]
    decide +kernel
  · exact (active (by decide +kernel)).mpr ⟨[⟨true, true⟩, ⟨false, false⟩], ⟨true, true⟩, [], rfl, rfl, by simp⟩

end Sample

end HeartbeatLoops

end CatsPy
