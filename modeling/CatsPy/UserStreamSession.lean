import CatsPy.PythonValues
import CatsPy.StateRuns

/-!
# The user stream session

The listen key of the private stream, renewed by a task of its own. Every start
makes a new task, all of them run under one flag, and a renewal is answered some
time after it was sent. Only the task started last is awaited by `close`.
-/
namespace CatsPy
open PythonValues StateRuns

/-- Where a task is in `_keepalive_loop`. -/
inductive KeepaliveTask where
  /-- Not yet at the first test of the loop. -/
  | created
  | sleeping
  | requesting
  | failed (error : PyError)
  | cancelled
  | returned
  deriving DecidableEq

inductive TaskOp where
  /-- The event loop starts the task, or its sleep is over. -/
  | resume
  /-- `keepalive_user_stream` returns or raises. -/
  | answer (outcome : Except PyError Unit)

structure UserStreamSession where
  listenKey : Option String := none
  running : Bool := false
  /-- Every task created so far. -/
  tasks : List KeepaliveTask := []
  /-- Which of them `_task` is. -/
  task : Option ℕ := none

inductive SessionOp where
  /-- `start`, from where its request was answered. -/
  | start (response : Except PyError PyValue)
  | task (index : ℕ) (op : TaskOp)
  | close

/-- What the exchange sees of a task. -/
inductive Renewal where
  | sent
  | answered (outcome : Except PyError Unit)

namespace KeepaliveTask

/-- The test of the loop and what follows it up to the next wait. -/
def loop (running : Bool) : KeepaliveTask := if running then .sleeping else .returned

def step (running : Bool) : KeepaliveTask → TaskOp → KeepaliveTask
  | .created, .resume => loop running
  | .sleeping, .resume => .requesting
  | .requesting, .answer (.ok _) => loop running
  | .requesting, .answer (.error error) => .failed error
  | task, _ => task

def renewals : KeepaliveTask → TaskOp → List Renewal
  | .sleeping, .resume => [.sent]
  | .requesting, .answer outcome => [.answered outcome]
  | _, _ => []

/-- `cancel()` reaches a task at its next step and does nothing to one that is done. -/
def cancel : KeepaliveTask → KeepaliveTask
  | .created | .sleeping | .requesting => .cancelled
  | task => task

/-- `await self._task`, with the cancellation suppressed. -/
def awaited : KeepaliveTask → Except PyError Unit
  | .failed error => .error error
  | _ => .ok ()

end KeepaliveTask

namespace UserStreamSession

/-- `response["data"]["listenKey"]`, as `start` checks it. -/
def listenKeyOf (response : Except PyError PyValue) : Except PyError String := do
  match ← response with
  | .dict entries =>
      match entries.lookup "listenKey" with
      | none => .error ⟨.keyError, "'listenKey'"⟩
      | some (.str key) =>
          if key = "" then .error ⟨.valueError, "listenKey missing in start_user_stream response"⟩ else .ok key
      | some _ => .error ⟨.valueError, "listenKey missing in start_user_stream response"⟩
  | .list _ => .error ⟨.typeError, "list indices must be integers or slices, not str"⟩
  | _ => .error ⟨.typeError, "Binance response must be dict or list"⟩

def start (session : UserStreamSession) (response : Except PyError PyValue) :
    UserStreamSession × Except PyError String :=
  match listenKeyOf response with
  | .ok key =>
      ({ session with
          listenKey := some key
          running := true
          tasks := session.tasks ++ [.created]
          task := some session.tasks.length }, .ok key)
  | .error error => (session, .error error)

def close (session : UserStreamSession) : UserStreamSession × Except PyError Unit :=
  match session.task with
  | none => ({ session with running := false }, .ok ())
  | some index =>
      let tasks := session.tasks.modify index KeepaliveTask.cancel
      ({ session with running := false, tasks }, ((tasks[index]?).map KeepaliveTask.awaited).getD (.ok ()))

def step (session : UserStreamSession) : SessionOp → UserStreamSession
  | .start response => (session.start response).1
  | .task index op => { session with tasks := session.tasks.modify index (·.step session.running op) }
  | .close => session.close.1

/-- What a step sends and takes in for one task. -/
def renewals (index : ℕ) (session : UserStreamSession) : SessionOp → List Renewal
  | .task other op => if other = index then ((session.tasks[index]?).map (·.renewals op)).getD [] else []
  | _ => []

end UserStreamSession

/-- How the gateway's `main` ends. -/
structure GatewayExit where
  outcome : Except PyError Unit
  /-- Whether it got to `binance.close()`. -/
  clientClosed : Bool

/-- The `finally` of `main`: closing the session comes before closing the client. -/
def leave (closed streams : Except PyError Unit) : GatewayExit :=
  match closed with
  | .error error => ⟨.error error, false⟩
  | .ok _ => ⟨streams, true⟩

/-- The session in the gateway's `main`: started before the streams and closed
after them, whichever way they end; `ops` is what its task does in between. -/
def gatewayMain (response : Except PyError PyValue) (ops : List TaskOp) (streams : Except PyError Unit) :
    GatewayExit :=
  match UserStreamSession.start {} response with
  | (_, .error error) => ⟨.error error, false⟩
  | (session, .ok _) => leave (run UserStreamSession.step session (ops.map (.task 0))).close.2 streams

/-! ## What a task has sent and been answered -/

/-- So many renewals that were sent and answered well. -/
def renewed (n : ℕ) : List Renewal := (List.replicate n [.sent, .answered (.ok ())]).flatten

section Lifetimes

theorem renewed_succ (n : ℕ) : renewed (n + 1) = renewed n ++ [.sent, .answered (.ok ())] := by
  simp [renewed, List.replicate_succ']

theorem renewed_answer {n : ℕ} {outcome : Except PyError Unit} (listed : .answered outcome ∈ renewed n) :
    outcome = .ok () := by
  induction n with
  | zero => cases listed
  | succ n ih =>
      rw [renewed_succ] at listed
      simpa using (List.mem_append.mp listed).imp_left ih

/-- The history a task shows in each of its states. -/
def KeepaliveTask.Tells (history : List Renewal) : KeepaliveTask → Prop
  | .requesting => ∃ n, history = renewed n ++ [.sent]
  | .failed error => ∃ n, history = renewed n ++ [.sent, .answered (.error error)]
  | .cancelled => ∃ n, history = renewed n ∨ history = renewed n ++ [.sent]
  | _ => ∃ n, history = renewed n

variable {history : List Renewal}

theorem KeepaliveTask.tells_loop (running : Bool) {n : ℕ} (same : history = renewed n) :
    (loop running).Tells history := by
  cases running <;> exact ⟨n, same⟩

theorem KeepaliveTask.tells_step (running : Bool) (op : TaskOp) {task : KeepaliveTask} (tells : task.Tells history) :
    (task.step running op).Tells (history ++ task.renewals op) := by
  cases task with
  | created =>
      obtain ⟨n, rfl⟩ := tells
      cases op with
      | resume => exact tells_loop running (List.append_nil _)
      | answer outcome => exact ⟨n, List.append_nil _⟩
  | sleeping =>
      obtain ⟨n, rfl⟩ := tells
      cases op with
      | resume => exact ⟨n, rfl⟩
      | answer outcome => exact ⟨n, List.append_nil _⟩
  | requesting =>
      obtain ⟨n, rfl⟩ := tells
      cases op with
      | resume => exact ⟨n, List.append_nil _⟩
      | answer outcome =>
          cases outcome with
          | ok value => exact tells_loop running (by rw [renewed_succ n, List.append_assoc]; rfl)
          | error error => exact ⟨n, by rw [List.append_assoc]; rfl⟩
  | _ => simpa [step, KeepaliveTask.renewals] using tells

theorem KeepaliveTask.tells_cancel {task : KeepaliveTask} (tells : task.Tells history) :
    task.cancel.Tells history := by
  cases task with
  | created => exact tells.imp fun n same => .inl same
  | sleeping => exact tells.imp fun n same => .inl same
  | requesting => exact tells.imp fun n same => .inr same
  | _ => exact tells

/-- A failed renewal is the last thing a task shows. -/
theorem KeepaliveTask.Tells.failed_iff {task : KeepaliveTask} (tells : task.Tells history) (error : PyError) :
    task = .failed error ↔ .answered (.error error) ∈ history := by
  have good (n : ℕ) : .answered (.error error) ∉ renewed n := fun listed => nomatch renewed_answer listed
  cases task with
  | failed other =>
      obtain ⟨n, rfl⟩ := tells
      simp [good n, eq_comm]
  | requesting =>
      obtain ⟨n, rfl⟩ := tells
      simp [good n]
  | cancelled =>
      obtain ⟨n, rfl | rfl⟩ := tells
      · simp [good n]
      · simp [good n]
  | _ =>
      obtain ⟨n, rfl⟩ := tells
      simp [good n]

/-- The same for a place in the list of tasks. -/
def Shows (history : List Renewal) : Option KeepaliveTask → Prop
  | none => history = []
  | some task => task.Tells history

theorem Shows.failed_iff {task : Option KeepaliveTask} (shows : Shows history task) (error : PyError) :
    task = some (.failed error) ↔ .answered (.error error) ∈ history := by
  cases task with
  | none =>
      cases shows
      simp
  | some made => exact Option.some_inj.trans (KeepaliveTask.Tells.failed_iff shows error)

end Lifetimes

namespace UserStreamSession

section Interleavings

variable (session : UserStreamSession)

theorem shows_step {history : List Renewal} (index : ℕ) (op : SessionOp)
    (shows : Shows history session.tasks[index]?) :
    Shows (history ++ session.renewals index op) (session.step op).tasks[index]? := by
  cases op with
  | start response =>
      have quiet : session.renewals index (.start response) = [] := rfl
      rw [quiet, List.append_nil, step, start]
      cases listenKeyOf response with
      | error error => exact shows
      | ok key =>
          dsimp only
          rcases lt_trichotomy index session.tasks.length with earlier | same | later
          · rwa [List.getElem?_append_left earlier]
          · subst same
            rw [List.getElem?_eq_none le_rfl] at shows
            rw [List.getElem?_concat_length]
            exact ⟨0, shows⟩
          · rw [List.getElem?_eq_none later.le] at shows
            rw [List.getElem?_eq_none (by simpa using Nat.succ_le_of_lt later)]
            exact shows
  | close =>
      have quiet : session.renewals index .close = [] := rfl
      rw [quiet, List.append_nil, step, close]
      cases session.task with
      | none => exact shows
      | some current =>
          dsimp only
          rw [List.getElem?_modify]
          cases made : session.tasks[index]? with
          | none => rwa [made] at shows
          | some task =>
              rw [made] at shows
              split
              · exact KeepaliveTask.tells_cancel shows
              · exact shows
  | task other op =>
      rw [renewals, step]
      dsimp only
      rw [List.getElem?_modify]
      cases made : session.tasks[index]? with
      | none =>
          rw [made] at shows
          split <;> simpa using shows
      | some task =>
          rw [made] at shows
          split
          · exact KeepaliveTask.tells_step session.running op shows
          · rwa [List.append_nil]

theorem shows_run (ops : List SessionOp) (index : ℕ) :
    Shows (trace step (renewals index) {} ops) (run step {} ops).tasks[index]? :=
  run_history step (renewals index) (fun _ now history => Shows history now.tasks[index]?)
    (fun now op _ _ shows => now.shows_step index op shows) {} ops [] rfl

/-- `close` raises what the task started last failed with, if it did. -/
theorem close_raises (error : PyError) : session.close.2 = .error error ↔
    ∃ index, session.task = some index ∧ session.tasks[index]? = some (.failed error) := by
  unfold close
  cases session.task with
  | none => simp
  | some index =>
      dsimp only
      rw [List.getElem?_modify_eq]
      cases made : session.tasks[index]? with
      | none => simp [made]
      | some task => cases task <;> simp [made, KeepaliveTask.cancel, KeepaliveTask.awaited]

/-- Any number of starts and closes, in any order with what their tasks do: a
task renews the key until a renewal fails and sends none after that, and nobody
learns of the failure before a `close`, which raises it exactly if it is the
failure of the task started last. -/
theorem close_raises_failure (ops : List SessionOp) :
    (∀ index, ∃ n rest, trace step (renewals index) {} ops = renewed n ++ rest ∧
        (rest = [] ∨ rest = [.sent] ∨ ∃ error, rest = [.sent, .answered (.error error)])) ∧
      ∀ error, (run step {} ops).close.2 = .error error ↔
        ∃ index, (run step {} ops).task = some index ∧
          .answered (.error error) ∈ trace step (renewals index) {} ops := by
  constructor
  · intro index
    have shows := shows_run ops index
    cases made : (run step {} ops).tasks[index]? with
    | none =>
        rw [made] at shows
        exact ⟨0, [], shows, .inl rfl⟩
    | some task =>
        rw [made] at shows
        cases task with
        | requesting => exact shows.imp fun n same => ⟨_, same, .inr (.inl rfl)⟩
        | failed error => exact shows.imp fun n same => ⟨_, same, .inr (.inr ⟨error, rfl⟩)⟩
        | cancelled =>
            obtain ⟨n, same | same⟩ := shows
            · exact ⟨n, [], by rw [same, List.append_nil], .inl rfl⟩
            · exact ⟨n, _, same, .inr (.inl rfl)⟩
        | _ => exact shows.imp fun n same => ⟨[], by rw [same, List.append_nil], .inl rfl⟩
  · intro error
    rw [close_raises]
    exact exists_congr fun index => and_congr_right fun _ => (shows_run ops index).failed_iff error

end Interleavings

section Closed

/-- A start that gets its key. -/
def begins : SessionOp → Bool
  | .start response => (listenKeyOf response).isOk
  | _ => false

def isSent : Renewal → Bool
  | .sent => true
  | .answered _ => false

/-- The renewal that a task asleep sends next. -/
def dueOf : KeepaliveTask → ℕ
  | .sleeping => 1
  | _ => 0

def due (session : UserStreamSession) (index : ℕ) : ℕ := ((session.tasks[index]?).map dueOf).getD 0

theorem dueOf_cancel (task : KeepaliveTask) : dueOf task.cancel = 0 := by
  cases task <;> rfl

/-- With the flag down, a task that sends is not due again. -/
theorem dueOf_step (task : KeepaliveTask) (op : TaskOp) :
    (task.renewals op).countP isSent + dueOf (task.step false op) = dueOf task := by
  cases op with
  | resume => cases task <;> rfl
  | answer outcome =>
      cases task with
      | requesting => cases outcome <;> rfl
      | _ => exact Nat.zero_add _

variable {session : UserStreamSession}

theorem due_close (session : UserStreamSession) (index : ℕ) : (session.step .close).due index =
    if session.task = some index then 0 else session.due index := by
  rw [step, close]
  cases session.task with
  | none => rfl
  | some current =>
      simp only [due, List.getElem?_modify, Option.some_inj]
      cases session.tasks[index]? with
      | none => simp
      | some task =>
          split
          · simp [dueOf_cancel]
          · rfl

theorem step_closed {op : SessionOp} (index : ℕ) (idle : session.running = false) (unopened : begins op = false) :
    (session.step op).running = false ∧
      (session.renewals index op).countP isSent + (session.step op).due index ≤ session.due index := by
  cases op with
  | start response =>
      rw [step, start]
      cases got : listenKeyOf response with
      | error error => exact ⟨idle, le_of_eq (Nat.zero_add _)⟩
      | ok key => simp [begins, got, Except.isOk, Except.toBool] at unopened
  | close =>
      constructor
      · rw [step, close]
        cases session.task <;> rfl
      · have quiet : session.renewals index .close = [] := rfl
        rw [quiet, due_close, List.countP_nil, Nat.zero_add]
        split
        · exact Nat.zero_le _
        · exact le_rfl
  | task other op =>
      refine ⟨idle, ?_⟩
      simp only [step, due, renewals, List.getElem?_modify, idle]
      by_cases own : other = index
      · cases session.tasks[index]? with
        | none => simp
        | some task => simpa [own] using (dueOf_step task op).le
      · simp [own]

/-- Until a start gets a key again, nothing sends after `close` but the tasks of
earlier starts, each at most the one renewal it was asleep before. -/
theorem closed_sends (session : UserStreamSession) {ops : List SessionOp} (unopened : ∀ op ∈ ops, begins op = false)
    (index : ℕ) : (trace step (renewals index) (session.step .close) ops).countP isSent ≤
      if session.task = some index then 0 else session.due index := by
  have idle : (session.step .close).running = false := by
    rw [step, close]
    cases session.task <;> rfl
  have counted := run_history step (renewals index)
    (fun rest now history => (∀ op ∈ rest, begins op = false) ∧ now.running = false ∧
      history.countP isSent + now.due index ≤ (session.step .close).due index)
    (fun now op rest history held => by
      obtain ⟨unopened, idle, bound⟩ := held
      obtain ⟨here, later⟩ := List.forall_mem_cons.mp unopened
      obtain ⟨still, less⟩ := step_closed index idle here
      refine ⟨later, still, ?_⟩
      rw [List.countP_append]
      omega)
    (session.step .close) ops [] ⟨unopened, idle, le_of_eq (Nat.zero_add _)⟩
  rw [← due_close]
  exact (Nat.le_add_right _ _).trans counted.2.2

/-- Two starts; the first task goes on under the flag of the second. -/
def startedTwice : UserStreamSession :=
  let response : Except PyError PyValue := .ok (.dict [("listenKey", .str "k")])
  run step {} [.start response, .start response, .task 0 .resume, .task 1 .resume]

theorem closed_sends_leaked :
    (trace step (renewals 0) (startedTwice.step .close) [.task 0 .resume, .task 0 .resume]).countP isSent ≤ 1 ∧
      (trace step (renewals 1) (startedTwice.step .close) [.task 1 .resume]).countP isSent ≤ 0 :=
  ⟨(closed_sends startedTwice (by decide) 0).trans (by decide),
    (closed_sends startedTwice (by decide) 1).trans (by decide)⟩

end Closed

end UserStreamSession

section Gateway
open UserStreamSession

/-- The session's operations in `main` up to its `finally`. -/
def mainOps (response : Except PyError PyValue) (ops : List TaskOp) : List SessionOp :=
  .start response :: ops.map (.task 0)

/-- Its tasks come and go with `start` alone. -/
theorem run_tasks (session : UserStreamSession) (ops : List TaskOp) :
    (run step session (ops.map (.task 0))).task = session.task ∧
      (run step session (ops.map (.task 0))).tasks.length = session.tasks.length := by
  induction ops generalizing session with
  | nil => exact ⟨rfl, rfl⟩
  | cons op rest ih =>
      obtain ⟨same, kept⟩ := ih (session.step (.task 0 op))
      exact ⟨same, kept.trans (List.length_modify ..)⟩

theorem gatewayMain_started {response : Except PyError PyValue} {key : String}
    (got : listenKeyOf response = .ok key) (ops : List TaskOp) (streams : Except PyError Unit) :
    gatewayMain response ops streams = leave (run step {} (mainOps response ops)).close.2 streams := by
  simp only [gatewayMain, mainOps, run_cons, step, start, got]

/-- The HTTP client is left open exactly if the gateway got no key or a renewal
failed at some point of the run, and then that failure is what `main` ends with,
whatever ended the streams. -/
theorem gatewayMain_tells (response : Except PyError PyValue) (ops : List TaskOp) (streams : Except PyError Unit) :
    ((gatewayMain response ops streams).clientClosed = true ↔
        (listenKeyOf response).isOk = true ∧
          ∀ error, .answered (.error error) ∉ trace step (renewals 0) {} (mainOps response ops)) ∧
      ∀ error, (gatewayMain response ops streams).outcome = .error error ↔
        listenKeyOf response = .error error ∨
          .answered (.error error) ∈ trace step (renewals 0) {} (mainOps response ops) ∨
          (gatewayMain response ops streams).clientClosed = true ∧ streams = .error error := by
  have shown := shows_run (mainOps response ops) 0
  cases got : listenKeyOf response with
  | error failure =>
      have ended : gatewayMain response ops streams = ⟨.error failure, false⟩ := by
        simp only [gatewayMain, start, got]
      have silent (error : PyError) :
          .answered (.error error) ∉ trace step (renewals 0) {} (mainOps response ops) := by
        have kept : (run step {} (mainOps response ops)).tasks.length = 0 := by
          rw [mainOps, run_cons, step, start, got, (run_tasks _ ops).2]
          rfl
        rw [← shown.failed_iff, List.length_eq_zero_iff.mp kept]
        exact nofun
      simp [ended, silent, Except.isOk, Except.toBool]
  | ok key =>
      have raises (error : PyError) : (run step {} (mainOps response ops)).close.2 = .error error ↔
          .answered (.error error) ∈ trace step (renewals 0) {} (mainOps response ops) := by
        have current : (run step {} (mainOps response ops)).task = some 0 := by
          rw [mainOps, run_cons, step, start, got, (run_tasks _ ops).1]
          rfl
        rw [close_raises, current, ← shown.failed_iff]
        simp
      rw [gatewayMain_started got]
      cases closed : (run step {} (mainOps response ops)).close.2 with
      | error failure =>
          have failed := (raises failure).mp closed
          refine ⟨⟨nofun, fun held => absurd failed (held.2 failure)⟩, fun error => ?_⟩
          rw [← raises, closed]
          simp [leave]
      | ok value =>
          have silent (error : PyError) :
              .answered (.error error) ∉ trace step (renewals 0) {} (mainOps response ops) := by
            rw [← raises, closed]
            exact nofun
          simp [leave, silent, Except.isOk, Except.toBool]

end Gateway

end CatsPy
