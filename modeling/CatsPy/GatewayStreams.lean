import CatsPy.JsonlFiles
import CatsPy.PrivateOrders
import CatsPy.Reconciliation

/-!
# Gateway streams

The websocket gateway: every stream connects again after whatever ends its
connection, three consumers read the streams side by side, and each writes what
it reads into the journal before anything else happens to it. The line it logs at
the end of every message is refused by the logger wherever the level lets it
through, and the helpers of the private stream are only there for an importer.
-/
namespace CatsPy
open PythonValues StateRuns JsonText

/-- What happens to a socket, in the order `messages()` gets to see it. A frame
is its text, with none for bytes that do not decode. -/
inductive StreamEvent where
  | opened (reads : ReconcileReads) (clock : ReconcileClock)
  | frame (raw : Option (List Char)) (receivedAt appliedAt : Datetime)
  | closed
  | failed (error : PyError)

/-- A yielded message, with the clock readings of its handling. -/
structure Delivery where
  message : PyValue
  receivedAt : Datetime
  appliedAt : Datetime

namespace BinanceWebSocketBase

/-- A frame is a dict, anything else, or raises. -/
def readFrame (codec : FloatText) (raw : Option (List Char)) : Except PyError (Option PyValue) :=
  match raw with
  | none => .error ⟨.valueError, "'utf-8' codec can't decode bytes"⟩
  | some text =>
      match loads codec text with
      | .error e => .error (decodeError e)
      | .ok payload => .ok (if isDict payload then some payload else none)

/-- Whether `messages()` is in a connection after an event: any exception and any
close leads back to the top of its loop. -/
def afterEvent (codec : FloatText) : Bool → StreamEvent → Bool
  | false, .opened _ _ => true
  | true, .frame raw _ _ => (readFrame codec raw).isOk
  | true, .closed => false
  | true, .failed _ => false
  | connected, _ => connected

def yielded (codec : FloatText) : Bool → StreamEvent → Option Delivery
  | true, .frame raw receivedAt appliedAt =>
      (readFrame codec raw).toOption.join.map fun message => { message, receivedAt, appliedAt }
  | _, _ => none

/-- All that `messages()` yields to a consumer that never stops reading. -/
def messages (codec : FloatText) (events : List StreamEvent) : List Delivery :=
  trace (afterEvent codec) (fun connected event => (yielded codec connected event).toList) false events

theorem yielded_isRecord {codec : FloatText} {connected : Bool} {event : StreamEvent} {delivery : Delivery}
    (yields : yielded codec connected event = some delivery) : IsRecord codec delivery.message := by
  cases connected with
  | false => cases yields
  | true =>
      cases event with
      | opened reads clock => cases yields
      | closed => cases yields
      | failed error => cases yields
      | frame raw receivedAt appliedAt =>
          obtain ⟨message, read, rfl⟩ := Option.map_eq_some_iff.mp yields
          cases raw with
          | none => cases read
          | some text =>
              rw [readFrame] at read
              cases loaded : loads codec text with
              | error e => simp [loaded, Except.toOption] at read
              | ok payload =>
                  cases dict : isDict payload with
                  | false => simp [loaded, dict, Except.toOption] at read
                  | true =>
                      simp only [loaded, dict, if_true, Except.toOption, Option.join_some, Option.some.injEq] at read
                      exact read ▸ ⟨dict, loads_dumpable loaded⟩

/-- A frame that yields keeps the connection. -/
theorem afterEvent_of_yielded {codec : FloatText} {connected : Bool} {event : StreamEvent} {delivery : Delivery}
    (yields : yielded codec connected event = some delivery) : afterEvent codec connected event = connected := by
  cases connected with
  | false => cases yields
  | true =>
      cases event with
      | opened reads clock => cases yields
      | closed => cases yields
      | failed error => cases yields
      | frame raw receivedAt appliedAt =>
          obtain ⟨message, read, -⟩ := Option.map_eq_some_iff.mp yields
          cases outcome : readFrame codec raw with
          | error e => simp [outcome, Except.toOption] at read
          | ok payload => simp [afterEvent, outcome, Except.isOk, Except.toBool]

end BinanceWebSocketBase

inductive StreamName where
  | publicStream | marketStream | privateStream
  deriving DecidableEq

/-- How the program was started: whether its logger is at INFO or below, and whether
as `__main__`, which calls `main` before the helpers below it are defined. -/
structure GatewayProcess where
  infoEnabled : Bool := true
  asMain : Bool := true

/-- The arguments of `consume` besides the stream. -/
structure ConsumeArgs where
  name : String
  userHandler : Bool := false
  guardian : Option PositionGuardian := none
  connectionId : Option String := none
  onConnect : Bool := false

/-- One running `consume`. -/
structure Consumer where
  connected : Bool := false
  count : ℕ := 0
  /-- How the task ended. -/
  stopped : Option (Except PyError Unit) := none

/-- How many messages it took; the one it raised on is not counted. -/
def Consumer.taken (consumer : Consumer) : ℕ :=
  match consumer.stopped with
  | some (.error _) => consumer.count + 1
  | _ => consumer.count

theorem Consumer.taken_of_running {consumer : Consumer} (running : consumer.stopped = none) :
    consumer.taken = consumer.count := by
  rw [Consumer.taken, running]

/-- The event loop's shared data: the files, the account of the user handler and
the reconciler, and the three tasks. -/
structure Gateway where
  files : StreamFiles
  account : AccountState := {}
  consumers : StreamName → Consumer := fun _ => {}

structure GatewayOp where
  stream : StreamName
  event : StreamEvent

/-- The record of `append_event`. -/
def eventEnvelope (payload : PyValue) (eventType : String) (receivedAt : Datetime)
    (connectionId : Option String) (tags : PyValue) : PyValue :=
  .dict [("received_at", .str (isoformat receivedAt)), ("event_type", .str eventType),
    ("connection_id", ofOptional connectionId), ("tags", tags.or (.dict [])), ("payload", jsonReady payload)]

namespace Gateway
open BinanceWebSocketBase BinanceUserEventHandler

def journalStream (args : ConsumeArgs) : String :=
  if args.name = "private" then "binance_user_event" else "binance_" ++ args.name

/-- What a message is appended as. -/
def journalEntry (args : ConsumeArgs) (delivery : Delivery) : PyValue :=
  if args.name = "private" then
    eventEnvelope delivery.message (eventType delivery.message) delivery.receivedAt args.connectionId
      (.dict [("stream", .str args.name)])
  else delivery.message

def helperNameError : PyError := ⟨.nameError, "name '_collect_guardian_alerts' is not defined"⟩

/-- A log record takes no extra field of the name `message`. -/
def logRecordError : PyError := ⟨.keyError, "\"Attempt to overwrite 'message' in LogRecord\""⟩

/-- The body of the loop in `consume`, up to its last log line. -/
def handleMessage (process : GatewayProcess) (codec : FloatText) (args : ConsumeArgs) (gateway : Gateway)
    (delivery : Delivery) : Except (Gateway × PyError) Gateway :=
  let journalled := { gateway with
    files := gateway.files.append codec (journalStream args) (journalEntry args delivery) }
  if args.name = "private" && args.userHandler then
    match apply gateway.account delivery.message delivery.appliedAt with
    | .error (left, error) => .error ({ journalled with account := left }, error)
    | .ok account =>
        if process.asMain then .error ({ journalled with account }, helperNameError)
        else .ok { journalled with
          account := (collectGuardianAlerts args.guardian account (eventType delivery.message) delivery.message).1 }
  else .ok journalled

/-- The body of the loop in `consume`; its last log line names a field `message`. -/
def consumeMessage (process : GatewayProcess) (codec : FloatText) (args : ConsumeArgs) (gateway : Gateway)
    (delivery : Delivery) : Except (Gateway × PyError) Gateway := do
  let handled ← handleMessage process codec args gateway delivery
  if process.infoEnabled then .error (handled, logRecordError) else .ok handled

/-- The connect hook; what it raises is only logged. -/
def runConnectHook (args : ConsumeArgs) (connected : Bool) (event : StreamEvent) (gateway : Gateway) : Gateway :=
  match connected, event with
  | false, .opened reads clock =>
      if args.onConnect then
        { gateway with account := (AccountReconciler.reconcile gateway.account reads clock).1 }
      else gateway
  | _, _ => gateway

def setConsumer (gateway : Gateway) (stream : StreamName) (consumer : Consumer) : Gateway :=
  { gateway with consumers := Function.update gateway.consumers stream consumer }

/-- One event on one stream: the hook, or a message to the consumer, who stops
after the third. -/
def step (process : GatewayProcess) (codec : FloatText) (args : StreamName → ConsumeArgs) (gateway : Gateway)
    (op : GatewayOp) : Gateway :=
  let consumer := gateway.consumers op.stream
  if consumer.stopped.isSome then gateway
  else
    match yielded codec consumer.connected op.event with
    | none => (runConnectHook (args op.stream) consumer.connected op.event gateway).setConsumer op.stream
        { consumer with connected := afterEvent codec consumer.connected op.event }
    | some delivery =>
        match consumeMessage process codec (args op.stream) gateway delivery with
        | .error (left, error) => left.setConsumer op.stream { consumer with stopped := some (.error error) }
        | .ok after => after.setConsumer op.stream { consumer with
            count := consumer.count + 1
            stopped := if 3 ≤ consumer.count + 1 then some (.ok ()) else none }

/-- The three `consume` calls of `main`. -/
def mainArgs (guardian : PositionGuardian) (listenKey : String) : StreamName → ConsumeArgs
  | .publicStream => { name := "public" }
  | .marketStream => { name := "market" }
  | .privateStream =>
      { name := "private", userHandler := true, guardian := some guardian, connectionId := some listenKey
        onConnect := true }

def start (files : StreamFiles) : Gateway := { files }

/-- The events of one stream, as they come. -/
def eventsOf (ops : List GatewayOp) (stream : StreamName) : List StreamEvent :=
  (ops.filter fun op => op.stream = stream).map GatewayOp.event

section Following

variable {process : GatewayProcess} {codec : FloatText} {args : StreamName → ConsumeArgs} {gateway : Gateway}
  {op : GatewayOp}

/-- What a step appends to the files. -/
def writes (codec : FloatText) (args : StreamName → ConsumeArgs) (gateway : Gateway) (op : GatewayOp) :
    List (String × PyValue) :=
  if (gateway.consumers op.stream).stopped.isSome then []
  else (yielded codec (gateway.consumers op.stream).connected op.event).toList.map fun delivery =>
    (journalStream (args op.stream), journalEntry (args op.stream) delivery)

theorem handleMessage_files (process : GatewayProcess) (codec : FloatText) (gateway : Gateway)
    (consumeArgs : ConsumeArgs) (delivery : Delivery) :
    (final (handleMessage process codec consumeArgs gateway delivery)).files =
      gateway.files.append codec (journalStream consumeArgs) (journalEntry consumeArgs delivery) ∧
    (final (handleMessage process codec consumeArgs gateway delivery)).consumers = gateway.consumers := by
  simp only [handleMessage]
  split
  · cases apply gateway.account delivery.message delivery.appliedAt with
    | error failure => exact ⟨rfl, rfl⟩
    | ok account => cases process.asMain <;> exact ⟨rfl, rfl⟩
  · exact ⟨rfl, rfl⟩

theorem final_consumeMessage (process : GatewayProcess) (codec : FloatText) (gateway : Gateway)
    (consumeArgs : ConsumeArgs) (delivery : Delivery) :
    final (consumeMessage process codec consumeArgs gateway delivery) =
      final (handleMessage process codec consumeArgs gateway delivery) := by
  unfold consumeMessage
  cases handleMessage process codec consumeArgs gateway delivery with
  | error failure => rfl
  | ok handled => cases process.infoEnabled <;> rfl

theorem runConnectHook_frame (gateway : Gateway) (consumeArgs : ConsumeArgs) (connected : Bool) (event : StreamEvent) :
    (runConnectHook consumeArgs connected event gateway).files = gateway.files ∧
      (runConnectHook consumeArgs connected event gateway).consumers = gateway.consumers := by
  unfold runConnectHook
  split
  · split <;> exact ⟨rfl, rfl⟩
  · exact ⟨rfl, rfl⟩

/-- Why the handling of a message raises: the handler, a helper not there yet, or
the log line at the end. -/
inductive Raises (process : GatewayProcess) (consumeArgs : ConsumeArgs) (delivery : Delivery) (error : PyError) : Prop
  | refused (handled : consumeArgs.name = "private") {account left : AccountState}
      (refuses : apply account delivery.message delivery.appliedAt = .error (left, error))
  | unnamed (handled : consumeArgs.name = "private") (asMain : process.asMain = true)
      (named : error = helperNameError)
  | logged (infoEnabled : process.infoEnabled = true) (named : error = logRecordError)

/-- The consumer of the stream an event is on, after the event. -/
inductive Takes (process : GatewayProcess) (codec : FloatText) (consumeArgs : ConsumeArgs) (event : StreamEvent)
    (consumer : Consumer) : Consumer → Prop
  | ended (ended : consumer.stopped.isSome = true) : Takes process codec consumeArgs event consumer consumer
  | nothing (running : consumer.stopped = none) (silent : yielded codec consumer.connected event = none) :
      Takes process codec consumeArgs event consumer
        { consumer with connected := afterEvent codec consumer.connected event }
  | raised (running : consumer.stopped = none) {delivery : Delivery}
      (yields : yielded codec consumer.connected event = some delivery) {error : PyError}
      (raises : Raises process consumeArgs delivery error) :
      Takes process codec consumeArgs event consumer { consumer with stopped := some (.error error) }
  | counted (running : consumer.stopped = none) {delivery : Delivery}
      (yields : yielded codec consumer.connected event = some delivery) (quiet : process.infoEnabled = false) :
      Takes process codec consumeArgs event consumer { consumer with
        count := consumer.count + 1
        stopped := if 3 ≤ consumer.count + 1 then some (.ok ()) else none }

theorem handleMessage_raised {consumeArgs : ConsumeArgs} {delivery : Delivery} {left : Gateway} {error : PyError}
    (raised : handleMessage process codec consumeArgs gateway delivery = .error (left, error)) :
    Raises process consumeArgs delivery error := by
  simp only [handleMessage] at raised
  split at raised
  · next handled =>
    have private_ : consumeArgs.name = "private" := by simpa using (Bool.and_eq_true_iff.mp handled).1
    cases applied : apply gateway.account delivery.message delivery.appliedAt with
    | error failure =>
        simp only [applied, Except.error.injEq, Prod.mk.injEq] at raised
        obtain ⟨-, rfl⟩ := raised
        exact .refused private_ applied
    | ok account =>
        cases asMain : process.asMain with
        | true =>
            simp only [applied, asMain, if_true, Except.error.injEq, Prod.mk.injEq] at raised
            exact .unnamed private_ asMain raised.2.symm
        | false => simp [applied, asMain] at raised
  · cases raised

theorem consumeMessage_raised {consumeArgs : ConsumeArgs} {delivery : Delivery} {left : Gateway} {error : PyError}
    (raised : consumeMessage process codec consumeArgs gateway delivery = .error (left, error)) :
    Raises process consumeArgs delivery error := by
  unfold consumeMessage at raised
  cases handled : handleMessage process codec consumeArgs gateway delivery with
  | error failure =>
      rw [handled] at raised
      cases raised
      exact handleMessage_raised handled
  | ok after =>
      rw [handled] at raised
      cases info : process.infoEnabled with
      | true =>
          simp only [info, Bind.bind, Except.bind, if_true, Except.error.injEq, Prod.mk.injEq] at raised
          exact .logged info raised.2.symm
      | false => simp [info, Bind.bind, Except.bind] at raised

theorem consumeMessage_returned {consumeArgs : ConsumeArgs} {delivery : Delivery} {after : Gateway}
    (returned : consumeMessage process codec consumeArgs gateway delivery = .ok after) :
    process.infoEnabled = false ∧ handleMessage process codec consumeArgs gateway delivery = .ok after := by
  unfold consumeMessage at returned
  obtain ⟨handled, here, returned⟩ := bind_ok returned
  cases info : process.infoEnabled with
  | true => simp [info] at returned
  | false =>
      simp only [info, Bool.false_eq_true, if_false, Except.ok.injEq] at returned
      exact ⟨rfl, returned ▸ here⟩

/-- A step appends its writes and touches no consumer but its own. -/
theorem step_spec (process : GatewayProcess) (codec : FloatText) (args : StreamName → ConsumeArgs)
    (gateway : Gateway) (op : GatewayOp) :
    (step process codec args gateway op).files = gateway.files.appendAll codec (writes codec args gateway op) ∧
    ∃ consumer, Takes process codec (args op.stream) op.event (gateway.consumers op.stream) consumer ∧
      (step process codec args gateway op).consumers = Function.update gateway.consumers op.stream consumer := by
  cases ended : (gateway.consumers op.stream).stopped with
  | some outcome =>
      refine ⟨?_, gateway.consumers op.stream, .ended (by rw [ended]; rfl), ?_⟩
      · simp [step, writes, ended, StreamFiles.appendAll]
      · simp [step, ended]
  | none =>
      cases yields : yielded codec (gateway.consumers op.stream).connected op.event with
      | none =>
          have hook := runConnectHook_frame gateway (args op.stream)
            (gateway.consumers op.stream).connected op.event
          refine ⟨?_, _, .nothing ended yields, ?_⟩
          · simp [step, writes, ended, yields, setConsumer, hook.1, StreamFiles.appendAll]
          · simp [step, ended, yields, setConsumer, hook.2]
      | some delivery =>
          have consumed := handleMessage_files process codec gateway (args op.stream) delivery
          rw [← final_consumeMessage] at consumed
          have wrote : writes codec args gateway op =
              [(journalStream (args op.stream), journalEntry (args op.stream) delivery)] := by
            simp [writes, ended, yields]
          rw [wrote]
          cases outcome : consumeMessage process codec (args op.stream) gateway delivery with
          | error failure =>
              rw [outcome] at consumed
              refine ⟨?_, _, .raised ended yields (consumeMessage_raised outcome), ?_⟩
              · simp only [step, ended, yields, outcome, setConsumer, Option.isSome_none, Bool.false_eq_true,
                  if_false]
                exact consumed.1
              · simp only [step, ended, yields, outcome, setConsumer]
                exact congrArg (Function.update · _ _) consumed.2
          | ok after =>
              rw [outcome] at consumed
              refine ⟨?_, _, .counted ended yields (consumeMessage_returned outcome).1, ?_⟩
              · simp only [step, ended, yields, outcome, setConsumer, Option.isSome_none, Bool.false_eq_true,
                  if_false]
                exact consumed.1
              · simp only [step, ended, yields, outcome, setConsumer]
                exact congrArg (Function.update · _ _) consumed.2

/-- How far the consumer of a stream is with the messages of the stream's own
events, and what it wrote. -/
structure Follows (process : GatewayProcess) (codec : FloatText) (args : StreamName → ConsumeArgs)
    (stream : StreamName) (events : List StreamEvent) (entries : List PyValue) (consumer : Consumer) : Prop where
  wrote : entries = ((messages codec events).take consumer.taken).map (journalEntry (args stream))
  within : consumer.taken ≤ (messages codec events).length
  bounded : consumer.taken ≤ 3
  running : consumer.stopped = none → consumer.connected = run (afterEvent codec) false events ∧
    consumer.count = (messages codec events).length ∧ consumer.count < 3
  finished : consumer.stopped = some (.ok ()) → consumer.count = 3
  logs : process.infoEnabled = true → consumer.count = 0
  raised : ∀ error, consumer.stopped = some (.error error) →
    ∃ delivery, (messages codec events)[consumer.count]? = some delivery ∧
      Raises process (args stream) delivery error

variable {stream : StreamName} {events : List StreamEvent} {event : StreamEvent} {entries : List PyValue}
  {consumer after : Consumer}

theorem messages_append_one (codec : FloatText) (events : List StreamEvent) (event : StreamEvent) :
    messages codec (events ++ [event]) =
    messages codec events ++ (yielded codec (run (afterEvent codec) false events) event).toList := by
  rw [messages, trace_append, trace, trace, List.append_nil]
  rfl

/-- One more event on the stream. -/
theorem Follows.takes (follows : Follows process codec args stream events entries consumer)
    (takes : Takes process codec (args stream) event consumer after) :
    Follows process codec args stream (events ++ [event])
      (entries ++ if consumer.stopped.isSome then []
        else (yielded codec consumer.connected event).toList.map (journalEntry (args stream))) after := by
  obtain ⟨wrote, within, bounded, running, finished, logs, raised⟩ := follows
  have longer := messages_append_one codec events event
  cases takes with
  | ended ended =>
      have stays : (messages codec (events ++ [event])).take consumer.taken =
          (messages codec events).take consumer.taken := by
        rw [longer, List.take_append_of_le_length within]
      refine ⟨?_, ?_, bounded, fun listens => by simp [listens] at ended, finished, logs, fun error failed => ?_⟩
      · rw [if_pos ended, List.append_nil, stays]
        exact wrote
      · rw [longer, List.length_append]
        omega
      · obtain ⟨delivery, last, raises⟩ := raised error failed
        refine ⟨delivery, ?_, raises⟩
        have inside : consumer.count < (messages codec events).length := by
          by_contra outside
          simp [List.getElem?_eq_none (not_lt.mp outside)] at last
        rw [longer, List.getElem?_append_left inside]
        exact last
  | nothing listens silent =>
      obtain ⟨connected, count, below⟩ := running listens
      have same : messages codec (events ++ [event]) = messages codec events := by
        rw [longer, ← connected, silent, Option.toList_none, List.append_nil]
      refine ⟨?_, ?_, ?_, fun _ => ⟨?_, ?_, below⟩, fun ended => by simp [listens] at ended, logs,
        fun error ended => by simp [listens] at ended⟩
      · rw [same, listens, silent]
        simpa [Consumer.taken, listens] using wrote
      · rw [same]
        simpa [Consumer.taken, listens] using within
      · simpa [Consumer.taken, listens] using bounded
      · rw [run_append, ← connected]
        rfl
      · rw [same, count]
  | raised listens yields raises =>
      rename_i delivery error
      obtain ⟨connected, count, below⟩ := running listens
      have more : messages codec (events ++ [event]) = messages codec events ++ [delivery] := by
        rw [longer, ← connected, yields, Option.toList_some]
      have whole : (messages codec events).take consumer.taken = messages codec events := by
        rw [Consumer.taken_of_running listens, count, List.take_length]
      refine ⟨?_, ?_, ?_, fun ended => by simp at ended, fun ended => by simp at ended, logs, fun e ended => ?_⟩
      · rw [more, listens, yields, wrote, whole]
        simp [Consumer.taken, count]
      · rw [more]
        simp [Consumer.taken, count]
      · simp only [Consumer.taken]
        omega
      · cases ended
        refine ⟨delivery, ?_, raises⟩
        simp [more, count]
  | counted listens yields quiet =>
      rename_i delivery
      obtain ⟨connected, count, below⟩ := running listens
      have more : messages codec (events ++ [event]) = messages codec events ++ [delivery] := by
        rw [longer, ← connected, yields, Option.toList_some]
      have whole : (messages codec events).take consumer.taken = messages codec events := by
        rw [Consumer.taken_of_running listens, count, List.take_length]
      have stays : afterEvent codec consumer.connected event = consumer.connected :=
        afterEvent_of_yielded yields
      have counts : Consumer.taken { consumer with
          count := consumer.count + 1
          stopped := if 3 ≤ consumer.count + 1 then some (.ok ()) else none } = consumer.count + 1 := by
        simp only [Consumer.taken]
        split_ifs <;> rfl
      refine ⟨?_, ?_, ?_, fun unended => ⟨?_, ?_, ?_⟩, fun ended => ?_, fun info => ?_, fun e ended => ?_⟩
      · rw [counts, more, listens, yields, wrote, whole]
        simp [count]
      · rw [counts, more]
        simp [count]
      · rw [counts]
        omega
      · rw [run_append, ← connected]
        exact stays.symm
      · simp [more, count]
      · by_contra most
        simp [not_lt.mp most] at unended
      · have reached : 3 ≤ consumer.count + 1 := by
          by_contra fewer
          simp [fewer] at ended
        exact Nat.le_antisymm below reached
      · rw [quiet] at info
        cases info
      · simp only at ended
        split_ifs at ended
        cases ended

theorem eventsOf_append_one (ops : List GatewayOp) (op : GatewayOp) (stream : StreamName) :
    eventsOf (ops ++ [op]) stream = eventsOf ops stream ++ if op.stream = stream then [op.event] else [] := by
  unfold eventsOf
  by_cases own : op.stream = stream <;> simp [own]

theorem written_writes (distinct : Function.Injective fun stream => journalStream (args stream)) :
    StreamFiles.written (writes codec args gateway op) (journalStream (args stream)) =
      if op.stream = stream then
        if (gateway.consumers stream).stopped.isSome then []
        else (yielded codec (gateway.consumers stream).connected op.event).toList.map (journalEntry (args stream))
      else [] := by
  unfold writes StreamFiles.written
  by_cases own : op.stream = stream
  · subst own
    rw [if_pos rfl]
    cases yielded codec (gateway.consumers op.stream).connected op.event <;> split_ifs <;> simp
  · have other : journalStream (args op.stream) ≠ journalStream (args stream) := fun same => own (distinct same)
    cases yielded codec (gateway.consumers op.stream).connected op.event <;> split_ifs <;> simp [other]

theorem start_follows (files : StreamFiles) (stream : StreamName) :
    Follows process codec args stream [] [] ((start files).consumers stream) where
  wrote := rfl
  within := Nat.zero_le _
  bounded := Nat.zero_le _
  running := fun _ => ⟨rfl, rfl, Nat.zero_lt_succ _⟩
  finished := fun ended => by cases ended
  logs := fun _ => rfl
  raised := fun error ended => by cases ended

/-- Each consumer follows its own stream, whatever happens on the others. -/
theorem run_follows (process : GatewayProcess) (codec : FloatText)
    (distinct : Function.Injective fun stream => journalStream (args stream)) (files : StreamFiles)
    (ops : List GatewayOp) (stream : StreamName) :
    Follows process codec args stream (eventsOf ops stream)
      (StreamFiles.written (trace (step process codec args) (writes codec args) (start files) ops)
        (journalStream (args stream)))
      ((run (step process codec args) (start files) ops).consumers stream) := by
  induction ops using List.reverseRecOn with
  | nil => exact start_follows files stream
  | append_singleton ops op ih =>
      obtain ⟨-, consumer, takes, consumers⟩ :=
        step_spec process codec args (run (step process codec args) (start files) ops) op
      rw [trace_append, trace, trace, List.append_nil, StreamFiles.written, List.filter_append, List.map_append,
        ← StreamFiles.written, ← StreamFiles.written, written_writes distinct, run_append, run_cons, run_nil,
        consumers, eventsOf_append_one]
      by_cases own : op.stream = stream
      · subst own
        rw [if_pos rfl, if_pos rfl, Function.update_self]
        exact ih.takes takes
      · rw [if_neg own, if_neg own, List.append_nil, List.append_nil, Function.update_of_ne (Ne.symm own)]
        exact ih

end Following

section Journal

variable {codec : FloatText}

theorem journalEntry_isRecord (args : ConsumeArgs) {delivery : Delivery}
    (isRecord : IsRecord codec delivery.message) : IsRecord codec (journalEntry args delivery) := by
  unfold journalEntry
  split
  · refine ⟨rfl, by simp, trivial, trivial, ?_, ⟨by simp, trivial, trivial⟩, ?_, trivial⟩
    · cases args.connectionId <;> trivial
    · rw [jsonReady_of_dumpable delivery.message isRecord.ready]
      exact isRecord.ready
  · exact isRecord

theorem writes_records (args : StreamName → ConsumeArgs) (gateway : Gateway) (op : GatewayOp) :
    ∀ write ∈ writes codec args gateway op, IsRecord codec write.2 := by
  intro write listed
  unfold writes at listed
  split at listed
  · cases listed
  · obtain ⟨delivery, yields, rfl⟩ := List.mem_map.mp listed
    exact journalEntry_isRecord (args op.stream) (yielded_isRecord (Option.mem_toList.mp yields))

theorem run_files (process : GatewayProcess) (args : StreamName → ConsumeArgs) (files : StreamFiles)
    (ops : List GatewayOp) :
    (run (step process codec args) (start files) ops).files =
      files.appendAll codec (trace (step process codec args) (writes codec args) (start files) ops) :=
  run_view (step process codec args) (writes codec args) Gateway.files
    (fun files write => files.append codec write.1 write.2) (fun _ => True) (fun _ _ _ => trivial)
    (fun gateway op _ => (step_spec process codec args gateway op).1)
    (start files) ops trivial

theorem mainArgs_distinct (guardian : PositionGuardian) (listenKey : String) :
    Function.Injective fun stream => journalStream (mainArgs guardian listenKey stream) := by
  intro first second same
  cases first <;> cases second <;> first | rfl | exact absurd same (by simp [journalStream, mainArgs])

/-- However the events of the three streams interleave, and whatever ends the
connections, the journal of each stream gains exactly the first messages of its
own frames, in order. With the logger at INFO or below that is the first one, on
which the log line raises; else it is three, or all there are, or those up to and
with the one whose handling raised. -/
theorem journal_gains_messages (process : GatewayProcess) (codec : FloatText) (guardian : PositionGuardian)
    (listenKey : String) (files : StreamFiles) (whole : files.Whole) (ops : List GatewayOp) (stream : StreamName) :
    let args := mainArgs guardian listenKey
    let after := run (step process codec args) (start files) ops
    let due := messages codec (eventsOf ops stream)
    let taken := (after.consumers stream).taken
    after.files.readStream codec (journalStream (args stream)) =
        (files.readStream codec (journalStream (args stream))).map (fun found =>
          found ++ (due.take taken).map (journalEntry (args stream))) ∧
      (process.infoEnabled = true → taken = min 1 due.length) ∧ taken ≤ 3 ∧
      ((∀ error, (after.consumers stream).stopped ≠ some (.error error)) → taken = min 3 due.length) ∧
      ∀ error, (after.consumers stream).stopped = some (.error error) →
        ∃ delivery, due[taken - 1]? = some delivery ∧ Raises process (args stream) delivery error := by
  intro args after due taken
  have follows := run_follows process codec (mainArgs_distinct guardian listenKey) files ops stream
  have records := trace_forall (step process codec args) (writes codec args) (fun _ => True) (fun _ _ => True)
    (fun write => IsRecord codec write.2) (fun _ _ _ _ => trivial)
    (fun gateway op _ _ => writes_records args gateway op) (start files) ops trivial
    (along_of_forall _ (fun _ _ => trivial) _)
  have raised (error : PyError) (ended : (after.consumers stream).stopped = some (.error error)) :
      taken = (after.consumers stream).count + 1 := by
    simp only [taken, Consumer.taken, ended]
  have finished (ended : (after.consumers stream).stopped = some (.ok ())) :
      taken = (after.consumers stream).count ∧ taken = 3 := by
    have all : (after.consumers stream).count = 3 := follows.finished ended
    have same : taken = (after.consumers stream).count := by simp only [taken, Consumer.taken, ended]
    exact ⟨same, same.trans all⟩
  have running (ended : (after.consumers stream).stopped = none) :
      taken = (after.consumers stream).count ∧ taken = due.length ∧ taken < 3 := by
    obtain ⟨-, count, below⟩ := follows.running ended
    have same : taken = (after.consumers stream).count := Consumer.taken_of_running ended
    exact ⟨same, same.trans count, same.trans_lt below⟩
  refine ⟨?_, fun info => ?_, follows.bounded, fun unraised => ?_, fun error ended => ?_⟩
  · rw [run_files, StreamFiles.readStream_appendAll files whole _ records, follows.wrote]
  · have none : (after.consumers stream).count = 0 := follows.logs info
    cases ended : (after.consumers stream).stopped with
    | none =>
        obtain ⟨same, all, -⟩ := running ended
        omega
    | some outcome =>
        cases outcome with
        | ok value =>
            obtain ⟨same, three⟩ := finished ended
            omega
        | error error =>
            have one := raised error ended
            have within : taken ≤ due.length := follows.within
            omega
  · have within : taken ≤ due.length := follows.within
    cases ended : (after.consumers stream).stopped with
    | none =>
        obtain ⟨-, all, below⟩ := running ended
        omega
    | some outcome =>
        cases outcome with
        | error error => exact absurd ended (unraised error)
        | ok value =>
            have three := (finished ended).2
            omega
  · obtain ⟨delivery, last, raises⟩ := follows.raised error ended
    refine ⟨delivery, ?_, raises⟩
    rw [raised error ended]
    exact last

end Journal

section Sample
open StreamFiles

def watcher : PositionGuardian where
  router := none

def tickText : List Char := ['\x7b', '"', 'u', '"', ':', ' ', '1', '\x7d']

def listText : List Char := ['[', ']']

/-- The public stream loses its connection over bytes that do not decode, while
the private one is still connecting. -/
def twoStreams : List GatewayOp :=
  [⟨.publicStream, .opened ⟨.ok .none, .ok .none, .ok .none⟩ ⟨0, 0, 0, 0⟩⟩,
    ⟨.publicStream, .frame (some tickText) 0 0⟩,
    ⟨.privateStream, .failed ⟨.runtimeError, "timed out"⟩⟩,
    ⟨.publicStream, .frame none 1 1⟩,
    ⟨.publicStream, .frame (some tickText) 2 2⟩,
    ⟨.publicStream, .opened ⟨.ok .none, .ok .none, .ok .none⟩ ⟨3, 3, 3, 3⟩⟩,
    ⟨.publicStream, .frame (some listText) 3 3⟩,
    ⟨.publicStream, .frame (some tickText) 4 4⟩]

/-- Above INFO, to an importer. -/
def quietImport : GatewayProcess := ⟨false, false⟩

/-- The tick that came between the connections is lost, the list is skipped. -/
theorem journal_gains_messages_reconnected :
    (run (step quietImport sampleFloats (mainArgs watcher "key")) (start noFiles) twoStreams).files.readStream
      sampleFloats "binance_public" = .ok [.dict [("u", .int 1)], .dict [("u", .int 1)]] := by
  have due : messages sampleFloats (eventsOf twoStreams .publicStream) =
      [⟨.dict [("u", .int 1)], 0, 0⟩, ⟨.dict [("u", .int 1)], 4, 4⟩] := by rfl
  obtain ⟨read, -, -, calm, raised⟩ := journal_gains_messages quietImport sampleFloats watcher "key" noFiles
    noFiles_whole twoStreams .publicStream
  have unraised : ∀ error, ((run (step quietImport sampleFloats (mainArgs watcher "key")) (start noFiles)
      twoStreams).consumers .publicStream).stopped ≠ some (.error error) := by
    intro error failed
    obtain ⟨delivery, -, raises⟩ := raised error failed
    cases raises with
    | refused handled => exact absurd handled (by decide)
    | unnamed handled => exact absurd handled (by decide)
    | logged info => cases info
  rw [calm unraised, due] at read
  exact read

end Sample

end Gateway

end CatsPy
