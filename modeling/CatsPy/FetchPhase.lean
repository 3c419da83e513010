import CatsPy.BoundedPool
import CatsPy.JournalStreams
import CatsPy.PayloadFreshness

/-!
# The fetch phase of a cycle

The features of a cycle are built by one task for each configured symbol, five at
a time, over the one response cache. Every task asks for its three payloads in
turn; a request that has to be fetched is answered some time later, the tasks in
any order.
-/
namespace CatsPy
open PythonValues StateRuns BoundedPool

/-- What runs of `_get_cached_payload` once its fetch is answered. -/
def ResponseCache.arrive (cache : ResponseCache) (call : PayloadCall) (now : Datetime)
    (outcome : Except PyError PyValue) : ResponseCache × Except PyError CachedPayload :=
  match outcome with
  | .error e => (cache, .error e)
  | .ok payload =>
      match cache.store call ⟨payload, now⟩ with
      | .error e => (cache, .error e)
      | .ok stored => (stored, .ok ⟨payload, now⟩)

theorem ResponseCache.getCachedPayload_arrive (cache : ResponseCache) (call : PayloadCall) (now : Datetime)
    (outcome : Except PyError PyValue) : cache.getCachedPayload call now outcome =
      match cache.lookup call now with
      | some cached => (cache.count call countHit, .ok cached)
      | none => cache.arrive call now outcome := rfl

/-- Which request a task awaits, made at `now`, with the payloads it has. -/
inductive FetchPhase where
  | coin (now : Datetime)
  | funding (coin : CachedPayload) (now : Datetime)
  | heatmap (coin funding : CachedPayload) (now : Datetime)
  | done (responses : SymbolResponses)

structure FetchTask where
  symbol : String
  phase : FetchPhase

/-- The cache, and the failures journaled so far. -/
structure FetchShared where
  cache : ResponseCache
  errors : List (String × FetchFailure) := []

/-- What the tasks of one cycle share without changing it. -/
structure FetchCycle where
  input : CycleInput
  describe : PyError → FetchFailure
  ttls : CollectorTtls
  requestStats : Option ℕ

/-- The clock readings of a stretch between two awaits: those of the three lookups,
and the fourth for the normalizer. -/
abbrev Clock := ℕ → Datetime

namespace FetchCycle

variable (cycle : FetchCycle)

def coinCall (symbol : String) : PayloadCall := ⟨"coin", symbol, cycle.ttls.coinTtlSeconds, cycle.requestStats⟩

def fundingCall (symbol : String) : PayloadCall :=
  ⟨"funding_rate", baseSymbol symbol, cycle.ttls.fundingTtlSeconds, cycle.requestStats⟩

def heatmapCall (symbol : String) : PayloadCall :=
  ⟨"heatmap_future", baseSymbol symbol, cycle.ttls.heatmapTtlSeconds, cycle.requestStats⟩

/-- The end of a task; a failure is journaled where it happens. -/
def finish (shared : FetchShared) (symbol : String) (responses : SymbolResponses) : FetchShared × FetchTask :=
  match fetchSymbolFeature cycle.input responses cycle.describe symbol with
  | .error failure => ({ shared with errors := shared.errors ++ [(symbol, failure)] }, ⟨symbol, .done responses⟩)
  | .ok _ => (shared, ⟨symbol, .done responses⟩)

def askHeatmap (clock : Clock) (shared : FetchShared) (symbol : String) (coin funding : CachedPayload) :
    FetchShared × FetchTask :=
  match shared.cache.lookup (cycle.heatmapCall symbol) (clock 2) with
  | none => (shared, ⟨symbol, .heatmap coin funding (clock 2)⟩)
  | some heatmap =>
      cycle.finish { shared with cache := shared.cache.count (cycle.heatmapCall symbol) ResponseCache.countHit } symbol
        ⟨.ok coin, .ok funding, .ok heatmap, clock 3⟩

def askFunding (clock : Clock) (shared : FetchShared) (symbol : String) (coin : CachedPayload) :
    FetchShared × FetchTask :=
  match shared.cache.lookup (cycle.fundingCall symbol) (clock 1) with
  | none => (shared, ⟨symbol, .funding coin (clock 1)⟩)
  | some funding =>
      cycle.askHeatmap clock
        { shared with cache := shared.cache.count (cycle.fundingCall symbol) ResponseCache.countHit } symbol coin
        funding

/-- A task from where it got its permit. -/
def askCoin (shared : FetchShared) (symbol : String) (clock : Clock) : FetchShared × FetchTask :=
  match shared.cache.lookup (cycle.coinCall symbol) (clock 0) with
  | none => (shared, ⟨symbol, .coin (clock 0)⟩)
  | some coin =>
      cycle.askFunding clock
        { shared with cache := shared.cache.count (cycle.coinCall symbol) ResponseCache.countHit } symbol coin

/-- A task whose request is answered, up to its next await. -/
def resume (shared : FetchShared) (task : FetchTask) (answer : Except PyError PyValue × Clock) :
    FetchShared × FetchTask :=
  match task.phase with
  | .coin now =>
      match shared.cache.arrive (cycle.coinCall task.symbol) now answer.1 with
      | (cache, .error e) =>
          cycle.finish { shared with cache } task.symbol ⟨.error e, .error e, .error e, answer.2 3⟩
      | (cache, .ok coin) => cycle.askFunding answer.2 { shared with cache } task.symbol coin
  | .funding coin now =>
      match shared.cache.arrive (cycle.fundingCall task.symbol) now answer.1 with
      | (cache, .error e) => cycle.finish { shared with cache } task.symbol ⟨.ok coin, .error e, .error e, answer.2 3⟩
      | (cache, .ok funding) => cycle.askHeatmap answer.2 { shared with cache } task.symbol coin funding
  | .heatmap coin funding now =>
      match shared.cache.arrive (cycle.heatmapCall task.symbol) now answer.1 with
      | (cache, .error e) =>
          cycle.finish { shared with cache } task.symbol ⟨.ok coin, .ok funding, .error e, answer.2 3⟩
      | (cache, .ok heatmap) =>
          cycle.finish { shared with cache } task.symbol ⟨.ok coin, .ok funding, .ok heatmap, answer.2 3⟩
  | .done _ => (shared, task)

/-- How many answers a task can still take. -/
def pending (task : FetchTask) : ℕ :=
  match task.phase with
  | .coin _ => 3
  | .funding _ _ => 2
  | .heatmap _ _ _ => 1
  | .done _ => 0

section Work

theorem pending_finish (shared : FetchShared) (symbol : String) (responses : SymbolResponses) :
    pending (cycle.finish shared symbol responses).2 = 0 := by
  unfold finish
  split <;> rfl

theorem pending_askHeatmap (clock : Clock) (shared : FetchShared) (symbol : String) (coin funding : CachedPayload) :
    pending (cycle.askHeatmap clock shared symbol coin funding).2 ≤ 1 := by
  unfold askHeatmap
  split
  · exact le_rfl
  · rw [pending_finish]
    exact Nat.zero_le 1

theorem pending_askFunding (clock : Clock) (shared : FetchShared) (symbol : String) (coin : CachedPayload) :
    pending (cycle.askFunding clock shared symbol coin).2 ≤ 2 := by
  unfold askFunding
  split
  · exact le_rfl
  · exact (cycle.pending_askHeatmap ..).trans one_le_two

theorem pending_askCoin (shared : FetchShared) (symbol : String) (clock : Clock) :
    pending (cycle.askCoin shared symbol clock).2 ≤ 3 := by
  unfold askCoin
  split
  · exact le_rfl
  · exact (cycle.pending_askFunding ..).trans (by decide)

theorem pending_resume (shared : FetchShared) (task : FetchTask) (answer : Except PyError PyValue × Clock)
    (waits : 0 < pending task) : pending (cycle.resume shared task answer).2 < pending task := by
  obtain ⟨symbol, phase⟩ := task
  cases phase with
  | coin now =>
      simp only [resume]
      split
      · rw [pending_finish]
        exact waits
      · exact Nat.lt_succ_of_le (cycle.pending_askFunding ..)
  | funding coin now =>
      simp only [resume]
      split
      · rw [pending_finish]
        exact waits
      · exact Nat.lt_succ_of_le (cycle.pending_askHeatmap ..)
  | heatmap coin funding now =>
      simp only [resume]
      split <;> rw [pending_finish] <;> exact waits
  | done responses => cases waits

/-- The tasks of a cycle as work of a pool. -/
def work : Work FetchShared String FetchTask Clock (Except PyError PyValue × Clock) where
  start := cycle.askCoin
  resume := cycle.resume
  pending := pending
  cost := 3
  start_pending := cycle.pending_askCoin
  resume_pending := cycle.pending_resume

end Work

/-- The pool of one cycle's tasks, five at a time. -/
def phase (configured : List String) (cache : ResponseCache) (ops : List (Op Clock (Except PyError PyValue × Clock))) :
    Pool FetchShared FetchTask :=
  run (step cycle.work 5 configured) ⟨{ cache }, []⟩ ops

section Endings

theorem done_of_still {configured : List String} {pool : Pool FetchShared FetchTask}
    (still : ∀ op, moves cycle.work 5 configured pool op = false) : configured.length ≤ pool.started.length ∧
      ∀ task ∈ pool.started, ∃ responses, task.phase = .done responses := by
  have unstarted := still (.start fun _ => 0)
  have unanswered := fun index => still (.resume index (.ok .none, fun _ => 0))
  simp only [moves, Option.isSome_eq_false_iff, Option.isNone_iff_eq_none] at unstarted unanswered
  obtain ⟨all, done⟩ := finished_of_still (by decide) unstarted unanswered
  refine ⟨all, fun task listed => ?_⟩
  have none : pending task = 0 := done task listed
  obtain ⟨symbol, phase⟩ := task
  cases phase with
  | done responses => exact ⟨responses, rfl⟩
  | _ => cases none

/-- At most five symbols are on their way at any time; a run moves at most four
times for each symbol, three answers and the start, and where nothing can move any
more every symbol is done: the semaphore never leaves one waiting. -/
theorem fetch_phase_ends (configured : List String) (cache : ResponseCache)
    (ops : List (Op Clock (Except PyError PyValue × Clock))) :
    unfinished cycle.work (cycle.phase configured cache ops) ≤ 5 ∧
      (trace (step cycle.work 5 configured) (moved cycle.work 5 configured) ⟨{ cache }, []⟩ ops).length ≤
        4 * configured.length ∧
      ((∀ op, moves cycle.work 5 configured (cycle.phase configured cache ops) op = false) →
        configured.length ≤ (cycle.phase configured cache ops).started.length ∧
          ∀ task ∈ (cycle.phase configured cache ops).started, ∃ responses, task.phase = .done responses) := by
  refine ⟨run_unfinished cycle.work 5 configured _ ops, ?_, fun still => cycle.done_of_still still⟩
  have bound := run_moves cycle.work 5 configured { cache } ops
  have cost : cycle.work.cost + 1 = 4 := rfl
  rw [cost] at bound
  omega

end Endings

section Handing

variable {invariant : ResponseCache → Prop} {reading : Datetime → Prop} {holds : PayloadCall → CachedPayload → Prop}

/-- What makes `holds` true of every payload handed out: a hit brings such a payload,
and only such payloads are stored. -/
structure Hands (invariant : ResponseCache → Prop) (reading : Datetime → Prop)
    (holds : PayloadCall → CachedPayload → Prop) : Prop where
  hit : ∀ {cache call now cached}, invariant cache → reading now → ResponseCache.lookup cache call now = some cached →
    holds call cached
  counted : ∀ {cache} call change, invariant cache → invariant (ResponseCache.count cache call change)
  stored : ∀ {cache call fetched stored}, invariant cache → holds call fetched →
    ResponseCache.store cache call fetched = .ok stored → invariant stored

/-- It holds of each payload that responses bring. -/
structure HandedOver (holds : PayloadCall → CachedPayload → Prop) (symbol : String) (responses : SymbolResponses) :
    Prop where
  coin : ∀ cached, responses.coin = .ok cached → holds (cycle.coinCall symbol) cached
  funding : ∀ cached, responses.funding = .ok cached → holds (cycle.fundingCall symbol) cached
  heatmap : ∀ cached, responses.heatmap = .ok cached → holds (cycle.heatmapCall symbol) cached

/-- The same for a task on its way, and for when it asked. -/
def Handed (reading : Datetime → Prop) (holds : PayloadCall → CachedPayload → Prop) (symbol : String)
    (task : FetchTask) : Prop :=
  task.symbol = symbol ∧
    match task.phase with
    | .coin now => reading now
    | .funding coin now => holds (cycle.coinCall symbol) coin ∧ reading now
    | .heatmap coin funding now =>
        holds (cycle.coinCall symbol) coin ∧ holds (cycle.fundingCall symbol) funding ∧ reading now
    | .done responses => cycle.HandedOver holds symbol responses

/-- The request a task awaits, and when it was made. -/
def awaited (task : FetchTask) : Option (PayloadCall × Datetime) :=
  match task.phase with
  | .coin now => some (cycle.coinCall task.symbol, now)
  | .funding _ now => some (cycle.fundingCall task.symbol, now)
  | .heatmap _ _ now => some (cycle.heatmapCall task.symbol, now)
  | .done _ => none

/-- The clock is read as `reading` says, and an answer brings what `holds` of the
request it comes for. -/
def Answered (reading : Datetime → Prop) (holds : PayloadCall → CachedPayload → Prop)
    (pool : Pool FetchShared FetchTask) : Op Clock (Except PyError PyValue × Clock) → Prop
  | .start clock => ∀ i, reading (clock i)
  | .resume index answer => (∀ i, reading (answer.2 i)) ∧
      ∀ task call now payload, pool.started[index]? = some task → cycle.awaited task = some (call, now) →
        reading now → answer.1 = .ok payload → holds call ⟨payload, now⟩

theorem of_same {call : PayloadCall} {payload : CachedPayload} (held : holds call payload) :
    ∀ cached, (Except.ok payload : Except PyError CachedPayload) = .ok cached → holds call cached := by
  rintro cached same
  cases same
  exact held

theorem finish_handed {shared : FetchShared} (kept : invariant shared.cache) {symbol : String}
    {responses : SymbolResponses} (handed : cycle.HandedOver holds symbol responses) :
    invariant (cycle.finish shared symbol responses).1.cache ∧
      cycle.Handed reading holds symbol (cycle.finish shared symbol responses).2 := by
  unfold finish
  split <;> exact ⟨kept, rfl, handed⟩

variable (hands : Hands invariant reading holds)

include hands

theorem arrive_handed {cache : ResponseCache} (kept : invariant cache) {call : PayloadCall} {now : Datetime}
    {outcome : Except PyError PyValue} (fetched : ∀ payload, outcome = .ok payload → holds call ⟨payload, now⟩)
    {after : ResponseCache} {result : Except PyError CachedPayload}
    (arrived : cache.arrive call now outcome = (after, result)) :
    invariant after ∧ ∀ cached, result = .ok cached → holds call cached := by
  unfold ResponseCache.arrive at arrived
  cases outcome with
  | error e =>
      cases arrived
      exact ⟨kept, nofun⟩
  | ok payload =>
      dsimp only at arrived
      split at arrived
      · cases arrived
        exact ⟨kept, nofun⟩
      · next stored room =>
        cases arrived
        exact ⟨hands.stored kept (fetched payload rfl) room, of_same (fetched payload rfl)⟩

theorem askHeatmap_handed {shared : FetchShared} (kept : invariant shared.cache) {symbol : String}
    {coin funding : CachedPayload} (first : holds (cycle.coinCall symbol) coin)
    (second : holds (cycle.fundingCall symbol) funding) {clock : Clock} (reads : ∀ i, reading (clock i)) :
    invariant (cycle.askHeatmap clock shared symbol coin funding).1.cache ∧
      cycle.Handed reading holds symbol (cycle.askHeatmap clock shared symbol coin funding).2 := by
  unfold askHeatmap
  split
  · exact ⟨kept, rfl, first, second, reads 2⟩
  · next heatmap hit =>
    have third := hands.hit kept (reads 2) hit
    exact cycle.finish_handed (hands.counted _ _ kept) ⟨of_same first, of_same second, of_same third⟩

theorem askFunding_handed {shared : FetchShared} (kept : invariant shared.cache) {symbol : String}
    {coin : CachedPayload} (first : holds (cycle.coinCall symbol) coin) {clock : Clock}
    (reads : ∀ i, reading (clock i)) :
    invariant (cycle.askFunding clock shared symbol coin).1.cache ∧
      cycle.Handed reading holds symbol (cycle.askFunding clock shared symbol coin).2 := by
  unfold askFunding
  split
  · exact ⟨kept, rfl, first, reads 1⟩
  · next funding hit =>
    have second := hands.hit kept (reads 1) hit
    exact cycle.askHeatmap_handed hands (hands.counted _ _ kept) first second reads

theorem askCoin_handed {shared : FetchShared} (kept : invariant shared.cache) (symbol : String) {clock : Clock}
    (reads : ∀ i, reading (clock i)) :
    invariant (cycle.askCoin shared symbol clock).1.cache ∧
      cycle.Handed reading holds symbol (cycle.askCoin shared symbol clock).2 := by
  unfold askCoin
  split
  · exact ⟨kept, rfl, reads 0⟩
  · next coin hit =>
    have first := hands.hit kept (reads 0) hit
    exact cycle.askFunding_handed hands (hands.counted _ _ kept) first reads

theorem resume_handed {shared : FetchShared} (kept : invariant shared.cache) {symbol : String} {task : FetchTask}
    (handed : cycle.Handed reading holds symbol task) {answer : Except PyError PyValue × Clock}
    (reads : ∀ i, reading (answer.2 i))
    (fetched : ∀ call now payload, cycle.awaited task = some (call, now) → reading now → answer.1 = .ok payload →
      holds call ⟨payload, now⟩) :
    invariant (cycle.resume shared task answer).1.cache ∧
      cycle.Handed reading holds symbol (cycle.resume shared task answer).2 := by
  obtain ⟨_, phase⟩ := task
  obtain ⟨rfl, held⟩ := handed
  cases phase with
  | coin now =>
      have brought := fun payload => fetched _ _ payload rfl held
      simp only [resume]
      split
      · next after e arrived =>
        exact cycle.finish_handed (arrive_handed hands kept brought arrived).1 ⟨nofun, nofun, nofun⟩
      · next after coin arrived =>
        obtain ⟨stored, first⟩ := arrive_handed hands kept brought arrived
        exact cycle.askFunding_handed hands stored (first coin rfl) reads
  | funding coin now =>
      obtain ⟨first, asked⟩ := held
      have brought := fun payload => fetched _ _ payload rfl asked
      simp only [resume]
      split
      · next after e arrived =>
        exact cycle.finish_handed (arrive_handed hands kept brought arrived).1 ⟨of_same first, nofun, nofun⟩
      · next after funding arrived =>
        obtain ⟨stored, second⟩ := arrive_handed hands kept brought arrived
        exact cycle.askHeatmap_handed hands stored first (second funding rfl) reads
  | heatmap coin funding now =>
      obtain ⟨first, second, asked⟩ := held
      have brought := fun payload => fetched _ _ payload rfl asked
      simp only [resume]
      split
      · next after e arrived =>
        exact cycle.finish_handed (arrive_handed hands kept brought arrived).1 ⟨of_same first, of_same second, nofun⟩
      · next after heatmap arrived =>
        obtain ⟨stored, third⟩ := arrive_handed hands kept brought arrived
        exact cycle.finish_handed stored ⟨of_same first, of_same second, of_same (third heatmap rfl)⟩
  | done responses => exact ⟨kept, rfl, held⟩

/-- The rule for what each payload of a phase satisfies. -/
theorem phase_handed (configured : List String) {cache : ResponseCache} (kept : invariant cache)
    (ops : List (Op Clock (Except PyError PyValue × Clock)))
    (answers : Along (step cycle.work 5 configured) (cycle.Answered reading holds) ⟨{ cache }, []⟩ ops) :
    Holds configured (fun shared : FetchShared => invariant shared.cache) (cycle.Handed reading holds)
      (cycle.phase configured cache ops) := by
  refine run_holds (cycle.Answered reading holds) ?_ ?_ _ ops ?_ answers
  · intro pool symbol clock reads kept
    exact cycle.askCoin_handed hands kept symbol reads
  · intro pool symbol task index answer allowed kept waiting handed
    exact cycle.resume_handed hands kept handed allowed.1 fun call now payload =>
      allowed.2 task call now payload (awaiting_some waiting).1
  · exact ⟨kept, fun index task listed => by cases listed⟩

theorem done_handed (configured : List String) {cache : ResponseCache} (kept : invariant cache)
    (ops : List (Op Clock (Except PyError PyValue × Clock)))
    (answers : Along (step cycle.work 5 configured) (cycle.Answered reading holds) ⟨{ cache }, []⟩ ops)
    {index : ℕ} {task : FetchTask} (listed : (cycle.phase configured cache ops).started[index]? = some task) :
    configured[index]? = some task.symbol ∧
      ∀ responses, task.phase = .done responses → cycle.HandedOver holds task.symbol responses := by
  obtain ⟨symbol, item, same, handed⟩ := (cycle.phase_handed hands configured kept ops answers).2 index task listed
  subst same
  refine ⟨item, fun responses done => ?_⟩
  rw [done] at handed
  exact handed

end Handing

theorem phase_symbols (configured : List String) (cache : ResponseCache)
    (ops : List (Op Clock (Except PyError PyValue × Clock))) (index : ℕ) (task : FetchTask)
    (listed : (cycle.phase configured cache ops).started[index]? = some task) :
    configured[index]? = some task.symbol := by
  have any : Hands (fun _ => True) (fun _ => True) fun _ _ => True :=
    ⟨fun _ _ _ => trivial, fun _ _ _ => trivial, fun _ _ _ => trivial⟩
  refine (cycle.done_handed any configured trivial ops (along_of_each _ (fun op _ pool => ?_) _) listed).1
  cases op with
  | start clock => exact fun _ => trivial
  | resume index answer => exact ⟨fun _ => trivial, fun _ _ _ _ _ _ _ _ => trivial⟩

section Owners

variable {answered : String × String → PyValue → Prop} {cache : ResponseCache}

/-- Every payload the cache holds answered a request for its key. -/
def Owned (answered : String × String → PyValue → Prop) (cache : ResponseCache) : Prop :=
  ∀ key cached, cache.entries.get? key = some cached → answered key cached.payload

theorem evict_own (owned : Owned answered cache) {room : ResponseCache} (evicted : cache.evict = .ok room) :
    Owned answered room := by
  unfold ResponseCache.evict at evicted
  split at evicted
  · split at evicted
    · cases evicted
    · next entry _ =>
      cases evicted
      intro key cached stored
      rw [OrderedDict.get?_pop] at stored
      split at stored
      · cases stored
      · exact owned key cached stored
  · cases evicted
    exact owned

theorem count_own (call : PayloadCall) (change : NofxRequestStats → NofxRequestStats)
    (owned : Owned answered cache) : Owned answered (cache.count call change) := by
  intro key cached
  rw [ResponseCache.count_entries]
  exact owned key cached

/-- The payload answered a request for the key of the call. -/
def Answer (answered : String × String → PyValue → Prop) (call : PayloadCall) (cached : CachedPayload) : Prop :=
  answered call.cacheKey cached.payload

theorem owned_hands (answered : String × String → PyValue → Prop) :
    Hands (Owned answered) (fun _ => True) (Answer answered) where
  hit owned _ hit := owned _ _ (ResponseCache.lookup_some hit).1
  counted := count_own
  stored owned answer kept := by
    obtain ⟨room, evicted, kept⟩ := bind_ok kept
    cases kept
    refine count_own _ _ fun key cached found => ?_
    rw [OrderedDict.get?_set] at found
    split at found
    · next same =>
      cases found
      exact same ▸ answer
    · exact evict_own owned evicted key cached found

/-- However the tasks interleave over the one cache, every payload a feature is made
of answered a request for its own symbol, now or when it was cached. -/
theorem payloads_are_own (configured : List String) (owned : Owned answered cache)
    (ops : List (Op Clock (Except PyError PyValue × Clock)))
    (answers : Along (step cycle.work 5 configured) (cycle.Answered (fun _ => True) (Answer answered))
      ⟨{ cache }, []⟩ ops) :
    Owned answered (cycle.phase configured cache ops).shared.cache ∧
      ∀ (index : ℕ) (task : FetchTask), (cycle.phase configured cache ops).started[index]? = some task →
        configured[index]? = some task.symbol ∧
          ∀ responses, task.phase = .done responses → cycle.HandedOver (Answer answered) task.symbol responses := by
  have hands := owned_hands answered
  exact ⟨(cycle.phase_handed hands configured owned ops answers).1, fun index task listed =>
    cycle.done_handed hands configured owned ops answers listed⟩

end Owners

section Ages

/-- Every clock reading is at or after a time. -/
def Clocked (start : Datetime) : Op Clock (Except PyError PyValue × Clock) → Prop
  | .start clock => ∀ i, start ≤ clock i
  | .resume _ answer => ∀ i, start ≤ answer.2 i

/-- Fetched since the start, or younger than the time to live at the start. -/
def Fresh (start : Datetime) (call : PayloadCall) (cached : CachedPayload) : Prop :=
  start ≤ cached.fetchedAt ∨ totalSeconds start cached.fetchedAt < call.ttlSeconds

theorem fresh_hands (start : Datetime) : Hands (fun _ => True) (start ≤ ·) (Fresh start) where
  hit _ reads hit := .inr ((totalSeconds_mono reads _).trans_lt (ResponseCache.lookup_some hit).2)
  counted _ _ _ := trivial
  stored _ _ _ := trivial

theorem Fresh.age_le {start : Datetime} {call : PayloadCall} {cached : CachedPayload} (fresh : Fresh start call cached)
    {limit : ℚ} (nonneg : 0 ≤ limit) (within : (call.ttlSeconds : ℚ) ≤ limit) :
    totalSeconds start cached.fetchedAt ≤ limit := by
  rcases fresh with later | young
  · have age := totalSeconds_anti later start
    have none : totalSeconds start start = 0 := by simp [totalSeconds]
    exact (age.trans_eq none).trans nonneg
  · exact (young.trans_le within).le

theorem HandedOver.ages {start : Datetime} {symbol : String} {responses : SymbolResponses}
    (handed : cycle.HandedOver (Fresh start) symbol responses) {limit : ℚ} (nonneg : 0 ≤ limit)
    (coin : (cycle.ttls.coinTtlSeconds : ℚ) ≤ limit) (funding : (cycle.ttls.fundingTtlSeconds : ℚ) ≤ limit)
    (heatmap : (cycle.ttls.heatmapTtlSeconds : ℚ) ≤ limit) :
    ∀ t ∈ responses.fetchTimes, totalSeconds start t ≤ limit := by
  intro t listed
  obtain ⟨response, brought, same⟩ := List.mem_filterMap.mp listed
  cases response with
  | error e => cases same
  | ok cached =>
      cases same
      simp only [List.mem_cons, List.not_mem_nil, or_false] at brought
      rcases brought with first | second | third
      · exact (handed.coin cached first.symm).age_le nonneg coin
      · exact (handed.funding cached second.symm).age_le nonneg funding
      · exact (handed.heatmap cached third.symm).age_le nonneg heatmap

/-- Whatever was cached and however the tasks interleave, each payload of a task that
is done was fetched within the cycle or was younger than its own time to live when
the cycle started; so where no time to live is beyond a limit, no payload is. -/
theorem payloads_are_fresh (configured : List String) (cache : ResponseCache)
    (ops : List (Op Clock (Except PyError PyValue × Clock)))
    (clocked : ∀ op ∈ ops, Clocked cycle.input.startedAt op) :
    ∀ (index : ℕ) (task : FetchTask), (cycle.phase configured cache ops).started[index]? = some task →
      ∀ responses, task.phase = .done responses →
        cycle.HandedOver (Fresh cycle.input.startedAt) task.symbol responses ∧
          ∀ limit : ℚ, 0 ≤ limit → (cycle.ttls.coinTtlSeconds : ℚ) ≤ limit →
            (cycle.ttls.fundingTtlSeconds : ℚ) ≤ limit → (cycle.ttls.heatmapTtlSeconds : ℚ) ≤ limit →
              ∀ t ∈ responses.fetchTimes, totalSeconds cycle.input.startedAt t ≤ limit := by
  have answers : Along (step cycle.work 5 configured)
      (cycle.Answered (cycle.input.startedAt ≤ ·) (Fresh cycle.input.startedAt)) ⟨{ cache }, []⟩ ops := by
    refine along_of_each _ (fun op listed pool => ?_) _
    have reads := clocked op listed
    cases op with
    | start clock => exact reads
    | resume index answer => exact ⟨reads, fun _ _ _ _ _ _ asked _ => .inl asked⟩
  intro index task listed responses done
  have handed := (cycle.done_handed (fresh_hands _) configured trivial ops answers listed).2 responses done
  exact ⟨handed, fun limit nonneg coin funding heatmap => handed.ages cycle nonneg coin funding heatmap⟩

end Ages

section Alone

variable (answers : PayloadCall → Except PyError PyValue) (clock : Clock)

/-- The task takes the answer to what it awaits. -/
def answerAwaited (moved : FetchShared × FetchTask) : FetchShared × FetchTask :=
  cycle.resume moved.1 moved.2 (((cycle.awaited moved.2).elim (.ok .none) fun asked => answers asked.1), clock)

theorem finish_answered (shared : FetchShared) (symbol : String) (responses : SymbolResponses) (n : ℕ) :
    (cycle.answerAwaited answers clock)^[n] (cycle.finish shared symbol responses) =
      cycle.finish shared symbol responses := by
  refine Function.iterate_fixed ?_ n
  unfold finish
  split <;> rfl

theorem askHeatmap_answered {shared : FetchShared} {symbol : String} {coin funding : CachedPayload}
    {after : ResponseCache} {result : Except PyError CachedPayload}
    (asked : shared.cache.getCachedPayload (cycle.heatmapCall symbol) (clock 2) (answers (cycle.heatmapCall symbol)) =
      (after, result)) (n : ℕ) :
    (cycle.answerAwaited answers clock)^[n + 1] (cycle.askHeatmap clock shared symbol coin funding) =
      cycle.finish { shared with cache := after } symbol ⟨.ok coin, .ok funding, result, clock 3⟩ := by
  rw [ResponseCache.getCachedPayload_arrive] at asked
  unfold askHeatmap
  cases looked : shared.cache.lookup (cycle.heatmapCall symbol) (clock 2) with
  | some heatmap =>
      rw [looked] at asked
      cases asked
      exact cycle.finish_answered answers clock _ symbol _ _
  | none =>
      rw [looked] at asked
      dsimp only at asked
      rw [Function.iterate_succ_apply]
      cases result <;> simp only [answerAwaited, resume, awaited, Option.elim, asked] <;>
        exact cycle.finish_answered answers clock _ symbol _ _

theorem askFunding_raised {shared : FetchShared} {symbol : String} {coin : CachedPayload} {after : ResponseCache}
    {e : PyError} (asked : shared.cache.getCachedPayload (cycle.fundingCall symbol) (clock 1)
      (answers (cycle.fundingCall symbol)) = (after, .error e)) (n : ℕ) :
    (cycle.answerAwaited answers clock)^[n + 1] (cycle.askFunding clock shared symbol coin) =
      cycle.finish { shared with cache := after } symbol ⟨.ok coin, .error e, .error e, clock 3⟩ := by
  rw [ResponseCache.getCachedPayload_arrive] at asked
  unfold askFunding
  cases looked : shared.cache.lookup (cycle.fundingCall symbol) (clock 1) with
  | some funding =>
      rw [looked] at asked
      cases asked
  | none =>
      rw [looked] at asked
      dsimp only at asked
      rw [Function.iterate_succ_apply]
      simp only [answerAwaited, resume, awaited, Option.elim, asked]
      exact cycle.finish_answered answers clock _ symbol _ _

theorem askFunding_moves {shared : FetchShared} {symbol : String} {coin funding : CachedPayload}
    {after : ResponseCache} (asked : shared.cache.getCachedPayload (cycle.fundingCall symbol) (clock 1)
      (answers (cycle.fundingCall symbol)) = (after, .ok funding)) (n : ℕ) :
    ∃ m, (cycle.answerAwaited answers clock)^[n + 2] (cycle.askFunding clock shared symbol coin) =
      (cycle.answerAwaited answers clock)^[m + 1]
        (cycle.askHeatmap clock { shared with cache := after } symbol coin funding) := by
  rw [ResponseCache.getCachedPayload_arrive] at asked
  unfold askFunding
  cases looked : shared.cache.lookup (cycle.fundingCall symbol) (clock 1) with
  | some funding =>
      rw [looked] at asked
      cases asked
      exact ⟨n + 1, rfl⟩
  | none =>
      rw [looked] at asked
      dsimp only at asked
      refine ⟨n, ?_⟩
      rw [Function.iterate_succ_apply]
      simp only [answerAwaited, resume, awaited, Option.elim, asked]

theorem askCoin_raised {shared : FetchShared} {symbol : String} {after : ResponseCache} {e : PyError}
    (asked : shared.cache.getCachedPayload (cycle.coinCall symbol) (clock 0) (answers (cycle.coinCall symbol)) =
      (after, .error e)) (n : ℕ) :
    (cycle.answerAwaited answers clock)^[n + 1] (cycle.askCoin shared symbol clock) =
      cycle.finish { shared with cache := after } symbol ⟨.error e, .error e, .error e, clock 3⟩ := by
  rw [ResponseCache.getCachedPayload_arrive] at asked
  unfold askCoin
  cases looked : shared.cache.lookup (cycle.coinCall symbol) (clock 0) with
  | some coin =>
      rw [looked] at asked
      cases asked
  | none =>
      rw [looked] at asked
      dsimp only at asked
      rw [Function.iterate_succ_apply]
      simp only [answerAwaited, resume, awaited, Option.elim, asked]
      exact cycle.finish_answered answers clock _ symbol _ _

theorem askCoin_moves {shared : FetchShared} {symbol : String} {coin : CachedPayload} {after : ResponseCache}
    (asked : shared.cache.getCachedPayload (cycle.coinCall symbol) (clock 0) (answers (cycle.coinCall symbol)) =
      (after, .ok coin)) (n : ℕ) :
    ∃ m, (cycle.answerAwaited answers clock)^[n + 3] (cycle.askCoin shared symbol clock) =
      (cycle.answerAwaited answers clock)^[m + 2]
        (cycle.askFunding clock { shared with cache := after } symbol coin) := by
  rw [ResponseCache.getCachedPayload_arrive] at asked
  unfold askCoin
  cases looked : shared.cache.lookup (cycle.coinCall symbol) (clock 0) with
  | some coin =>
      rw [looked] at asked
      cases asked
      exact ⟨n + 1, rfl⟩
  | none =>
      rw [looked] at asked
      dsimp only at asked
      refine ⟨n, ?_⟩
      rw [Function.iterate_succ_apply]
      simp only [answerAwaited, resume, awaited, Option.elim, asked]

/-- A task whose requests are answered with nothing in between makes the requests of
`requestPayloads`. -/
theorem task_alone (shared : FetchShared) (symbol : String) :
    (cycle.answerAwaited answers clock)^[3] (cycle.askCoin shared symbol clock) =
      let asked := requestPayloads shared.cache cycle.ttls symbol cycle.requestStats
        ⟨clock 0, answers (cycle.coinCall symbol)⟩ ⟨clock 1, answers (cycle.fundingCall symbol)⟩
        ⟨clock 2, answers (cycle.heatmapCall symbol)⟩ (clock 3)
      cycle.finish { shared with cache := asked.1 } symbol asked.2 := by
  have coinCalled : (⟨"coin", symbol, cycle.ttls.coinTtlSeconds, cycle.requestStats⟩ : PayloadCall) =
      cycle.coinCall symbol := rfl
  have fundingCalled : (⟨"funding_rate", baseSymbol symbol, cycle.ttls.fundingTtlSeconds, cycle.requestStats⟩ :
      PayloadCall) = cycle.fundingCall symbol := rfl
  have heatmapCalled : (⟨"heatmap_future", baseSymbol symbol, cycle.ttls.heatmapTtlSeconds, cycle.requestStats⟩ :
      PayloadCall) = cycle.heatmapCall symbol := rfl
  simp only [requestPayloads, coinCalled, fundingCalled, heatmapCalled]
  cases first : shared.cache.getCachedPayload (cycle.coinCall symbol) (clock 0)
      (answers (cycle.coinCall symbol)) with
  | mk after coin =>
      cases coin with
      | error e => exact cycle.askCoin_raised answers clock first 2
      | ok coin =>
          obtain ⟨m, moved⟩ := cycle.askCoin_moves answers clock first 0
          rw [moved]
          dsimp only
          cases second : after.getCachedPayload (cycle.fundingCall symbol) (clock 1)
              (answers (cycle.fundingCall symbol)) with
          | mk later funding =>
              cases funding with
              | error e => exact cycle.askFunding_raised answers clock second (m + 1)
              | ok funding =>
                  obtain ⟨n, moved⟩ : ∃ n, (cycle.answerAwaited answers clock)^[m + 2]
                      (cycle.askFunding clock { shared with cache := after } symbol coin) =
                        (cycle.answerAwaited answers clock)^[n + 1]
                          (cycle.askHeatmap clock { shared with cache := later } symbol coin funding) :=
                    cycle.askFunding_moves answers clock second m
                  rw [moved]
                  exact cycle.askHeatmap_answered answers clock rfl n

end Alone

section Counters

/-- How many payloads a task was handed. -/
def received (task : FetchTask) : ℕ :=
  match task.phase with
  | .coin _ => 0
  | .funding _ _ => 1
  | .heatmap _ _ _ => 2
  | .done responses => [responses.coin, responses.funding, responses.heatmap].countP (·.isOk)

/-- What the stats object of the cycle counts altogether. -/
def counted (id : ℕ) (cache : ResponseCache) : ℕ := (cache.stats id).cacheHits + (cache.stats id).apiRequests

variable {id : ℕ}

theorem counted_hit (cache : ResponseCache) (call : PayloadCall) (own : call.requestStats = some id) :
    counted id (cache.count call ResponseCache.countHit) = counted id cache + 1 := by
  rw [counted, ResponseCache.count_stats, if_pos own]
  exact Nat.succ_add _ _

theorem evict_stats {cache room : ResponseCache} (evicted : cache.evict = .ok room) : room.stats = cache.stats := by
  unfold ResponseCache.evict at evicted
  split at evicted
  · split at evicted <;> cases evicted
    rfl
  · cases evicted
    rfl

theorem counted_arrive {cache after : ResponseCache} (call : PayloadCall) (own : call.requestStats = some id)
    {now : Datetime} {outcome : Except PyError PyValue} {result : Except PyError CachedPayload}
    (arrived : cache.arrive call now outcome = (after, result)) :
    counted id after = counted id cache + if result.isOk then 1 else 0 := by
  unfold ResponseCache.arrive at arrived
  cases outcome with
  | error e =>
      cases arrived
      rfl
  | ok payload =>
      dsimp only at arrived
      split at arrived
      · cases arrived
        rfl
      · next stored kept =>
        cases arrived
        obtain ⟨room, evicted, kept⟩ := bind_ok kept
        cases kept
        rw [counted, ResponseCache.count_stats, if_pos own, evict_stats evicted]
        exact (Nat.add_assoc _ _ _).symm

theorem finish_counted (id : ℕ) (shared : FetchShared) (symbol : String) (responses : SymbolResponses) :
    counted id (cycle.finish shared symbol responses).1.cache = counted id shared.cache ∧
      received (cycle.finish shared symbol responses).2 = received ⟨symbol, .done responses⟩ := by
  unfold finish
  split <;> exact ⟨rfl, rfl⟩

variable {cycle} (own : cycle.requestStats = some id)

include own

theorem askHeatmap_counted (clock : Clock) (shared : FetchShared) (symbol : String) (coin funding : CachedPayload) :
    counted id (cycle.askHeatmap clock shared symbol coin funding).1.cache + 2 =
      counted id shared.cache + received (cycle.askHeatmap clock shared symbol coin funding).2 := by
  unfold askHeatmap
  split
  · rfl
  · rw [(cycle.finish_counted id _ _ _).1, (cycle.finish_counted id _ _ _).2,
      counted_hit _ (cycle.heatmapCall symbol) own]
    rfl

theorem askFunding_counted (clock : Clock) (shared : FetchShared) (symbol : String) (coin : CachedPayload) :
    counted id (cycle.askFunding clock shared symbol coin).1.cache + 1 =
      counted id shared.cache + received (cycle.askFunding clock shared symbol coin).2 := by
  unfold askFunding
  split
  · rfl
  · have later := askHeatmap_counted own clock
      { shared with cache := shared.cache.count (cycle.fundingCall symbol) ResponseCache.countHit } symbol coin ‹_›
    rw [counted_hit _ (cycle.fundingCall symbol) own] at later
    omega

theorem askCoin_counted (shared : FetchShared) (symbol : String) (clock : Clock) :
    counted id (cycle.askCoin shared symbol clock).1.cache =
      counted id shared.cache + received (cycle.askCoin shared symbol clock).2 := by
  unfold askCoin
  split
  · rfl
  · have later := askFunding_counted own clock
      { shared with cache := shared.cache.count (cycle.coinCall symbol) ResponseCache.countHit } symbol ‹_›
    rw [counted_hit _ (cycle.coinCall symbol) own] at later
    omega

theorem resume_counted (shared : FetchShared) (task : FetchTask) (answer : Except PyError PyValue × Clock) :
    counted id (cycle.resume shared task answer).1.cache + received task =
      counted id shared.cache + received (cycle.resume shared task answer).2 := by
  obtain ⟨symbol, phase⟩ := task
  cases phase with
  | coin now =>
      simp only [resume]
      split
      · next after e arrived =>
        have kept := counted_arrive (cycle.coinCall symbol) own arrived
        rw [(cycle.finish_counted id _ _ _).1, (cycle.finish_counted id _ _ _).2, kept]
        rfl
      · next after coin arrived =>
        have kept := counted_arrive (cycle.coinCall symbol) own arrived
        have later := askFunding_counted own answer.2 { shared with cache := after } symbol coin
        have one : (Except.ok coin : Except PyError CachedPayload).isOk = true := rfl
        rw [one, if_pos rfl] at kept
        have none : received ⟨symbol, .coin now⟩ = 0 := rfl
        dsimp only at later
        omega
  | funding coin now =>
      simp only [resume]
      split
      · next after e arrived =>
        have kept := counted_arrive (cycle.fundingCall symbol) own arrived
        rw [(cycle.finish_counted id _ _ _).1, (cycle.finish_counted id _ _ _).2, kept]
        rfl
      · next after funding arrived =>
        have kept := counted_arrive (cycle.fundingCall symbol) own arrived
        have later := askHeatmap_counted own answer.2 { shared with cache := after } symbol coin funding
        have one : (Except.ok funding : Except PyError CachedPayload).isOk = true := rfl
        rw [one, if_pos rfl] at kept
        have first : received ⟨symbol, .funding coin now⟩ = 1 := rfl
        dsimp only at later
        omega
  | heatmap coin funding now =>
      simp only [resume]
      split
      · next after e arrived =>
        have kept := counted_arrive (cycle.heatmapCall symbol) own arrived
        rw [(cycle.finish_counted id _ _ _).1, (cycle.finish_counted id _ _ _).2, kept]
        rfl
      · next after heatmap arrived =>
        have kept := counted_arrive (cycle.heatmapCall symbol) own arrived
        rw [(cycle.finish_counted id _ _ _).1, (cycle.finish_counted id _ _ _).2, kept]
        rfl
  | done responses => rfl

/-- The counters of the cycle's stats object add up to what its tasks were handed. -/
theorem requests_counted (configured : List String) (cache : ResponseCache)
    (ops : List (Op Clock (Except PyError PyValue × Clock))) :
    counted id (cycle.phase configured cache ops).shared.cache =
      counted id cache + ((cycle.phase configured cache ops).started.map received).sum :=
  run_total cycle.work 5 configured (fun shared : FetchShared => counted id shared.cache) received
    (askCoin_counted own) (fun shared task answer _ => resume_counted own shared task answer) { cache } ops

end Counters

section Refinement

/-- What a task gave `gather`. -/
def result (task : FetchTask) : Option (Except FetchFailure FeatureVector) :=
  match task.phase with
  | .done responses => some (fetchSymbolFeature cycle.input responses cycle.describe task.symbol)
  | _ => none

/-- The failure a task journaled. -/
def failure (task : FetchTask) : Multiset (String × FetchFailure) :=
  match cycle.result task with
  | some (.error failure) => {(task.symbol, failure)}
  | _ => 0

/-- The loop over what `gather` returned, in the order of the tasks. -/
def gathered (pool : Pool FetchShared FetchTask) : OrderedDict String FeatureVector :=
  pool.started.foldl (fun features task => match cycle.result task with
    | some (.ok feature) => features.set task.symbol feature
    | _ => features) .empty

theorem finish_failure (shared : FetchShared) (symbol : String) (responses : SymbolResponses) :
    ((cycle.finish shared symbol responses).1.errors : Multiset (String × FetchFailure)) =
      (shared.errors : Multiset (String × FetchFailure)) + cycle.failure (cycle.finish shared symbol responses).2 := by
  unfold finish
  split
  · next failed =>
    simp only [failure, result, failed]
    exact (Multiset.coe_add _ _).symm
  · next built =>
    simp only [failure, result, built]
    exact (add_zero _).symm

theorem askHeatmap_failure (clock : Clock) (shared : FetchShared) (symbol : String) (coin funding : CachedPayload) :
    ((cycle.askHeatmap clock shared symbol coin funding).1.errors : Multiset (String × FetchFailure)) =
      shared.errors + cycle.failure (cycle.askHeatmap clock shared symbol coin funding).2 := by
  unfold askHeatmap
  split
  · exact (add_zero _).symm
  · exact cycle.finish_failure _ symbol _

theorem askFunding_failure (clock : Clock) (shared : FetchShared) (symbol : String) (coin : CachedPayload) :
    ((cycle.askFunding clock shared symbol coin).1.errors : Multiset (String × FetchFailure)) =
      shared.errors + cycle.failure (cycle.askFunding clock shared symbol coin).2 := by
  unfold askFunding
  split
  · exact (add_zero _).symm
  · exact cycle.askHeatmap_failure clock _ symbol coin _

theorem askCoin_failure (shared : FetchShared) (symbol : String) (clock : Clock) :
    ((cycle.askCoin shared symbol clock).1.errors : Multiset (String × FetchFailure)) =
      shared.errors + cycle.failure (cycle.askCoin shared symbol clock).2 := by
  unfold askCoin
  split
  · exact (add_zero _).symm
  · exact cycle.askFunding_failure clock _ symbol _

theorem resume_failure (shared : FetchShared) (task : FetchTask) (answer : Except PyError PyValue × Clock)
    (waits : 0 < pending task) :
    ((cycle.resume shared task answer).1.errors : Multiset (String × FetchFailure)) + cycle.failure task =
      shared.errors + cycle.failure (cycle.resume shared task answer).2 := by
  obtain ⟨symbol, phase⟩ := task
  cases phase with
  | coin now =>
      simp only [resume]
      split
      · exact (add_zero _).trans (cycle.finish_failure _ symbol _)
      · exact (add_zero _).trans (cycle.askFunding_failure answer.2 _ symbol _)
  | funding coin now =>
      simp only [resume]
      split
      · exact (add_zero _).trans (cycle.finish_failure _ symbol _)
      · exact (add_zero _).trans (cycle.askHeatmap_failure answer.2 _ symbol coin _)
  | heatmap coin funding now =>
      simp only [resume]
      split <;> exact (add_zero _).trans (cycle.finish_failure _ symbol _)
  | done responses => cases waits

/-- The journal holds the failures of the finished tasks, each once. -/
theorem failures_journaled (configured : List String) (cache : ResponseCache)
    (ops : List (Op Clock (Except PyError PyValue × Clock))) :
    ((cycle.phase configured cache ops).shared.errors : Multiset (String × FetchFailure)) =
      ((cycle.phase configured cache ops).started.map cycle.failure).sum := by
  have counted := run_total cycle.work 5 configured
    (fun shared : FetchShared => (shared.errors : Multiset (String × FetchFailure))) cycle.failure
    cycle.askCoin_failure (fun shared task answer waits => cycle.resume_failure shared task answer waits) { cache } ops
  exact counted.trans (zero_add _)

/-- What the sequential loop of the cycle model journals for one symbol. -/
def failureRecord (service : DecisionRuntimeService) (input : CycleInput) (item : String × ℕ) : List PyValue :=
  match input.built item.2 item.1 with
  | .error failure => [DecisionRuntimeService.cycleErrorRecord service input item.1 failure]
  | .ok _ => []

theorem record_stream (state : RuntimeState) (stream : String) (payload : PyValue) :
    (state.record stream payload).journal.readStream stream = state.journal.readStream stream ++ [payload] := by
  cases paper : state.paper <;> simp [RuntimeState.record, RuntimeState.journal, paper, readStream_record]

theorem collectFeatures_failures (service : DecisionRuntimeService) (input : CycleInput) (state : RuntimeState) :
    (service.collectFeatures input state).1.journal.readStream "decision_cycle_error" =
      state.journal.readStream "decision_cycle_error" ++
        service.configuredSymbols.zipIdx.flatMap (failureRecord service input) := by
  have loop : ∀ (items : List (String × ℕ)) (acc : RuntimeState × OrderedDict String FeatureVector),
      (items.foldl (service.collectFeature input) acc).1.journal.readStream "decision_cycle_error" =
        acc.1.journal.readStream "decision_cycle_error" ++ items.flatMap (failureRecord service input) := by
    intro items
    induction items with
    | nil => exact fun acc => (List.append_nil _).symm
    | cons item rest ih =>
        intro acc
        rw [List.foldl_cons, ih, List.flatMap_cons]
        unfold DecisionRuntimeService.collectFeature failureRecord
        cases input.built item.2 item.1 with
        | error failure => rw [record_stream, List.append_assoc]
        | ok feature => rfl
  exact loop service.configuredSymbols.zipIdx (state, .empty)

variable {cycle}

/-- The tasks of a finished phase, by what they were handed. -/
theorem started_eq {configured : List String} {pool : Pool FetchShared FetchTask}
    (all : configured.length ≤ pool.started.length)
    (own : ∀ (index : ℕ) (task : FetchTask), pool.started[index]? = some task → configured[index]? = some task.symbol)
    (responses : ℕ → String → SymbolResponses)
    (told : ∀ (index : ℕ) (task : FetchTask), pool.started[index]? = some task →
      task.phase = .done (responses index task.symbol)) :
    pool.started = configured.zipIdx.map fun item => ⟨item.1, .done (responses item.2 item.1)⟩ := by
  refine List.ext_getElem? fun index => ?_
  rw [List.getElem?_map, List.getElem?_zipIdx]
  cases listed : pool.started[index]? with
  | none =>
      have beyond : configured.length ≤ index := all.trans (List.getElem?_eq_none_iff.mp listed)
      rw [List.getElem?_eq_none beyond]
      rfl
  | some task =>
      obtain ⟨symbol, phase⟩ := task
      have same := told index _ listed
      dsimp only at same
      rw [own index _ listed, same]
      simp

theorem gathered_eq {configured : List String} {responses : ℕ → String → SymbolResponses}
    {pool : Pool FetchShared FetchTask}
    (same : pool.started = configured.zipIdx.map fun item => ⟨item.1, .done (responses item.2 item.1)⟩)
    (service : DecisionRuntimeService) (state : RuntimeState) : cycle.gathered pool =
      (configured.zipIdx.foldl (service.collectFeature (cycle.input.fed responses cycle.describe))
        (state, .empty)).2 := by
  have loop : ∀ (items : List (String × ℕ)) (acc : RuntimeState × OrderedDict String FeatureVector),
      (items.map fun item => (⟨item.1, .done (responses item.2 item.1)⟩ : FetchTask)).foldl (fun features task =>
          match cycle.result task with
          | some (.ok feature) => features.set task.symbol feature
          | _ => features) acc.2 =
        (items.foldl (service.collectFeature (cycle.input.fed responses cycle.describe)) acc).2 := by
    intro items
    induction items with
    | nil => exact fun acc => rfl
    | cons item rest ih =>
        intro acc
        rw [List.map_cons, List.foldl_cons, List.foldl_cons, ← ih]
        simp only [result, DecisionRuntimeService.collectFeature, CycleInput.fed]
        cases fetchSymbolFeature cycle.input (responses item.2 item.1) cycle.describe item.1 <;> rfl
  rw [gathered, same]
  exact loop configured.zipIdx (state, .empty)

theorem failures_eq (service : DecisionRuntimeService) (responses : ℕ → String → SymbolResponses)
    (items : List (String × ℕ)) :
    (((items.map fun item => (⟨item.1, .done (responses item.2 item.1)⟩ : FetchTask)).map cycle.failure).sum).map
        (fun failed => DecisionRuntimeService.cycleErrorRecord service cycle.input failed.1 failed.2) =
      (items.flatMap (failureRecord service (cycle.input.fed responses cycle.describe)) : Multiset PyValue) := by
  induction items with
  | nil => rfl
  | cons item rest ih =>
      rw [List.map_cons, List.map_cons, List.sum_cons, Multiset.map_add, ih, List.flatMap_cons, ← Multiset.coe_add]
      congr 1
      simp only [failure, result, failureRecord, CycleInput.fed]
      cases fetchSymbolFeature cycle.input (responses item.2 item.1) cycle.describe item.1 <;> rfl

/-- Where nothing can move any more, the concurrent phase left the features that the
sequential loop of the cycle model builds from what the tasks were handed, and it
journaled the failures that loop journals, if not in its order. -/
theorem fetch_phase_refines (service : DecisionRuntimeService) (cache : ResponseCache)
    (ops : List (Op Clock (Except PyError PyValue × Clock))) (state : RuntimeState)
    {responses : ℕ → String → SymbolResponses}
    (still : ∀ op, moves cycle.work 5 service.configuredSymbols (cycle.phase service.configuredSymbols cache ops) op =
      false)
    (told : ∀ (index : ℕ) (task : FetchTask),
      (cycle.phase service.configuredSymbols cache ops).started[index]? = some task →
        ∀ handed, task.phase = .done handed → responses index task.symbol = handed) :
    cycle.gathered (cycle.phase service.configuredSymbols cache ops) =
        (service.collectFeatures (cycle.input.fed responses cycle.describe) state).2 ∧
      ∃ records, (service.collectFeatures (cycle.input.fed responses cycle.describe) state).1.journal.readStream
            "decision_cycle_error" = state.journal.readStream "decision_cycle_error" ++ records ∧
        records.Perm ((cycle.phase service.configuredSymbols cache ops).shared.errors.map fun failed =>
          DecisionRuntimeService.cycleErrorRecord service cycle.input failed.1 failed.2) := by
  obtain ⟨all, done⟩ := cycle.done_of_still still
  have same := started_eq all (cycle.phase_symbols service.configuredSymbols cache ops) responses
    (fun index task listed => by
      obtain ⟨handed, phase⟩ := done task (List.mem_of_getElem? listed)
      rw [phase, told index task listed handed phase])
  refine ⟨gathered_eq same service state, _, collectFeatures_failures service _ state, ?_⟩
  have journaled := cycle.failures_journaled service.configuredSymbols cache ops
  rw [same] at journaled
  rw [← Multiset.coe_eq_coe, ← failures_eq, ← Multiset.map_coe, journaled]

end Refinement

section Samples
open DecisionRuntimeService

def sampleCycle : FetchCycle where
  input := trendingInput
  describe error := ⟨error.message, "", ""⟩
  ttls := ⟨30, 30, 30⟩
  requestStats := some 0

/-- Two of the symbols share their base symbol. -/
def sampleService : DecisionRuntimeService := liveMicroService ["BTCUSDT", "BTC", "ETHUSDT"]

/-- A payload that names the request it answers. -/
def answerTo (key : String × String) : PyValue :=
  .dict [("data", .dict [("price", .int 100), ("source", .str (key.1 ++ "/" ++ key.2))])]

/-- One coin was fetched ten seconds before the cycle. -/
def warmCache : ResponseCache where
  entries := .ofList [(("coin", "BTCUSDT"), ⟨answerTo ("coin", "BTCUSDT"), -10000000⟩)]

def lost : PyError := ⟨.transport, "connection lost"⟩

/-- The first task has its coin from the cache. The second asks for the same funding
while the first awaits it, and has the heatmap that the first one fetched. The third
loses its coin in between. -/
def interleaved : List (Op Clock (Except PyError PyValue × Clock)) :=
  [.start fun _ => 0, .start fun _ => 1000, .start fun _ => 2000,
    .resume 1 (.ok (answerTo ("coin", "BTC")), fun _ => 3000),
    .resume 2 (.error lost, fun _ => 4000),
    .resume 0 (.ok (answerTo ("funding_rate", "BTC")), fun _ => 5000),
    .resume 0 (.ok (answerTo ("heatmap_future", "BTC")), fun _ => 6000),
    .resume 1 (.ok (answerTo ("funding_rate", "BTC")), fun _ => 7000)]

def btcResponses : SymbolResponses where
  coin := .ok ⟨answerTo ("coin", "BTCUSDT"), -10000000⟩
  funding := .ok ⟨answerTo ("funding_rate", "BTC"), 0⟩
  heatmap := .ok ⟨answerTo ("heatmap_future", "BTC"), 5000⟩
  normalizedAt := 6000

def bareResponses : SymbolResponses where
  coin := .ok ⟨answerTo ("coin", "BTC"), 1000⟩
  funding := .ok ⟨answerTo ("funding_rate", "BTC"), 3000⟩
  heatmap := .ok ⟨answerTo ("heatmap_future", "BTC"), 5000⟩
  normalizedAt := 7000

def lostResponses : SymbolResponses := ⟨.error lost, .error lost, .error lost, 4000⟩

theorem interleaved_started :
    (sampleCycle.phase sampleService.configuredSymbols warmCache interleaved).started =
      [⟨"BTCUSDT", .done btcResponses⟩, ⟨"BTC", .done bareResponses⟩, ⟨"ETHUSDT", .done lostResponses⟩] := by
  with_unfolding_all rfl

theorem interleaved_listed (index : ℕ) :
    (sampleCycle.phase sampleService.configuredSymbols warmCache interleaved).started[index]? =
      [(⟨"BTCUSDT", .done btcResponses⟩ : FetchTask), ⟨"BTC", .done bareResponses⟩,
        ⟨"ETHUSDT", .done lostResponses⟩][index]? := by rw [interleaved_started]

/-- The key of the request a task awaits after the first operations. -/
def asked (n index : ℕ) : Option (String × String) :=
  ((sampleCycle.phase sampleService.configuredSymbols warmCache (interleaved.take n)).started[index]?.bind
    sampleCycle.awaited).map fun request => request.1.cacheKey

theorem answered_of {n index : ℕ} {key : String × String} (asks : asked n index = some key) (clock : Clock) :
    sampleCycle.Answered (fun _ => True) (Answer fun key payload => payload = answerTo key)
      (sampleCycle.phase sampleService.configuredSymbols warmCache (interleaved.take n))
      (.resume index (.ok (answerTo key), clock)) := by
  refine ⟨fun _ => trivial, ?_⟩
  intro task call now payload listed awaits _ same
  cases same
  simp only [asked, listed, Option.bind_some, awaits, Option.map_some, Option.some.injEq] at asks
  exact congrArg answerTo asks.symm

theorem interleaved_asked : asked 3 1 = some ("coin", "BTC") ∧ asked 5 0 = some ("funding_rate", "BTC") ∧
    asked 6 0 = some ("heatmap_future", "BTC") ∧ asked 7 1 = some ("funding_rate", "BTC") := by
  decide +kernel

/-- An answer in the run is the one to the request its task awaits. -/
theorem interleaved_answers : Along (step sampleCycle.work 5 sampleService.configuredSymbols)
    (sampleCycle.Answered (fun _ => True) (Answer fun key payload => payload = answerTo key))
    ⟨{ cache := warmCache }, []⟩ interleaved := by
  obtain ⟨coin, first, heatmap, second⟩ := interleaved_asked
  refine ⟨fun _ => trivial, fun _ => trivial, fun _ => trivial, answered_of coin _, ⟨fun _ => trivial, ?_⟩,
    answered_of first _, answered_of heatmap _, answered_of second _, trivial⟩
  intro task call now payload _ _ _ raised
  cases raised

/-- The task of the bare symbol was handed the payloads of its base symbol. -/
theorem payloads_are_own_shared :
    sampleCycle.HandedOver (Answer fun key payload => payload = answerTo key) "BTCUSDT" btcResponses ∧
      sampleCycle.HandedOver (Answer fun key payload => payload = answerTo key) "BTC" bareResponses := by
  have owned : Owned (fun key payload => payload = answerTo key) warmCache := by
    intro key cached stored
    cases List.mem_singleton.mp ((OrderedDict.get?_eq_some_iff _ _ _).mp stored)
    rfl
  have own := (sampleCycle.payloads_are_own sampleService.configuredSymbols owned interleaved
    interleaved_answers).2
  exact ⟨(own 0 _ (interleaved_listed 0)).2 btcResponses rfl,
    (own 1 _ (interleaved_listed 1)).2 bareResponses rfl⟩

/-- The coin from before the cycle is ten seconds old, with thirty to live. -/
theorem payloads_are_fresh_shared :
    sampleCycle.HandedOver (Fresh sampleCycle.input.startedAt) "BTCUSDT" btcResponses ∧
      totalSeconds sampleCycle.input.startedAt (-10000000) ≤ 30 := by
  have clocked : ∀ op ∈ interleaved, Clocked sampleCycle.input.startedAt op := by
    simp only [interleaved, List.forall_mem_cons]
    refine ⟨?_, ?_, ?_, ?_, ?_, ?_, ?_, ?_, List.forall_mem_nil _⟩ <;>
      intro i <;> simp [sampleCycle, trendingInput]
  have fresh := sampleCycle.payloads_are_fresh sampleService.configuredSymbols warmCache interleaved clocked 0 _
    (interleaved_listed 0) btcResponses rfl
  have fetched : (-10000000 : Datetime) ∈ btcResponses.fetchTimes := List.mem_cons_self
  exact ⟨fresh.1, fresh.2 30 (by norm_num) (by norm_num [sampleCycle]) (by norm_num [sampleCycle])
    (by norm_num [sampleCycle]) _ fetched⟩

/-- Four requests and two hits, for the three payloads each of two tasks. -/
theorem requests_counted_shared :
    (sampleCycle.phase sampleService.configuredSymbols warmCache interleaved).shared.cache.stats 0 = ⟨4, 2⟩ ∧
      counted 0 (sampleCycle.phase sampleService.configuredSymbols warmCache interleaved).shared.cache =
        counted 0 warmCache + 6 := by
  have own : sampleCycle.requestStats = some 0 := rfl
  have handed : ((sampleCycle.phase sampleService.configuredSymbols warmCache interleaved).started.map received).sum =
      6 := by
    rw [interleaved_started]
    rfl
  refine ⟨by decide +kernel, ?_⟩
  rw [← handed]
  exact requests_counted own sampleService.configuredSymbols warmCache interleaved

/-- Two features, and one failure in the journal. -/
theorem fetch_phase_refines_shared :
    let pool := sampleCycle.phase sampleService.configuredSymbols warmCache interleaved
    let loop := sampleService.collectFeatures (sampleCycle.input.fed
      (fun index _ => [btcResponses, bareResponses, lostResponses].getD index lostResponses) sampleCycle.describe) {}
    (sampleCycle.gathered pool).keys = ["BTCUSDT", "BTC"] ∧
      pool.shared.errors.map Prod.fst = ["ETHUSDT"] ∧ sampleCycle.gathered pool = loop.2 ∧
      ∃ records, loop.1.journal.readStream "decision_cycle_error" = [] ++ records ∧
        records.Perm (pool.shared.errors.map fun failed =>
          DecisionRuntimeService.cycleErrorRecord sampleService sampleCycle.input failed.1 failed.2) := by
  refine ⟨by decide +kernel, by decide +kernel,
    sampleCycle.fetch_phase_refines sampleService warmCache interleaved {} ?_ ?_⟩
  · intro op
    cases op with
    | start clock =>
        simp only [moves, next, interleaved_started]
        split <;> rfl
    | resume index answer =>
        simp only [moves, awaiting, interleaved_listed]
        rcases index with _ | _ | _ | index <;> rfl
  · intro index task listed handed done
    rw [interleaved_listed] at listed
    rcases index with _ | _ | _ | index
    · cases listed
      cases done
      rfl
    · cases listed
      cases done
      rfl
    · cases listed
      cases done
      rfl
    · cases listed

end Samples

end FetchCycle

end CatsPy
