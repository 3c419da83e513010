import CatsPy.NofxFeatures
import CatsPy.StateRuns

/-!
# Response cache

`_get_cached_payload` as two atomic steps, the lookup and the store after the
awaited fetch, and any number of its calls interleaved in any order. The clock
reading of a lookup, the order of the resumptions and what each fetch brings
are arguments.
-/
namespace CatsPy
open PythonValues StateRuns

structure NofxRequestStats where
  apiRequests : ℕ := 0
  cacheHits : ℕ := 0
  deriving DecidableEq

/-- The arguments of one call; its stats object is a reference. -/
structure PayloadCall where
  endpoint : String
  key : String
  ttlSeconds : ℤ
  requestStats : Option ℕ := none

def PayloadCall.cacheKey (call : PayloadCall) : String × String := (call.endpoint, call.key)

/-- The cache of the runtime service, and the stats objects calls refer to. -/
structure ResponseCache where
  entries : OrderedDict (String × String) CachedPayload := .empty
  maxSize : ℕ := 256
  stats : ℕ → NofxRequestStats := fun _ => {}

namespace ResponseCache

/-- `if request_stats is not None: ...`. -/
def count (cache : ResponseCache) (call : PayloadCall)
    (change : NofxRequestStats → NofxRequestStats) : ResponseCache :=
  match call.requestStats with
  | none => cache
  | some id => { cache with stats := fun other =>
      if other = id then change (cache.stats id) else cache.stats other }

def countHit (stats : NofxRequestStats) : NofxRequestStats := { stats with cacheHits := stats.cacheHits + 1 }

def countRequest (stats : NofxRequestStats) : NofxRequestStats :=
  { stats with apiRequests := stats.apiRequests + 1 }

/-- The cached payload, if it is there and younger than the call allows. -/
def lookup (cache : ResponseCache) (call : PayloadCall) (now : Datetime) : Option CachedPayload :=
  (cache.entries.get? call.cacheKey).filter fun cached =>
    0 < max call.ttlSeconds 0 ∧ totalSeconds now cached.fetchedAt < call.ttlSeconds

/-- `min(..., key=fetched_at)`: the first of the oldest entries. -/
def oldest : List ((String × String) × CachedPayload) → Option ((String × String) × CachedPayload)
  | [] => none
  | entry :: rest => some (rest.foldl (fun found other =>
      if other.2.fetchedAt < found.2.fetchedAt then other else found) entry)

/-- A full cache gives up its oldest entry, also when the new key is stored. -/
def evict (cache : ResponseCache) : Except PyError ResponseCache :=
  if cache.maxSize ≤ cache.entries.keys.length then
    match oldest cache.entries.entries with
    | none => .error ⟨.valueError, "min() iterable argument is empty"⟩
    | some entry => .ok { cache with entries := cache.entries.pop entry.1 }
  else .ok cache

/-- What runs after the awaited fetch. -/
def store (cache : ResponseCache) (call : PayloadCall) (fetched : CachedPayload) :
    Except PyError ResponseCache := do
  let room ← cache.evict
  return count { room with entries := room.entries.set call.cacheKey fetched } call countRequest

/-- A call that nothing interleaves with; `outcome` is what its fetch brings. -/
def getCachedPayload (cache : ResponseCache) (call : PayloadCall) (now : Datetime)
    (outcome : Except PyError PyValue) : ResponseCache × Except PyError CachedPayload :=
  match cache.lookup call now with
  | some cached => (cache.count call countHit, .ok cached)
  | none =>
      match outcome with
      | .error e => (cache, .error e)
      | .ok payload =>
          match cache.store call ⟨payload, now⟩ with
          | .error e => (cache, .error e)
          | .ok stored => (stored, .ok ⟨payload, now⟩)

end ResponseCache

section Interleaving

/-- A call that missed at `now` and awaits its fetch. -/
structure PendingFetch where
  call : PayloadCall
  now : Datetime

structure CacheRun where
  cache : ResponseCache
  pending : List PendingFetch := []

inductive CacheOp where
  | lookup (call : PayloadCall) (now : Datetime)
  | resume (index : ℕ) (outcome : Except PyError PyValue)

inductive PayloadReturn where
  | hit (call : PayloadCall) (now : Datetime) (cached : CachedPayload)
  | fetched (call : PayloadCall) (cached : CachedPayload)
  | raised (call : PayloadCall) (error : PyError)

namespace CacheRun

/-- One atomic step, and the call it completes, if any. -/
def advance (s : CacheRun) : CacheOp → CacheRun × Option PayloadReturn
  | .lookup call now =>
      match s.cache.lookup call now with
      | some cached => ({ s with cache := s.cache.count call ResponseCache.countHit }, some (.hit call now cached))
      | none => ({ s with pending := s.pending ++ [⟨call, now⟩] }, none)
  | .resume index outcome =>
      match s.pending[index]? with
      | none => (s, none)
      | some fetch =>
          let rest := s.pending.eraseIdx index
          match outcome with
          | .error e => ({ s with pending := rest }, some (.raised fetch.call e))
          | .ok payload =>
              match s.cache.store fetch.call ⟨payload, fetch.now⟩ with
              | .error e => ({ s with pending := rest }, some (.raised fetch.call e))
              | .ok cache => ({ cache, pending := rest }, some (.fetched fetch.call ⟨payload, fetch.now⟩))

def step (s : CacheRun) (op : CacheOp) : CacheRun := (s.advance op).1

def returns (s : CacheRun) (op : CacheOp) : List PayloadReturn := (s.advance op).2.toList

end CacheRun

end Interleaving

section Steps

namespace ResponseCache

theorem mem_oldest {l : List ((String × String) × CachedPayload)} {entry : (String × String) × CachedPayload}
    (found : oldest l = some entry) : entry ∈ l := by
  cases l with
  | nil => cases found
  | cons first rest =>
      have picked : ∀ (later : List ((String × String) × CachedPayload)) best, best ∈ first :: rest →
          (∀ e ∈ later, e ∈ first :: rest) →
          later.foldl (fun found other =>
            if other.2.fetchedAt < found.2.fetchedAt then other else found) best ∈ first :: rest := by
        intro later
        induction later with
        | nil => intro best member _; exact member
        | cons e later ih =>
            intro best member all
            rw [List.foldl_cons]
            refine ih _ ?_ fun other listed => all other (List.mem_cons_of_mem _ listed)
            split
            · exact all e List.mem_cons_self
            · exact member
      rw [oldest, Option.some.injEq] at found
      rw [← found]
      exact picked rest first List.mem_cons_self fun e listed => List.mem_cons_of_mem _ listed

/-- Eviction of a cache that may hold something always makes room for one entry. -/
theorem evict_room {cache : ResponseCache} (sized : 1 ≤ cache.maxSize)
    (bounded : cache.entries.keys.length ≤ cache.maxSize) :
    ∃ entries, cache.evict = .ok { cache with entries } ∧ entries.keys.length + 1 ≤ cache.maxSize := by
  by_cases full : cache.maxSize ≤ cache.entries.keys.length
  · cases found : oldest cache.entries.entries with
    | none =>
        have nothing : cache.entries.entries = [] := by
          cases listed : cache.entries.entries with
          | nil => rfl
          | cons first rest => simp [listed, oldest] at found
        simp only [OrderedDict.keys, nothing, List.map_nil, List.length_nil] at full
        omega
    | some entry =>
        refine ⟨cache.entries.pop entry.1, by simp only [evict, if_pos full, found], ?_⟩
        have shorter := OrderedDict.length_keys_pop_lt (mem_oldest found)
        omega
  · exact ⟨cache.entries, by simp only [evict, if_neg full], by omega⟩

theorem store_spec {cache : ResponseCache} (sized : 1 ≤ cache.maxSize)
    (bounded : cache.entries.keys.length ≤ cache.maxSize) (call : PayloadCall) (fetched : CachedPayload) :
    ∃ entries, cache.store call fetched = .ok (count { cache with entries } call countRequest) ∧
      entries.keys.length ≤ cache.maxSize := by
  obtain ⟨entries, evicted, room⟩ := evict_room sized bounded
  refine ⟨entries.set call.cacheKey fetched, ?_, ?_⟩
  · rw [store, evicted]
    rfl
  · exact (OrderedDict.length_keys_set_le _ _ _).trans room

@[simp] theorem count_entries (cache : ResponseCache) (call : PayloadCall)
    (change : NofxRequestStats → NofxRequestStats) : (cache.count call change).entries = cache.entries := by
  unfold count
  split <;> rfl

@[simp] theorem count_maxSize (cache : ResponseCache) (call : PayloadCall)
    (change : NofxRequestStats → NofxRequestStats) : (cache.count call change).maxSize = cache.maxSize := by
  unfold count
  split <;> rfl

theorem count_stats (cache : ResponseCache) (call : PayloadCall)
    (change : NofxRequestStats → NofxRequestStats) (id : ℕ) :
    (cache.count call change).stats id =
      if call.requestStats = some id then change (cache.stats id) else cache.stats id := by
  unfold count
  cases own : call.requestStats with
  | none => simp
  | some other =>
      by_cases same : id = other
      · simp [same]
      · simp [same, Ne.symm same]

theorem lookup_some {cache : ResponseCache} {call : PayloadCall} {now : Datetime} {cached : CachedPayload}
    (hit : cache.lookup call now = some cached) :
    cache.entries.get? call.cacheKey = some cached ∧ totalSeconds now cached.fetchedAt < call.ttlSeconds := by
  obtain ⟨stored, young⟩ := Option.filter_eq_some_iff.mp hit
  exact ⟨stored, (of_decide_eq_true young).2⟩

def Bounded (cache : ResponseCache) : Prop :=
  1 ≤ cache.maxSize ∧ cache.entries.keys.length ≤ cache.maxSize

end ResponseCache

namespace CacheRun
open ResponseCache

/-- What a step did to the cache and the counters, by what it returned. -/
def Accounted (before after : ResponseCache) : Option PayloadReturn → Prop
  | none => after = before
  | some (.raised _ _) => after = before
  | some (.hit call now cached) => after = before.count call countHit ∧
      before.entries.get? call.cacheKey = some cached ∧ totalSeconds now cached.fetchedAt < call.ttlSeconds
  | some (.fetched call _) => ∃ entries, after = count { before with entries } call countRequest ∧
      entries.keys.length ≤ before.maxSize

/-- The step lemma: every step of a bounded cache is accounted for. -/
theorem advance_accounted {s : CacheRun} (bounded : s.cache.Bounded) (op : CacheOp) :
    Accounted s.cache (s.advance op).1.cache (s.advance op).2 := by
  cases op with
  | lookup call now =>
      cases looked : s.cache.lookup call now with
      | none => simp only [advance, looked, Accounted]
      | some cached =>
          simp only [advance, looked, Accounted, true_and]
          exact lookup_some looked
  | resume index outcome =>
      cases waiting : s.pending[index]? with
      | none => simp only [advance, waiting, Accounted]
      | some fetch =>
          cases outcome with
          | error e => simp only [advance, waiting, Accounted]
          | ok payload =>
              obtain ⟨entries, stored, room⟩ := store_spec bounded.1 bounded.2 fetch.call ⟨payload, fetch.now⟩
              simp only [advance, waiting, stored, Accounted]
              exact ⟨entries, rfl, room⟩

theorem step_bounded {s : CacheRun} (op : CacheOp) (bounded : s.cache.Bounded) :
    (s.step op).cache.Bounded ∧ (s.step op).cache.maxSize = s.cache.maxSize := by
  have accounted := advance_accounted bounded op
  unfold step
  generalize (s.advance op).2 = returned at accounted
  generalize (s.advance op).1.cache = after at accounted ⊢
  cases returned with
  | none => rw [show after = s.cache from accounted]; exact ⟨bounded, rfl⟩
  | some completed =>
      cases completed with
      | raised call error => rw [show after = s.cache from accounted]; exact ⟨bounded, rfl⟩
      | hit call now cached =>
          obtain ⟨rfl, -, -⟩ := accounted
          simpa [Bounded] using bounded
      | fetched call cached =>
          obtain ⟨entries, rfl, room⟩ := accounted
          simpa [Bounded, bounded.1] using room

/-- A call that nothing interleaves with is its lookup and its resumption. -/
theorem getCachedPayload_eq (cache : ResponseCache) (call : PayloadCall) (now : Datetime)
    (outcome : Except PyError PyValue) :
    (run step { cache } [.lookup call now, .resume 0 outcome]).cache =
      (cache.getCachedPayload call now outcome).1 := by
  simp only [run_cons, run_nil, step, getCachedPayload]
  cases looked : cache.lookup call now with
  | some cached => simp [advance, looked]
  | none =>
      cases outcome with
      | error e => simp [advance, looked]
      | ok payload =>
          cases stored : cache.store call ⟨payload, now⟩ with
          | error e => simp [advance, looked, stored]
          | ok after => simp [advance, looked, stored]

/-- One of the two counters went up, by one. -/
def CountedOnce (before after : NofxRequestStats) : Prop :=
  after.cacheHits = before.cacheHits + 1 ∧ after.apiRequests = before.apiRequests ∨
    after.cacheHits = before.cacheHits ∧ after.apiRequests = before.apiRequests + 1

def PayloadReturn.Successful (call : PayloadCall) : PayloadReturn → Prop
  | .hit c _ _ => c = call
  | .fetched c _ => c = call
  | .raised _ _ => False

/-- One step keeps the bound and tells the truth about what it returns. -/
structure HonestStep (s : CacheRun) (op : CacheOp) : Prop where
  bounded : (s.step op).cache.entries.keys.length ≤ s.cache.maxSize
  young : ∀ call now cached, .hit call now cached ∈ s.returns op →
    s.cache.entries.get? call.cacheKey = some cached ∧ totalSeconds now cached.fetchedAt < call.ttlSeconds
  counted : ∀ returned ∈ s.returns op, ∀ call, PayloadReturn.Successful call returned →
    ∀ id, call.requestStats = some id → CountedOnce (s.cache.stats id) ((s.step op).cache.stats id)
  raised : ∀ call e, .raised call e ∈ s.returns op → (s.step op).cache = s.cache
  silent : s.returns op = [] → (s.step op).cache = s.cache

theorem honest_of_bounded {s : CacheRun} (op : CacheOp) (bounded : s.cache.Bounded) : HonestStep s op := by
  have accounted := advance_accounted bounded op
  have kept := step_bounded op bounded
  have room : (s.step op).cache.entries.keys.length ≤ s.cache.maxSize := kept.2 ▸ kept.1.2
  cases completed : (s.advance op).2 with
  | none =>
      have nothing : s.returns op = [] := by rw [returns, completed]; rfl
      rw [completed] at accounted
      exact ⟨room, by simp [nothing], by simp [nothing], by simp [nothing], fun _ => accounted⟩
  | some returned =>
      have only : s.returns op = [returned] := by rw [returns, completed]; rfl
      rw [completed] at accounted
      cases returned with
      | raised call e =>
          refine ⟨room, by simp [only], ?_, fun _ _ _ => accounted, by simp [only]⟩
          intro returned member other successful
          obtain rfl := List.mem_singleton.mp (only ▸ member)
          cases successful
      | hit call now cached =>
          obtain ⟨left, stored, young⟩ := accounted
          refine ⟨room, ?_, ?_, by simp [only], by simp [only]⟩
          · intro other instant payload member
            obtain ⟨rfl, rfl, rfl⟩ : other = call ∧ instant = now ∧ payload = cached := by
              simpa [only] using member
            exact ⟨stored, young⟩
          · intro returned member other successful id named
            obtain rfl := List.mem_singleton.mp (only ▸ member)
            obtain rfl : call = other := successful
            rw [step, left, count_stats, if_pos named]
            exact .inl ⟨rfl, rfl⟩
      | fetched call cached =>
          obtain ⟨entries, left, -⟩ := accounted
          refine ⟨room, by simp [only], ?_, by simp [only], by simp [only]⟩
          intro returned member other successful id named
          obtain rfl := List.mem_singleton.mp (only ▸ member)
          obtain rfl : call = other := successful
          rw [step, left, count_stats, if_pos named]
          exact .inr ⟨rfl, rfl⟩

/-- Every step of every interleaving is honest, and the cache stays bounded. -/
theorem response_cache_honest (s : CacheRun) (ops : List CacheOp) (sized : 1 ≤ s.cache.maxSize)
    (bounded : s.cache.entries.keys.length ≤ s.cache.maxSize) :
    Along step HonestStep s ops ∧
      (run step s ops).cache.entries.keys.length ≤ s.cache.maxSize := by
  induction ops generalizing s with
  | nil => exact ⟨trivial, bounded⟩
  | cons op rest ih =>
      obtain ⟨kept, same⟩ := step_bounded op ⟨sized, bounded⟩
      obtain ⟨later, final⟩ := ih (s.step op) kept.1 kept.2
      exact ⟨⟨honest_of_bounded op ⟨sized, bounded⟩, later⟩, same ▸ final⟩

/-- Two calls miss on a cache of one entry, and resume in the other order. -/
theorem response_cache_honest_small :
    (run step { cache := { maxSize := 1 } }
      [.lookup ⟨"coin", "BTCUSDT", 30, some 0⟩ 0, .lookup ⟨"coin", "ETHUSDT", 30, some 0⟩ 0,
        .resume 1 (.ok (.dict [])), .resume 0 (.ok (.dict []))]).cache.entries.keys.length ≤ 1 :=
  (response_cache_honest { cache := { maxSize := 1 } } _ (by decide) (by decide)).2

end CacheRun

end Steps

end CatsPy
