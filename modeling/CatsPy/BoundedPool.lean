import CatsPy.StateRuns
import Mathlib.Algebra.BigOperators.Group.List.Basic
import Mathlib.Tactic.Abel

/-!
# A pool of so many permits

Tasks over one shared state, started in the order of a list, no more than so many
unfinished at a time, each resumed by answers in any order. How many can be
unfinished, when nothing can move any more, how long a run can be, and the rule
for what every task keeps.
-/
namespace BoundedPool
open StateRuns

variable {σ α τ κ ι : Type*}

/-- How a task starts, what an answer does to it, and how many answers it can
still take: none once it is finished, and at most `cost` when it starts. -/
structure Work (σ α τ κ ι : Type*) where
  start : σ → α → κ → σ × τ
  resume : σ → τ → ι → σ × τ
  pending : τ → ℕ
  cost : ℕ
  start_pending : ∀ s a input, pending (start s a input).2 ≤ cost
  resume_pending : ∀ s task input, 0 < pending task → pending (resume s task input).2 < pending task

/-- The tasks started so far, in the order of the items. -/
structure Pool (σ τ : Type*) where
  shared : σ
  started : List τ := []

inductive Op (κ ι : Type*) where
  | start (input : κ)
  | resume (index : ℕ) (input : ι)

variable (work : Work σ α τ κ ι) (permits : ℕ) (items : List α)

def unfinished (pool : Pool σ τ) : ℕ := pool.started.countP fun task => 0 < work.pending task

/-- The next item, if there is a permit for it. -/
def next (pool : Pool σ τ) : Option α :=
  if unfinished work pool < permits then items[pool.started.length]? else none

/-- The unfinished task at an index. -/
def awaiting (pool : Pool σ τ) (index : ℕ) : Option τ :=
  (pool.started[index]?).filter fun task => 0 < work.pending task

def step (pool : Pool σ τ) : Op κ ι → Pool σ τ
  | .start input =>
      match next work permits items pool with
      | none => pool
      | some a => ⟨(work.start pool.shared a input).1, pool.started ++ [(work.start pool.shared a input).2]⟩
  | .resume index input =>
      match awaiting work pool index with
      | none => pool
      | some task => ⟨(work.resume pool.shared task input).1,
          pool.started.set index (work.resume pool.shared task input).2⟩

/-- Whether an operation moves anything. -/
def moves (pool : Pool σ τ) : Op κ ι → Bool
  | .start _ => (next work permits items pool).isSome
  | .resume index _ => (awaiting work pool index).isSome

/-- Every item is started and every task finished. -/
def Finished (pool : Pool σ τ) : Prop :=
  items.length ≤ pool.started.length ∧ ∀ task ∈ pool.started, work.pending task = 0

/-- The answers and starts a pool can still take. -/
def left (pool : Pool σ τ) : ℕ :=
  (pool.started.map work.pending).sum + (items.length - pool.started.length) * (work.cost + 1)

section Steps

variable {work permits items} {pool : Pool σ τ}

theorem awaiting_some {index : ℕ} {task : τ} (found : awaiting work pool index = some task) :
    pool.started[index]? = some task ∧ 0 < work.pending task := by
  obtain ⟨listed, unfinished⟩ := Option.filter_eq_some_iff.mp found
  exact ⟨listed, of_decide_eq_true unfinished⟩

theorem next_some {a : α} (found : next work permits items pool = some a) :
    unfinished work pool < permits ∧ items[pool.started.length]? = some a := by
  unfold next at found
  split at found
  · next free => exact ⟨free, found⟩
  · cases found

theorem countP_set_le {l : List τ} {index : ℕ} {task after : τ} (listed : l[index]? = some task)
    {p : τ → Bool} (held : p task = true) : (l.set index after).countP p ≤ l.countP p := by
  obtain ⟨within, rfl⟩ := List.getElem?_eq_some_iff.mp listed
  have counted : 0 < l.countP p := List.countP_pos_iff.mpr ⟨l[index], List.getElem_mem within, held⟩
  rw [List.countP_set within, if_pos held]
  split <;> omega

theorem sum_set_add {M : Type*} [AddCommMonoid M] (f : τ → M) {l : List τ} {index : ℕ} {task : τ}
    (listed : l[index]? = some task) (after : τ) :
    ((l.set index after).map f).sum + f task = (l.map f).sum + f after := by
  induction l generalizing index with
  | nil => cases listed
  | cons first rest ih =>
      cases index with
      | zero =>
          cases listed
          rw [List.set_cons_zero, List.map_cons, List.map_cons, List.sum_cons, List.sum_cons]
          abel
      | succ index =>
          rw [List.set_cons_succ, List.map_cons, List.map_cons, List.sum_cons, List.sum_cons, add_assoc, ih listed,
            add_assoc]

theorem step_unfinished (op : Op κ ι) (within : unfinished work pool ≤ permits) :
    unfinished work (step work permits items pool op) ≤ permits := by
  cases op with
  | start input =>
      rw [step]
      cases found : next work permits items pool with
      | none => exact within
      | some a =>
          have free := (next_some found).1
          simp only [unfinished, List.countP_append, List.countP_singleton] at free ⊢
          split <;> omega
  | resume index input =>
      rw [step]
      cases found : awaiting work pool index with
      | none => exact within
      | some task =>
          obtain ⟨listed, waits⟩ := awaiting_some found
          exact (countP_set_le listed (decide_eq_true waits)).trans within

theorem step_still {op : Op κ ι} (still : moves work permits items pool op = false) :
    step work permits items pool op = pool := by
  cases op with
  | start input =>
      have none : next work permits items pool = none := by simpa [moves] using still
      rw [step, none]
  | resume index input =>
      have none : awaiting work pool index = none := by simpa [moves] using still
      rw [step, none]

theorem step_left {op : Op κ ι} (moved : moves work permits items pool op = true) :
    left work items (step work permits items pool op) < left work items pool := by
  cases op with
  | start input =>
      obtain ⟨a, found⟩ := Option.isSome_iff_exists.mp moved
      have here : pool.started.length < items.length := (List.getElem?_eq_some_iff.mp (next_some found).2).1
      have cheap := work.start_pending pool.shared a input
      obtain ⟨rest, counted⟩ := Nat.exists_eq_add_of_lt here
      simp only [step, found, left, List.map_append, List.sum_append, List.length_append, counted,
        List.map_singleton, List.sum_singleton, List.length_singleton]
      have later : pool.started.length + rest + 1 - (pool.started.length + 1) = rest := by omega
      have now : pool.started.length + rest + 1 - pool.started.length = rest + 1 := by omega
      rw [later, now, Nat.add_mul]
      omega
  | resume index input =>
      obtain ⟨task, found⟩ := Option.isSome_iff_exists.mp moved
      obtain ⟨listed, waits⟩ := awaiting_some found
      have less := work.resume_pending pool.shared task input waits
      have moved := sum_set_add work.pending listed (work.resume pool.shared task input).2
      simp only [step, found, left, List.length_set]
      omega

/-- Nothing can move only when everything is done. -/
theorem finished_of_still (some_permit : 0 < permits) (unstarted : next work permits items pool = none)
    (unanswered : ∀ index, awaiting work pool index = none) : Finished work items pool := by
  have done : ∀ task ∈ pool.started, work.pending task = 0 := by
    intro task listed
    obtain ⟨index, found⟩ := List.mem_iff_getElem?.mp listed
    have none := unanswered index
    simpa [awaiting, found] using none
  refine ⟨?_, done⟩
  have idle : unfinished work pool = 0 := by
    rw [unfinished, List.countP_eq_zero]
    intro task listed
    simp [done task listed]
  rw [next, idle, if_pos some_permit] at unstarted
  exact List.getElem?_eq_none_iff.mp unstarted

end Steps

section Runs

theorem run_unfinished (s : σ) (ops : List (Op κ ι)) :
    unfinished work (run (step work permits items) ⟨s, []⟩ ops) ≤ permits :=
  run_invariant (step work permits items) (fun pool => unfinished work pool ≤ permits)
    (fun _ op within => step_unfinished op within) ⟨s, []⟩ ops (Nat.zero_le _)

/-- The operations of a run that moved something. -/
def moved (pool : Pool σ τ) (op : Op κ ι) : List Unit := if moves work permits items pool op then [()] else []

/-- So many moves, and no more, get a run to its end. -/
theorem run_moves (s : σ) (ops : List (Op κ ι)) :
    (trace (step work permits items) (moved work permits items) ⟨s, []⟩ ops).length +
      left work items (run (step work permits items) ⟨s, []⟩ ops) ≤ items.length * (work.cost + 1) := by
  have counted := run_history (step work permits items) (moved work permits items)
    (fun _ pool history => history.length + left work items pool ≤ items.length * (work.cost + 1))
    (fun pool op _ history within => by
      rw [moved, List.length_append]
      cases effect : moves work permits items pool op with
      | true =>
          have less := step_left effect
          simp only [if_true, List.length_singleton]
          omega
      | false =>
          rw [step_still effect]
          simpa using within)
    ⟨s, []⟩ ops [] (by simp [left])
  simpa using counted

/-- What holds of the shared state and of each task beside its item. -/
def Holds (invariant : σ → Prop) (holds : α → τ → Prop) (pool : Pool σ τ) : Prop :=
  invariant pool.shared ∧
    ∀ (index : ℕ) (task : τ), pool.started[index]? = some task → ∃ a, items[index]? = some a ∧ holds a task

variable {work permits items} {invariant : σ → Prop} {holds : α → τ → Prop}

theorem step_holds {pool : Pool σ τ} (op : Op κ ι) (held : Holds items invariant holds pool)
    (starts : ∀ a input, op = .start input → invariant (work.start pool.shared a input).1 ∧
      holds a (work.start pool.shared a input).2)
    (keeps : ∀ a task index input, op = .resume index input → awaiting work pool index = some task → holds a task →
      invariant (work.resume pool.shared task input).1 ∧ holds a (work.resume pool.shared task input).2) :
    Holds items invariant holds (step work permits items pool op) := by
  obtain ⟨shared, tasks⟩ := held
  cases op with
  | start input =>
      rw [step]
      cases found : next work permits items pool with
      | none => exact ⟨shared, tasks⟩
      | some a =>
          obtain ⟨here, begun⟩ := starts a input rfl
          refine ⟨here, fun index task listed => ?_⟩
          rcases lt_or_ge index pool.started.length with earlier | later
          · exact tasks index task (by rwa [List.getElem?_append_left earlier] at listed)
          · rw [List.getElem?_append_right later, List.getElem?_singleton] at listed
            split at listed
            · next first =>
              cases listed
              have same : index = pool.started.length := by omega
              exact ⟨a, same ▸ (next_some found).2, begun⟩
            · cases listed
  | resume index input =>
      rw [step]
      cases found : awaiting work pool index with
      | none => exact ⟨shared, tasks⟩
      | some task =>
          obtain ⟨a, item, held⟩ := tasks index task (awaiting_some found).1
          obtain ⟨here, resumed⟩ := keeps a task index input rfl found held
          refine ⟨here, fun other after listed => ?_⟩
          rw [List.getElem?_set] at listed
          split at listed
          · next same =>
            split at listed
            · cases listed
              exact ⟨a, same ▸ item, resumed⟩
            · cases listed
          · exact tasks other after listed

/-- What every start gives and every answer keeps, under a condition on the steps,
holds after a run whose steps all meet it. -/
theorem run_holds (allowed : Pool σ τ → Op κ ι → Prop)
    (starts : ∀ pool a input, allowed pool (.start input) → invariant pool.shared →
      invariant (work.start pool.shared a input).1 ∧ holds a (work.start pool.shared a input).2)
    (keeps : ∀ pool a task index input, allowed pool (.resume index input) → invariant pool.shared →
      awaiting work pool index = some task → holds a task →
      invariant (work.resume pool.shared task input).1 ∧ holds a (work.resume pool.shared task input).2)
    (pool : Pool σ τ) (ops : List (Op κ ι)) (start : Holds items invariant holds pool)
    (along : Along (step work permits items) allowed pool ops) :
    Holds items invariant holds (run (step work permits items) pool ops) := by
  induction ops generalizing pool with
  | nil => exact start
  | cons op rest ih =>
      refine ih _ (step_holds op start ?_ ?_) along.2
      · rintro a input rfl
        exact starts pool a input along.1 start.1
      · rintro a task index input rfl
        exact keeps pool a task index input along.1 start.1

end Runs

section Totals

variable {M : Type*} [AddCancelCommMonoid M] (total : σ → M) (share : τ → M)

/-- A total of the shared state that every start and every answer moves by what it
moves the share of its task is the sum of the shares. -/
theorem run_total
    (starts : ∀ s a input, total (work.start s a input).1 = total s + share (work.start s a input).2)
    (keeps : ∀ s task input, 0 < work.pending task →
      total (work.resume s task input).1 + share task = total s + share (work.resume s task input).2)
    (s : σ) (ops : List (Op κ ι)) :
    total (run (step work permits items) ⟨s, []⟩ ops).shared =
      total s + ((run (step work permits items) ⟨s, []⟩ ops).started.map share).sum := by
  refine run_invariant (step work permits items)
    (fun pool => total pool.shared = total s + (pool.started.map share).sum) (fun pool op same => ?_)
    ⟨s, []⟩ ops (by simp)
  cases op with
  | start input =>
      rw [step]
      cases next work permits items pool with
      | none => exact same
      | some a =>
          simp only [starts, same, List.map_append, List.sum_append, List.map_singleton, List.sum_singleton]
          abel
  | resume index input =>
      rw [step]
      cases found : awaiting work pool index with
      | none => exact same
      | some task =>
          obtain ⟨listed, waits⟩ := awaiting_some found
          have moved := sum_set_add share listed (work.resume pool.shared task input).2
          have kept := keeps pool.shared task input waits
          refine add_right_cancel (b := share task) ?_
          dsimp only
          rw [kept, same, add_assoc, add_assoc, moved]

end Totals

end BoundedPool
