import Mathlib.Algebra.Order.Group.Abs
import Mathlib.Order.Bounds.Basic
import Mathlib.Tactic.Abel

/-!
# Runs of a state machine

A total step function folded over a list of operations, the invariant rule,
and the accounting rule: what each step may lose bounds what a run may lose.
-/
namespace StateRuns

universe u

variable {σ α : Type*} (step : σ → α → σ)

def run (s : σ) (ops : List α) : σ := ops.foldl step s

@[simp] theorem run_nil (s : σ) : run step s [] = s := rfl

@[simp] theorem run_cons (s : σ) (op : α) (ops : List α) :
    run step s (op :: ops) = run step (step s op) ops := rfl

theorem run_append (s : σ) (first second : List α) :
    run step s (first ++ second) = run step (run step s first) second := List.foldl_append

/-- An invariant each step keeps holds after every run. -/
theorem run_invariant (invariant : σ → Prop) (keeps : ∀ s op, invariant s → invariant (step s op))
    (s : σ) (ops : List α) (start : invariant s) : invariant (run step s ops) := by
  induction ops generalizing s with
  | nil => exact start
  | cons op rest ih => exact ih (step s op) (keeps s op start)

/-- The same for a condition the listed operations must meet. -/
theorem run_invariant_of (invariant : σ → Prop) (allowed : α → Prop)
    (keeps : ∀ s op, allowed op → invariant s → invariant (step s op))
    (s : σ) (ops : List α) (all : ∀ op ∈ ops, allowed op) (start : invariant s) :
    invariant (run step s ops) := by
  induction ops generalizing s with
  | nil => exact start
  | cons op rest ih =>
      have first : invariant (step s op) := keeps s op (all op List.mem_cons_self) start
      exact ih (step s op) (fun later member => all later (List.mem_cons_of_mem op member)) first

section Traces

variable {β : Type*} (emit : σ → α → List β)

/-- What the steps of a run emit, in order. -/
def trace : σ → List α → List β
  | _, [] => []
  | s, op :: rest => emit s op ++ trace (step s op) rest

theorem trace_append (s : σ) (first second : List α) :
    trace step emit s (first ++ second) =
      trace step emit s first ++ trace step emit (run step s first) second := by
  induction first generalizing s with
  | nil => rfl
  | cons op rest ih => rw [List.cons_append, trace, ih, trace, run_cons, List.append_assoc]

/-- A condition that holds before every step of a run. -/
def Along (condition : σ → α → Prop) : σ → List α → Prop
  | _, [] => True
  | s, op :: rest => condition s op ∧ Along condition (step s op) rest

theorem along_append {condition : σ → α → Prop} {s : σ} {first second : List α}
    (along : Along step condition s (first ++ second)) : Along step condition (run step s first) second := by
  induction first generalizing s with
  | nil => exact along
  | cons op rest ih => exact ih along.2

theorem along_append_iff {condition : σ → α → Prop} {s : σ} {first second : List α} :
    Along step condition s (first ++ second) ↔
      Along step condition s first ∧ Along step condition (run step s first) second := by
  induction first generalizing s with
  | nil => exact ⟨fun later => ⟨trivial, later⟩, And.right⟩
  | cons op rest ih => exact (and_congr_right fun _ => ih).trans and_assoc.symm

/-- A condition on the operations alone. -/
theorem along_of_forall {allowed : α → Prop} {ops : List α} (all : ∀ op ∈ ops, allowed op) (s : σ) :
    Along step (fun _ op => allowed op) s ops := by
  induction ops generalizing s with
  | nil => trivial
  | cons op rest ih =>
      obtain ⟨here, there⟩ := List.forall_mem_cons.mp all
      exact ⟨here, ih there (step s op)⟩

theorem along_of_each {condition : σ → α → Prop} {ops : List α} (each : ∀ op ∈ ops, ∀ s, condition s op) (s : σ) :
    Along step condition s ops := by
  induction ops generalizing s with
  | nil => trivial
  | cons op rest ih =>
      obtain ⟨here, there⟩ := List.forall_mem_cons.mp each
      exact ⟨here s, ih there (step s op)⟩

theorem along_prefix {condition : σ → α → Prop} {s : σ} {earlier ops : List α} (within : earlier <+: ops)
    (along : Along step condition s ops) : Along step condition s earlier := by
  induction earlier generalizing s ops with
  | nil => trivial
  | cons op rest ih =>
      obtain ⟨later, rfl⟩ := within
      exact ⟨along.1, ih (List.prefix_append rest later) along.2⟩

theorem along_and {first second : σ → α → Prop} {s : σ} {ops : List α} (left : Along step first s ops)
    (right : Along step second s ops) : Along step (fun s op => first s op ∧ second s op) s ops := by
  induction ops generalizing s with
  | nil => trivial
  | cons op rest ih => exact ⟨⟨left.1, right.1⟩, ih left.2 right.2⟩

theorem along_mono {first second : σ → α → Prop} (implied : ∀ s op, first s op → second s op) {s : σ}
    {ops : List α} (along : Along step first s ops) : Along step second s ops := by
  induction ops generalizing s with
  | nil => trivial
  | cons op rest ih => exact ⟨implied s op along.1, ih along.2⟩

/-- Two conditions that agree in every state of an invariant agree along its runs. -/
theorem along_congr (invariant : σ → Prop) (keeps : ∀ s op, invariant s → invariant (step s op))
    {first second : σ → α → Prop} (same : ∀ s op, invariant s → (first s op ↔ second s op))
    {s : σ} (ops : List α) (start : invariant s) : Along step first s ops ↔ Along step second s ops := by
  induction ops generalizing s with
  | nil => exact Iff.rfl
  | cons op rest ih => exact and_congr (same s op start) (ih (keeps s op start))

/-- What holds of all that the steps of a run emit from states of the invariant. -/
theorem trace_forall (invariant : σ → Prop) (condition : σ → α → Prop) (holds : β → Prop)
    (keeps : ∀ s op, condition s op → invariant s → invariant (step s op))
    (emits : ∀ s op, condition s op → invariant s → ∀ b ∈ emit s op, holds b)
    (s : σ) (ops : List α) (start : invariant s) (along : Along step condition s ops) :
    ∀ b ∈ trace step emit s ops, holds b := by
  induction ops generalizing s with
  | nil => simp [trace]
  | cons op rest ih =>
      obtain ⟨here, there⟩ := along
      intro b emitted
      rcases List.mem_append.mp emitted with first | later
      · exact emits s op here start b first
      · exact ih (step s op) (keeps s op here start) there b later

/-- A condition that follows from what a step emits holds along a run that emits nothing else. -/
theorem along_of_trace (invariant : σ → Prop) (keeps : ∀ s op, invariant s → invariant (step s op))
    {condition : σ → α → Prop} (holds : β → Prop)
    (implied : ∀ s op, invariant s → (∀ b ∈ emit s op, holds b) → condition s op)
    (s : σ) (ops : List α) (start : invariant s) (all : ∀ b ∈ trace step emit s ops, holds b) :
    Along step condition s ops := by
  induction ops generalizing s with
  | nil => trivial
  | cons op rest ih =>
      refine ⟨implied s op start fun b emitted => all b (List.mem_append_left _ emitted), ?_⟩
      exact ih (step s op) (keeps s op start) fun b emitted => all b (List.mem_append_right _ emitted)

/-- What no step emits from a state of the invariant, no run emits. -/
theorem trace_avoids (invariant : σ → Prop) (keeps : ∀ s op, invariant s → invariant (step s op))
    (condition : σ → α → Prop) (b : β)
    (silent : ∀ s op, invariant s → condition s op → b ∉ emit s op)
    (s : σ) (ops : List α) (start : invariant s) (along : Along step condition s ops) :
    b ∉ trace step emit s ops := by
  intro emitted
  refine trace_forall step emit invariant condition (· ≠ b) (fun s op _ => keeps s op) ?_ s ops start along
    b emitted rfl
  rintro s op here held c member rfl
  exact silent s op held here member

/-- An invariant of the state, of the operations still to come and of what was
emitted so far holds at the end of the run. -/
theorem run_history (invariant : List α → σ → List β → Prop)
    (keeps : ∀ s op rest history, invariant (op :: rest) s history →
      invariant rest (step s op) (history ++ emit s op))
    (s : σ) (ops : List α) (history : List β) (start : invariant ops s history) :
    invariant [] (run step s ops) (history ++ trace step emit s ops) := by
  induction ops generalizing s history with
  | nil => simpa [trace] using start
  | cons op rest ih =>
      have later := ih (step s op) (history ++ emit s op) (keeps s op rest history start)
      simpa only [trace, run_cons, List.append_assoc] using later

/-- A view that every step moves by what it emits is moved by all a run emits. -/
theorem run_view {τ : Type*} (view : σ → τ) (apply : τ → β → τ) (invariant : σ → Prop)
    (keeps : ∀ s op, invariant s → invariant (step s op))
    (moves : ∀ s op, invariant s → view (step s op) = (emit s op).foldl apply (view s))
    (s : σ) (ops : List α) (start : invariant s) :
    view (run step s ops) = (trace step emit s ops).foldl apply (view s) := by
  induction ops generalizing s with
  | nil => rfl
  | cons op rest ih =>
      rw [run_cons, ih (step s op) (keeps s op start), moves s op start, trace, List.foldl_append]

end Traces

section Latches

variable {condition : σ → α → Prop}

/-- A flag that every step keeps, and raises where the alarm stands, is up
exactly when it was up before or the alarm stood at some point of the run. -/
theorem run_latch_iff (flag alarm : σ → Prop)
    (latches : ∀ s op, condition s op → (alarm s → flag s) →
      (flag (step s op) ↔ flag s ∨ alarm (step s op)))
    (s : σ) (ops : List α) (start : alarm s → flag s) (along : Along step condition s ops) :
    flag (run step s ops) ↔ flag s ∨ ∃ earlier, earlier <+: ops ∧ alarm (run step s earlier) := by
  induction ops generalizing s with
  | nil => simpa using start
  | cons op rest ih =>
      obtain ⟨here, there⟩ := along
      have first := latches s op here start
      rw [run_cons, ih (step s op) (fun alarmed => first.mpr (.inr alarmed)) there, first]
      constructor
      · rintro ((up | alarmed) | ⟨earlier, within, alarmed⟩)
        · exact .inl up
        · exact .inr ⟨[op], List.prefix_append [op] rest, alarmed⟩
        · exact .inr ⟨op :: earlier, (List.prefix_cons_inj op).mpr within, alarmed⟩
      · rintro (up | ⟨earlier, within, alarmed⟩)
        · exact .inl (.inl up)
        · rcases List.prefix_cons_iff.mp within with rfl | ⟨later, rfl, inside⟩
          · exact .inl (.inl (start alarmed))
          · exact .inr ⟨later, inside, alarmed⟩

end Latches

section Streaks

variable {β : Type*} (resets counts : β → Bool)

/-- How many entries of a history count since the last one that resets. Before
the first one that does, the seed stands for what came before the history. -/
def sinceLast (seed : ℕ) (history : List β) : ℕ :=
  (history.reverse.takeWhile fun b => !resets b).countP counts +
    if history.any resets then 0 else seed

theorem sinceLast_append (seed : ℕ) (history : List β) (b : β) :
    sinceLast resets counts seed (history ++ [b]) =
      if resets b then 0 else sinceLast resets counts seed history + if counts b then 1 else 0 := by
  unfold sinceLast
  rw [List.reverse_append, List.any_append]
  cases reset : resets b with
  | true => simp [reset]
  | false =>
      simp only [List.reverse_singleton, List.singleton_append, List.takeWhile_cons, reset,
        Bool.not_false, if_true, List.countP_cons, List.any_cons, List.any_nil, Bool.or_false,
        Bool.false_eq_true, if_false]
      omega

/-- A counter that resets and counts with what the steps emit is the streak of the run. -/
theorem run_sinceLast {condition : σ → α → Prop} (counter : σ → ℕ) (emit : σ → α → β)
    (counted : ∀ s op, condition s op → counter (step s op) =
      if resets (emit s op) then 0 else counter s + if counts (emit s op) then 1 else 0)
    (s : σ) (ops : List α) (along : Along step condition s ops) :
    counter (run step s ops) =
      sinceLast resets counts (counter s) (trace step (fun s op => [emit s op]) s ops) := by
  have followed := run_history step (fun s op => [emit s op])
    (fun ops now history => Along step condition now ops ∧
      counter now = sinceLast resets counts (counter s) history)
    (fun now op rest history tracked => ⟨tracked.1.2, by
      rw [sinceLast_append, ← tracked.2]
      exact counted now op tracked.1.1⟩)
    s ops [] ⟨along, by simp [sinceLast]⟩
  exact followed.2

end Streaks

section Past

variable {β : Type*} (begins holds : β → Prop)

/-- The past operator since: an entry began, and from it on every entry held. -/
def Since (history : List β) : Prop :=
  ∃ earlier entry later, history = earlier ++ entry :: later ∧ begins entry ∧ ∀ b ∈ entry :: later, holds b

theorem not_since_nil : ¬ Since begins holds [] := by
  rintro ⟨earlier, entry, later, same, -⟩
  cases earlier <;> cases same

theorem since_append (history : List β) (b : β) :
    Since begins holds (history ++ [b]) ↔ (Since begins holds history ∨ begins b) ∧ holds b := by
  constructor
  · rintro ⟨earlier, entry, later, same, began, held⟩
    rcases List.eq_nil_or_concat later with rfl | ⟨middle, last, rfl⟩
    · obtain ⟨rfl, here⟩ := List.append_inj' same rfl
      cases here
      exact ⟨.inr began, held b List.mem_cons_self⟩
    · rw [List.concat_eq_append, ← List.cons_append, ← List.append_assoc] at same
      obtain ⟨rfl, here⟩ := List.append_inj' same rfl
      cases here
      refine ⟨.inl ⟨earlier, entry, middle, rfl, began, fun e listed => held e ?_⟩, held b (by simp)⟩
      rw [List.concat_eq_append, ← List.cons_append]
      exact List.mem_append_left _ listed
  · rintro ⟨⟨earlier, entry, later, rfl, began, held⟩ | began, last⟩
    · refine ⟨earlier, entry, later ++ [b], by simp, began, fun e listed => ?_⟩
      rw [← List.cons_append] at listed
      rcases List.mem_append.mp listed with before | here
      · exact held e before
      · rw [List.mem_singleton.mp here]
        exact last
    · exact ⟨history, b, [], rfl, began, fun e listed => by rwa [List.mem_singleton.mp listed]⟩

end Past

section Records

variable {β : Type*} [LinearOrder β]

/-- A mark that every step raises to the greatest value it emits is the greatest
value of the run. -/
theorem run_isGreatest (invariant : σ → Prop) (keeps : ∀ s op, invariant s → invariant (step s op))
    (mark : σ → β) (emit : σ → α → List β)
    (raises : ∀ s op, invariant s → IsGreatest {b | b = mark s ∨ b ∈ emit s op} (mark (step s op)))
    (s : σ) (ops : List α) (start : invariant s) :
    IsGreatest {b | b = mark s ∨ b ∈ trace step emit s ops} (mark (run step s ops)) := by
  induction ops generalizing s with
  | nil => simp [trace]
  | cons op rest ih =>
      obtain ⟨attained, above⟩ := raises s op start
      obtain ⟨later, bound⟩ := ih (step s op) (keeps s op start)
      have first : mark (step s op) ≤ mark (run step (step s op) rest) := bound (.inl rfl)
      constructor
      · rcases later with same | emitted
        · rw [run_cons, same]
          exact attained.imp id fun here => List.mem_append_left _ here
        · exact .inr (List.mem_append_right _ emitted)
      · rintro b (rfl | emitted)
        · exact (above (.inl rfl)).trans first
        · rcases List.mem_append.mp emitted with here | there
          · exact (above (.inr here)).trans first
          · exact bound (.inr there)

end Records

section Repetition

/-- Operations that each leave a state as it is leave it together. -/
theorem run_fixed {s : σ} {ops : List α} (fixed : ∀ op ∈ ops, step s op = s) : run step s ops = s := by
  induction ops with
  | nil => rfl
  | cons op rest ih =>
      rw [run_cons, fixed op List.mem_cons_self]
      exact ih fun later member => fixed later (List.mem_cons_of_mem op member)

theorem trace_fixed {β : Type*} (emit : σ → α → List β) {s : σ} {ops : List α}
    (fixed : ∀ op ∈ ops, step s op = s) : trace step emit s ops = ops.flatMap (emit s) := by
  induction ops with
  | nil => rfl
  | cons op rest ih =>
      rw [trace, fixed op List.mem_cons_self, List.flatMap_cons,
        ih fun later member => fixed later (List.mem_cons_of_mem op member)]

/-- What every operation settles for itself, and none unsettles, is settled for
all of them after the run. -/
theorem run_settles (invariant : σ → Prop) (settled : σ → α → Prop)
    (keeps : ∀ s op, invariant s → invariant (step s op))
    (settles : ∀ s op, invariant s → settled (step s op) op)
    (stays : ∀ s op other, invariant s → settled s other → settled (step s op) other)
    (s : σ) (ops : List α) (start : invariant s) : ∀ op ∈ ops, settled (run step s ops) op := by
  induction ops generalizing s with
  | nil => simp
  | cons op rest ih =>
      intro other member
      rcases List.mem_cons.mp member with rfl | later
      · have lasting := run_invariant step (fun s => invariant s ∧ settled s other)
          (fun s op both => ⟨keeps s op both.1, stays s op other both.1 both.2⟩)
        exact (lasting (step s other) rest ⟨keeps s other start, settles s other start⟩).2
      · exact ih (step s op) (keeps s op start) other later

end Repetition

section Accounting

variable {M : Type*} [AddCommGroup M]

/-- A quantity read off each step of a run, added up. -/
def stepSum (measure : σ → α → M) : σ → List α → M
  | _, [] => 0
  | s, op :: rest => measure s op + stepSum measure (step s op) rest

theorem stepSum_neg (measure : σ → α → M) (s : σ) (ops : List α) :
    stepSum step (fun s op => -measure s op) s ops = -stepSum step measure s ops := by
  induction ops generalizing s with
  | nil => simp [stepSum]
  | cons op rest ih => simp [stepSum, ih, add_comm]

theorem sum_trace {β : Type*} (emit : σ → α → List β) (measure : β → M) (s : σ) (ops : List α) :
    ((trace step emit s ops).map measure).sum =
      stepSum step (fun s op => ((emit s op).map measure).sum) s ops := by
  induction ops generalizing s with
  | nil => rfl
  | cons op rest ih => simp [trace, stepSum, ih]

variable [LinearOrder M] [IsOrderedAddMonoid M]

/-- The value of the state follows the flow of the run up to the steps' allowances. -/
theorem run_drift (invariant : σ → Prop) (keeps : ∀ s op, invariant s → invariant (step s op))
    (value : σ → M) (flow allowance : σ → α → M)
    (local_drift : ∀ s op, invariant s →
      |value (step s op) - value s + flow s op| ≤ allowance s op)
    (s : σ) (ops : List α) (start : invariant s) :
    |value (run step s ops) - value s + stepSum step flow s ops| ≤
      stepSum step allowance s ops := by
  induction ops generalizing s with
  | nil => simp [stepSum]
  | cons op rest ih =>
      have here := local_drift s op start
      have there := ih (step s op) (keeps s op start)
      have split_drift : value (run step s (op :: rest)) - value s + stepSum step flow s (op :: rest) =
          (value (step s op) - value s + flow s op) +
          (value (run step (step s op) rest) - value (step s op) + stepSum step flow (step s op) rest) := by
        simp only [run_cons, stepSum]
        abel
      rw [split_drift]
      exact (abs_add_le _ _).trans (add_le_add here there)

end Accounting

/-! ### Steps that may raise

A raised exception carries the state it left behind. -/

section Raising

variable {σ α ε : Type*} {raising : σ → α → Except (σ × ε) σ}

/-- A pure computation that may raise, run in state `s`. -/
def raiseFrom {ρ : Type*} (s : σ) (outcome : Except ε ρ) : Except (σ × ε) ρ :=
  outcome.mapError fun e => (s, e)

/-- The state after a call, returned or raised. -/
def final : Except (σ × ε) σ → σ
  | .ok s => s
  | .error (s, _) => s

@[simp] theorem final_ok (s : σ) : final (.ok s : Except (σ × ε) σ) = s := rfl

@[simp] theorem final_error (s : σ) (e : ε) : final (.error (s, e) : Except (σ × ε) σ) = s := rfl

/-- A sequence returns what its second step makes of the result of its first. -/
theorem bind_eq_ok_iff {ρ τ : Type u} {first : Except ε ρ} {next : ρ → Except ε τ} {t : τ} :
    first >>= next = .ok t ↔ ∃ r, first = .ok r ∧ next r = .ok t := by
  cases first with
  | error e => exact iff_of_false nofun fun ⟨r, returned, _⟩ => nomatch returned
  | ok r => exact ⟨fun returned => ⟨r, rfl, returned⟩, fun ⟨_, same, returned⟩ => by cases same; exact returned⟩

theorem bind_ok {ρ τ : Type u} {first : Except ε ρ} {next : ρ → Except ε τ} {t : τ}
    (returned : first >>= next = .ok t) : ∃ r, first = .ok r ∧ next r = .ok t :=
  bind_eq_ok_iff.mp returned

theorem map_eq_ok_iff {ρ τ : Type u} {f : ρ → τ} {first : Except ε ρ} {t : τ} :
    first.map f = .ok t ↔ ∃ r, first = .ok r ∧ f r = t := by
  cases first <;> simp [Except.map]

/-- A list of computations returns exactly if each of them does. -/
theorem mapM_isOk {β : Type u} (f : α → Except ε β) (l : List α) :
    (l.mapM f).isOk = l.all fun x => (f x).isOk := by
  induction l with
  | nil => rfl
  | cons x rest ih =>
      rw [List.mapM_cons, List.all_cons, ← ih]
      cases f x with
      | error e => rfl
      | ok y => cases rest.mapM f <;> rfl

theorem mapM_forall₂ {β : Type u} {f : α → Except ε β} {holds : α → β → Prop} {l : List α}
    (each : ∀ a ∈ l, ∃ b, f a = .ok b ∧ holds a b) :
    ∃ results, l.mapM f = .ok results ∧ List.Forall₂ holds l results := by
  induction l with
  | nil => exact ⟨[], rfl, .nil⟩
  | cons a rest ih =>
      obtain ⟨b, first, here⟩ := each a List.mem_cons_self
      obtain ⟨results, others, there⟩ := ih fun later member => each later (List.mem_cons_of_mem a member)
      refine ⟨b :: results, ?_, .cons here there⟩
      rw [List.mapM_cons, first, others]
      rfl

theorem map_isOk {β : Type*} (f : α → β) (e : Except ε α) : (e.map f).isOk = e.isOk := by
  cases e <;> rfl

theorem raiseFrom_ok {ρ : Type*} {s : σ} {outcome : Except ε ρ} {r : ρ}
    (returned : raiseFrom s outcome = .ok r) : outcome = .ok r := by
  cases outcome with
  | error e => cases returned
  | ok a =>
      cases returned
      rfl

theorem final_bind (first : Except (σ × ε) σ) (next : σ → Except (σ × ε) σ) (P : σ → Prop)
    (raised : ∀ s e, first = .error (s, e) → P s) (returned : ∀ s, first = .ok s → P (final (next s))) :
    P (final (first >>= next)) := by
  cases outcome : first with
  | error failure => exact raised failure.1 failure.2 outcome
  | ok s => exact returned s outcome

/-- What holds of the state left by a call that may raise where it stands. -/
theorem final_raiseFrom {ρ τ : Type u} {P : σ → Prop} {s : σ} {outcome : Except ε ρ} {next : ρ → Except (σ × ε) τ}
    {left : τ → σ} (here : P s) (later : ∀ r, outcome = .ok r → P (final ((next r).map left))) :
    P (final ((raiseFrom s outcome >>= next).map left)) := by
  cases outcome with
  | error e => exact here
  | ok r => exact later r rfl

/-- What every step on the listed items keeps, raising or not, a loop keeps. -/
theorem foldlM_invariant_of (invariant : σ → Prop) (s : σ) (items : List α)
    (keeps : ∀ s, ∀ a ∈ items, invariant s → invariant (final (raising s a)))
    (start : invariant s) : invariant (final (items.foldlM raising s)) := by
  induction items generalizing s with
  | nil => exact start
  | cons a rest ih =>
      have first := keeps s a List.mem_cons_self start
      rw [List.foldlM_cons]
      apply final_bind
      · intro left e raised
        rwa [raised] at first
      · intro next returned
        rw [returned] at first
        exact ih next (fun s a member => keeps s a (List.mem_cons_of_mem _ member)) first

theorem foldlM_invariant (invariant : σ → Prop)
    (keeps : ∀ s a, invariant s → invariant (final (raising s a)))
    (s : σ) (items : List α) (start : invariant s) : invariant (final (items.foldlM raising s)) :=
  foldlM_invariant_of invariant s items (fun s a _ => keeps s a) start

/-- A loop that returns took every step without raising. -/
theorem foldlM_cons_ok {s after : σ} {a : α} {rest : List α}
    (returned : (a :: rest).foldlM raising s = .ok after) :
    ∃ next, raising s a = .ok next ∧ rest.foldlM raising next = .ok after := by
  rw [List.foldlM_cons] at returned
  cases first : raising s a with
  | error failure =>
      rw [first] at returned
      cases returned
  | ok next =>
      rw [first] at returned
      exact ⟨next, rfl, returned⟩

section Decoding

variable {β : Type*}

/-- A step that decodes an item and writes what it decoded; an item may decode to nothing. -/
def decodeInto (decode : α → Except ε (Option β)) (write : σ → β → σ) (s : σ) (a : α) : Except (σ × ε) σ :=
  match decode a with
  | .error e => .error (s, e)
  | .ok none => .ok s
  | .ok (some b) => .ok (write s b)

/-- What a list decodes to, up to the first item that does not decode. -/
def decodedAhead (decode : α → Except ε (Option β)) : List α → List β
  | [] => []
  | a :: rest =>
      match decode a with
      | .error _ => []
      | .ok none => decodedAhead decode rest
      | .ok (some b) => b :: decodedAhead decode rest

def firstFault (decode : α → Except ε (Option β)) : List α → Option ε
  | [] => none
  | a :: rest =>
      match decode a with
      | .error e => some e
      | .ok _ => firstFault decode rest

/-- The loop leaves behind what it decoded ahead of the first fault. -/
theorem foldlM_decodeInto (decode : α → Except ε (Option β)) (write : σ → β → σ) (s : σ) (items : List α) :
    items.foldlM (decodeInto decode write) s =
      match firstFault decode items with
      | none => .ok ((decodedAhead decode items).foldl write s)
      | some e => .error ((decodedAhead decode items).foldl write s, e) := by
  induction items generalizing s with
  | nil => rfl
  | cons a rest ih =>
      rw [List.foldlM_cons]
      cases decoded : decode a with
      | error e => simp [decodeInto, firstFault, decodedAhead, decoded, bind, Except.bind]
      | ok b =>
          cases b with
          | none => simp only [decodeInto, firstFault, decodedAhead, decoded, bind, Except.bind, ih]
          | some b =>
              simp only [decodeInto, firstFault, decodedAhead, decoded, bind, Except.bind, ih,
                List.foldl_cons]

/-- Without a fault every item that decodes to something is there. -/
theorem decodedAhead_of_no_fault {decode : α → Except ε (Option β)} {items : List α}
    (whole : firstFault decode items = none) :
    decodedAhead decode items = items.filterMap fun a => (decode a).toOption.join := by
  induction items with
  | nil => rfl
  | cons a rest ih =>
      cases decoded : decode a with
      | error e => simp [firstFault, decoded] at whole
      | ok b =>
          simp only [firstFault, decoded] at whole
          cases b <;> simp [decodedAhead, decoded, Except.toOption, ih whole]

end Decoding

section Emissions

variable (raising : σ → α → Except (σ × ε) σ) {β : Type*} (emit : σ → α → List β)

/-- What the steps of a loop emit, up to the one that raises. -/
def emitted : σ → List α → List β
  | _, [] => []
  | s, a :: rest => emit s a ++
      match raising s a with
      | .ok next => emitted next rest
      | .error _ => []

/-- The states and items a loop gets to, the ones of a raising step included. -/
def visits (s : σ) (items : List α) : List (σ × α) := emitted raising (fun s a => [(s, a)]) s items

@[simp] theorem visits_nil (s : σ) : visits raising s [] = [] := rfl

/-- What a loop emits, read off its visits. -/
theorem emitted_eq_flatMap (s : σ) (items : List α) :
    emitted raising emit s items = (visits raising s items).flatMap fun visit => emit visit.1 visit.2 := by
  induction items generalizing s with
  | nil => rfl
  | cons a rest ih =>
      cases stepped : raising s a with
      | error failure => simp [visits, emitted, stepped]
      | ok next => simp [visits, emitted, stepped, ih]

theorem mem_visits {s : σ} {items : List α} {visit : σ × α} (reached : visit ∈ visits raising s items) :
    visit.2 ∈ items := by
  induction items generalizing s with
  | nil => cases reached
  | cons a rest ih =>
      rcases List.mem_append.mp reached with here | later
      · rw [List.mem_singleton.mp here]
        exact List.mem_cons_self
      · cases stepped : raising s a with
        | error failure => simp [stepped] at later
        | ok next =>
            rw [stepped] at later
            exact List.mem_cons_of_mem a (ih later)

/-- A loop returns exactly if no step it gets to raises. -/
theorem foldlM_returns_iff_visits (s : σ) (items : List α) :
    (∃ after, items.foldlM raising s = .ok after) ↔
      ∀ visit ∈ visits raising s items, ∃ next, raising visit.1 visit.2 = .ok next := by
  induction items generalizing s with
  | nil => simp [pure, Except.pure]
  | cons a rest ih =>
      rw [List.foldlM_cons]
      cases stepped : raising s a with
      | error failure => simp [visits, emitted, stepped, bind, Except.bind]
      | ok next =>
          have later := ih next
          simp only [visits] at later
          simp [visits, emitted, stepped, bind, Except.bind, later]

/-- What every step emits from a state of the invariant, every loop emits. -/
theorem emitted_forall (invariant : σ → Prop) (holds : β → Prop)
    (keeps : ∀ s a, invariant s → invariant (final (raising s a)))
    (emits : ∀ s a, invariant s → ∀ b ∈ emit s a, holds b)
    (s : σ) (items : List α) (start : invariant s) : ∀ b ∈ emitted raising emit s items, holds b := by
  induction items generalizing s with
  | nil => simp [emitted]
  | cons a rest ih =>
      have next := keeps s a start
      intro b member
      rcases List.mem_append.mp member with here | later
      · exact emits s a start b here
      · cases stepped : raising s a with
        | error failure => simp [stepped] at later
        | ok after =>
            rw [stepped] at next later
            exact ih after next b later

/-- The history rule for a loop; one that raises leaves items behind. -/
theorem foldlM_history (invariant : List α → σ → List β → Prop)
    (keeps : ∀ s a rest history, invariant (a :: rest) s history →
      invariant rest (final (raising s a)) (history ++ emit s a))
    (s : σ) (items : List α) (history : List β) (start : invariant items s history) :
    ∃ left, invariant left (final (items.foldlM raising s))
      (history ++ emitted raising emit s items) := by
  induction items generalizing s history with
  | nil =>
      rw [emitted, List.append_nil]
      exact ⟨[], start⟩
  | cons a rest ih =>
      have first := keeps s a rest history start
      cases stepped : raising s a with
      | error failure =>
          rw [stepped] at first
          refine ⟨rest, ?_⟩
          simpa [emitted, List.foldlM_cons, stepped, bind, Except.bind] using first
      | ok next =>
          rw [stepped] at first
          obtain ⟨left, later⟩ := ih next (history ++ emit s a) first
          refine ⟨left, ?_⟩
          simpa [emitted, List.foldlM_cons, stepped, bind, Except.bind] using later

/-- A log to which every step appends what it emits. -/
theorem foldlM_appends (log : σ → List β) (appends : ∀ s a, log (final (raising s a)) = log s ++ emit s a)
    (s : σ) (items : List α) :
    log (final (items.foldlM raising s)) = log s ++ emitted raising emit s items := by
  obtain ⟨left, kept⟩ := foldlM_history raising emit (fun _ now history => log now = log s ++ history)
    (fun now a rest history same => by rw [appends, same, List.append_assoc]) s items []
    (List.append_nil _).symm
  exact kept

end Emissions

end Raising

/-! ### One computation beside another -/

section Outcomes

variable {ε δ : Type*}

/-- Both computations return related values or both raise related errors. -/
inductive SameOutcome {α β : Type*} (errors : ε → δ → Prop) (values : α → β → Prop) :
    Except ε α → Except δ β → Prop
  | returned {a : α} {b : β} (related : values a b) : SameOutcome errors values (.ok a) (.ok b)
  | raised {e : ε} {d : δ} (related : errors e d) : SameOutcome errors values (.error e) (.error d)

variable {errors : ε → δ → Prop}

theorem SameOutcome.mono {α β : Type*} {values weaker : α → β → Prop} {first : Except ε α}
    {second : Except δ β} (here : SameOutcome errors values first second)
    (implies : ∀ a b, values a b → weaker a b) : SameOutcome errors weaker first second := by
  cases here with
  | returned related => exact .returned (implies _ _ related)
  | raised related => exact .raised related

/-- Sequences agree step by step. -/
theorem SameOutcome.bind {α β α' β' : Type u} {values : α → β → Prop} {values' : α' → β' → Prop}
    {first : Except ε α} {second : Except δ β} {next : α → Except ε α'} {next' : β → Except δ β'}
    (here : SameOutcome errors values first second)
    (later : ∀ a b, values a b → SameOutcome errors values' (next a) (next' b)) :
    SameOutcome errors values' (first >>= next) (second >>= next') := by
  cases here with
  | returned related => exact later _ _ related
  | raised related => exact .raised related

end Outcomes

end StateRuns
