import Mathlib.Data.List.Induction
import Mathlib.Data.List.Nodup
import Mathlib.Data.List.Perm.Subperm
import Mathlib.Algebra.BigOperators.Group.List.Basic
import Mathlib.Algebra.Order.BigOperators.Group.List
import Mathlib.Tactic.Abel

/-!
# Insertion-ordered dictionaries

A finite map that remembers the order of first insertion. Overwriting keeps
the position of a key; a new key goes to the end. Distinctness of the keys is
a field, so every dictionary built below is well formed by construction.
-/

structure OrderedDict (κ : Type*) (ν : Type*) where
  entries : List (κ × ν)
  nodup : (entries.map Prod.fst).Nodup
  deriving DecidableEq

namespace OrderedDict

variable {κ ν : Type*} [DecidableEq κ]

def empty : OrderedDict κ ν := ⟨[], List.nodup_nil⟩

instance : Inhabited (OrderedDict κ ν) := ⟨empty⟩

def setEntries (k : κ) (v : ν) : List (κ × ν) → List (κ × ν)
  | [] => [(k, v)]
  | e :: rest => if e.1 = k then (k, v) :: rest else e :: setEntries k v rest

theorem mem_keys_setEntries {k x : κ} {v : ν} {l : List (κ × ν)} :
    x ∈ (setEntries k v l).map Prod.fst ↔ x = k ∨ x ∈ l.map Prod.fst := by
  induction l with
  | nil => simp [setEntries]
  | cons e rest ih =>
      unfold setEntries
      split
      next same => subst same; simp
      next differs =>
        simp only [List.map_cons, List.mem_cons, ih]
        tauto

theorem setEntries_nodup {k : κ} {v : ν} {l : List (κ × ν)} (h : (l.map Prod.fst).Nodup) :
    ((setEntries k v l).map Prod.fst).Nodup := by
  induction l with
  | nil => simp [setEntries]
  | cons e rest ih =>
      simp only [List.map_cons, List.nodup_cons] at h
      unfold setEntries
      split
      next same => subst same; simpa using h
      next differs =>
        simp only [List.map_cons, List.nodup_cons]
        refine ⟨?_, ih h.2⟩
        intro member
        rcases mem_keys_setEntries.mp member with same | old
        · exact differs same
        · exact h.1 old

def set (d : OrderedDict κ ν) (k : κ) (v : ν) : OrderedDict κ ν :=
  ⟨setEntries k v d.entries, setEntries_nodup d.nodup⟩

def pop (d : OrderedDict κ ν) (k : κ) : OrderedDict κ ν :=
  ⟨d.entries.filter (fun e => e.1 ≠ k), d.nodup.sublist (List.filter_sublist.map Prod.fst)⟩

/-- A dict comprehension: later pairs overwrite earlier ones in place. -/
def ofList (l : List (κ × ν)) : OrderedDict κ ν := l.foldl (fun d e => d.set e.1 e.2) empty

def get? (d : OrderedDict κ ν) (k : κ) : Option ν := d.entries.lookup k

def getD (d : OrderedDict κ ν) (k : κ) (default : ν) : ν := (d.get? k).getD default

def contains (d : OrderedDict κ ν) (k : κ) : Bool := (d.get? k).isSome

def keys (d : OrderedDict κ ν) : List κ := d.entries.map Prod.fst

def values (d : OrderedDict κ ν) : List ν := d.entries.map Prod.snd

def mapValues {μ : Type*} (f : ν → μ) (d : OrderedDict κ ν) : OrderedDict κ μ :=
  ⟨d.entries.map fun e => (e.1, f e.2), by simpa [Function.comp_def] using d.nodup⟩

def isEmpty (d : OrderedDict κ ν) : Bool := d.entries.isEmpty

omit [DecidableEq κ] in
theorem ext_entries {d d' : OrderedDict κ ν} (h : d.entries = d'.entries) : d = d' := by
  cases d; cases d'; cases h; rfl

theorem lookup_setEntries_self (k : κ) (v : ν) (l : List (κ × ν)) :
    (setEntries k v l).lookup k = some v := by
  induction l with
  | nil => simp [setEntries]
  | cons e rest ih =>
      obtain ⟨a, b⟩ := e
      unfold setEntries
      split
      next => simp
      next differs =>
        have other : (k == a) = false := by simpa using fun h => differs h.symm
        simpa [List.lookup_cons, other] using ih

theorem lookup_setEntries_of_ne {k x : κ} (v : ν) (l : List (κ × ν)) (h : x ≠ k) :
    (setEntries k v l).lookup x = l.lookup x := by
  induction l with
  | nil =>
      have other : (x == k) = false := by simpa using h
      simp [setEntries, List.lookup_cons, other]
  | cons e rest ih =>
      obtain ⟨a, b⟩ := e
      unfold setEntries
      split
      next same =>
        change a = k at same
        have other : (x == k) = false := by simpa using h
        simp [List.lookup_cons, same, other]
      next => simp only [List.lookup_cons]; split <;> simp_all

@[simp] theorem get?_empty (k : κ) : (empty : OrderedDict κ ν).get? k = none := rfl

@[simp] theorem get?_set_self (d : OrderedDict κ ν) (k : κ) (v : ν) :
    (d.set k v).get? k = some v := lookup_setEntries_self k v d.entries

theorem get?_set_of_ne (d : OrderedDict κ ν) {k x : κ} (v : ν) (h : x ≠ k) :
    (d.set k v).get? x = d.get? x := lookup_setEntries_of_ne v d.entries h

theorem get?_set (d : OrderedDict κ ν) (k x : κ) (v : ν) :
    (d.set k v).get? x = if x = k then some v else d.get? x := by
  split
  next same => rw [same, get?_set_self]
  next differs => exact get?_set_of_ne d v differs

theorem get?_eq_some_iff (d : OrderedDict κ ν) (k : κ) (v : ν) :
    d.get? k = some v ↔ (k, v) ∈ d.entries := by
  obtain ⟨l, nodup⟩ := d
  simp only [get?]
  induction l with
  | nil => simp
  | cons e rest ih =>
      obtain ⟨a, b⟩ := e
      simp only [List.map_cons, List.nodup_cons] at nodup
      by_cases same : k = a
      · subst same
        have absent : (k, v) ∉ rest := fun member => nodup.1 (List.mem_map.mpr ⟨_, member, rfl⟩)
        simp [absent, eq_comm]
      · have other : (k == a) = false := by simpa using same
        simp [List.lookup_cons, other, same, ih nodup.2]

theorem mem_values_iff (d : OrderedDict κ ν) (v : ν) : v ∈ d.values ↔ ∃ k, d.get? k = some v := by
  simp only [values, List.mem_map, Prod.exists, exists_eq_right, get?_eq_some_iff]

theorem get?_pop (d : OrderedDict κ ν) (k x : κ) :
    (d.pop k).get? x = if x = k then none else d.get? x := by
  have entry : ∀ v, (d.pop k).get? x = some v ↔ x ≠ k ∧ d.get? x = some v := by
    intro v
    rw [get?_eq_some_iff, get?_eq_some_iff]
    simp [pop, and_comm]
  split
  next same =>
    cases found : (d.pop k).get? x with
    | none => rfl
    | some v => exact absurd same ((entry v).mp found).1
  next differs =>
    cases found : d.get? x with
    | none =>
        cases popped : (d.pop k).get? x with
        | none => rfl
        | some v => exact absurd ((entry v).mp popped).2 (by simp [found])
    | some v => exact (entry v).mpr ⟨differs, found⟩

@[simp] theorem get?_pop_self (d : OrderedDict κ ν) (k : κ) : (d.pop k).get? k = none := by
  simp [get?_pop]

theorem length_setEntries_le (k : κ) (v : ν) (l : List (κ × ν)) :
    (setEntries k v l).length ≤ l.length + 1 := by
  induction l with
  | nil => exact le_rfl
  | cons e rest ih =>
      unfold setEntries
      split
      · simp
      · simpa using ih

/-- Storing adds at most one key, removing a stored key takes one away. -/
theorem length_keys_set_le (d : OrderedDict κ ν) (k : κ) (v : ν) :
    (d.set k v).keys.length ≤ d.keys.length + 1 := by
  simpa only [keys, List.length_map, set] using length_setEntries_le k v d.entries

theorem length_keys_pop_lt {d : OrderedDict κ ν} {e : κ × ν} (stored : e ∈ d.entries) :
    (d.pop e.1).keys.length < d.keys.length := by
  simp only [keys, pop, List.length_map]
  exact List.length_filter_lt_length_iff_exists.mpr ⟨e, stored, by simp⟩

theorem mem_keys_set (d : OrderedDict κ ν) (k x : κ) (v : ν) :
    x ∈ (d.set k v).keys ↔ x = k ∨ x ∈ d.keys := mem_keys_setEntries

theorem mem_keys_ofList (l : List (κ × ν)) (x : κ) : x ∈ (ofList l).keys ↔ x ∈ l.map Prod.fst := by
  have added : ∀ (l : List (κ × ν)) (d : OrderedDict κ ν),
      x ∈ (l.foldl (fun d e => d.set e.1 e.2) d).keys ↔ x ∈ l.map Prod.fst ∨ x ∈ d.keys := by
    intro l
    induction l with
    | nil => simp
    | cons e rest ih =>
        intro d
        rw [List.foldl_cons, ih, mem_keys_set, List.map_cons, List.mem_cons]
        tauto
  have nothing : x ∉ (empty : OrderedDict κ ν).keys := by simp [keys, empty]
  rw [ofList, added]
  exact or_iff_left nothing

theorem mem_values_set {d : OrderedDict κ ν} {k : κ} {v w : ν} (member : w ∈ (d.set k v).values) :
    w = v ∨ w ∈ d.values := by
  obtain ⟨x, found⟩ := (mem_values_iff _ _).mp member
  rw [get?_set] at found
  split at found
  · exact Or.inl (Option.some.inj found).symm
  · exact Or.inr ((mem_values_iff _ _).mpr ⟨x, found⟩)

/-- A dict comprehension stores nothing but the listed values. -/
theorem mem_values_ofList {l : List (κ × ν)} {w : ν} (member : w ∈ (ofList l).values) :
    w ∈ l.map Prod.snd := by
  have stored : ∀ (l : List (κ × ν)) (d : OrderedDict κ ν),
      w ∈ (l.foldl (fun d e => d.set e.1 e.2) d).values → w ∈ l.map Prod.snd ∨ w ∈ d.values := by
    intro l
    induction l with
    | nil => intro d member; exact Or.inr member
    | cons e rest ih =>
        intro d member
        rcases ih _ member with later | here
        · exact Or.inl (List.mem_cons_of_mem _ later)
        · rcases mem_values_set here with same | old
          · exact Or.inl (by simp [same])
          · exact Or.inr old
  rcases stored l empty member with listed | nothing
  · exact listed
  · cases nothing

theorem setEntries_absent {k : κ} {v : ν} {l : List (κ × ν)} (absent : k ∉ l.map Prod.fst) :
    setEntries k v l = l ++ [(k, v)] := by
  induction l with
  | nil => rfl
  | cons e rest ih =>
      simp only [List.map_cons, List.mem_cons, not_or] at absent
      have other : e.1 ≠ k := fun same => absent.1 same.symm
      simp only [setEntries, if_neg other, ih absent.2, List.cons_append]

/-- Pairs with distinct keys are stored as listed. -/
theorem entries_ofList {l : List (κ × ν)} (distinct : (l.map Prod.fst).Nodup) : (ofList l).entries = l := by
  have appended : ∀ (l : List (κ × ν)) (d : OrderedDict κ ν), (d.keys ++ l.map Prod.fst).Nodup →
      (l.foldl (fun d e => d.set e.1 e.2) d).entries = d.entries ++ l := by
    intro l
    induction l with
    | nil => intro d _; simp
    | cons e rest ih =>
        intro d distinct
        have absent : e.1 ∉ d.entries.map Prod.fst := by
          intro member
          exact (List.nodup_append.mp distinct).2.2 e.1 member e.1 (by simp) rfl
        have set_eq : (d.set e.1 e.2).entries = d.entries ++ [e] := setEntries_absent absent
        rw [List.foldl_cons, ih, set_eq, List.append_assoc, List.singleton_append]
        simpa only [keys, set_eq, List.map_append, List.map_cons, List.map_nil, List.append_assoc,
          List.singleton_append] using distinct
  simpa [ofList, keys, empty] using appended l empty (by simpa [keys, empty] using distinct)

theorem ofList_eq_empty_iff (l : List (κ × ν)) : ofList l = empty ↔ l = [] := by
  constructor
  · intro nothing
    cases l with
    | nil => rfl
    | cons e rest =>
        have member : e.1 ∈ (ofList (e :: rest)).keys := (mem_keys_ofList _ _).mpr (by simp)
        rw [nothing] at member
        cases member
  · rintro rfl
    rfl

omit [DecidableEq κ] in
theorem isEmpty_iff (d : OrderedDict κ ν) : d.isEmpty = true ↔ d = empty := by
  constructor
  · intro nothing
    exact ext_entries (List.isEmpty_iff.mp nothing)
  · rintro rfl
    rfl

section Totals

variable {M : Type*} [AddCommGroup M]

/-- Sum of a measure over the stored values. -/
def total (f : ν → M) (d : OrderedDict κ ν) : M := (d.values.map f).sum

/-- Overwriting or adding an entry, for a measure that may look at the key. -/
theorem sum_setEntries (f : κ × ν → M) (k : κ) (v : ν) (l : List (κ × ν)) :
    ((setEntries k v l).map f).sum =
      (l.map f).sum - ((l.lookup k).map fun w => f (k, w)).getD 0 + f (k, v) := by
  induction l with
  | nil => simp [setEntries]
  | cons e rest ih =>
      obtain ⟨a, b⟩ := e
      unfold setEntries
      split
      next same =>
        obtain rfl : a = k := same
        simp only [List.lookup_cons_self, List.map_cons, List.sum_cons, Option.map_some, Option.getD_some]
        abel
      next differs =>
        have other : (k == a) = false := by simpa using fun h => differs h.symm
        simp only [List.lookup_cons, other, List.map_cons, List.sum_cons, ih]
        abel

theorem total_set (f : ν → M) (d : OrderedDict κ ν) (k : κ) (v : ν) :
    (d.set k v).total f = d.total f - ((d.get? k).map f).getD 0 + f v := by
  simpa [total, values, set, get?, List.map_map, Function.comp_def] using
    sum_setEntries (fun e => f e.2) k v d.entries

omit [DecidableEq κ] in
@[simp] theorem total_empty (f : ν → M) : (empty : OrderedDict κ ν).total f = 0 := rfl

/-! A tally adds an amount under a key for every item. -/

variable {α : Type*} (key : α → κ) (amount : α → M)

def tallyStep (d : OrderedDict κ M) (a : α) : OrderedDict κ M := d.set (key a) (d.getD (key a) 0 + amount a)

def tally (items : List α) : OrderedDict κ M := items.foldl (tallyStep key amount) empty

/-- Adding up the keys of a class adds up the items of the class. -/
theorem sum_tally (belongs : κ → Prop) [DecidablePred belongs] (items : List α) :
    ((tally key amount items).entries.map fun e => if belongs e.1 then e.2 else 0).sum =
      (items.map fun a => if belongs (key a) then amount a else 0).sum := by
  have loop : ∀ d : OrderedDict κ M,
      ((items.foldl (tallyStep key amount) d).entries.map fun e => if belongs e.1 then e.2 else 0).sum =
        (d.entries.map fun e => if belongs e.1 then e.2 else 0).sum +
          (items.map fun a => if belongs (key a) then amount a else 0).sum := by
    induction items with
    | nil => simp
    | cons a rest ih =>
        intro d
        rw [List.foldl_cons, ih, List.map_cons, List.sum_cons, ← add_assoc]
        congr 1
        have written := sum_setEntries (fun e : κ × M => if belongs e.1 then e.2 else 0) (key a)
          (d.getD (key a) 0 + amount a) d.entries
        rw [show (tallyStep key amount d a).entries = setEntries (key a) (d.getD (key a) 0 + amount a)
          d.entries from rfl, written, getD, get?]
        by_cases member : belongs (key a)
        · cases d.entries.lookup (key a) with
          | none => simp [member]
          | some present =>
              simp only [member, if_true, Option.map_some, Option.getD_some]
              abel
        · cases d.entries.lookup (key a) <;> simp [member]
  simpa [tally, empty] using loop empty

/-- One key of a tally. -/
theorem getD_tally (items : List α) (k : κ) :
    (tally key amount items).getD k 0 = (items.map fun a => if key a = k then amount a else 0).sum := by
  have loop : ∀ d : OrderedDict κ M, (items.foldl (tallyStep key amount) d).getD k 0 =
      d.getD k 0 + (items.map fun a => if key a = k then amount a else 0).sum := by
    induction items with
    | nil => simp
    | cons a rest ih =>
        intro d
        rw [List.foldl_cons, ih, List.map_cons, List.sum_cons, ← add_assoc]
        congr 1
        by_cases same : key a = k
        · simp [tallyStep, getD, same]
        · simp [tallyStep, getD, get?_set_of_ne _ _ (Ne.symm same), same]
  simpa [tally, getD] using loop empty

/-- A tally has the keys of its items. -/
theorem mem_keys_tally (items : List α) (k : κ) :
    k ∈ (tally key amount items).keys ↔ ∃ a ∈ items, key a = k := by
  have loop : ∀ d : OrderedDict κ M, k ∈ (items.foldl (tallyStep key amount) d).keys ↔
      (∃ a ∈ items, key a = k) ∨ k ∈ d.keys := by
    induction items with
    | nil => simp
    | cons a rest ih =>
        intro d
        rw [List.foldl_cons, ih, tallyStep, mem_keys_set, List.exists_mem_cons_iff, eq_comm (a := k),
          or_left_comm, or_assoc]
  have nothing : k ∉ (empty : OrderedDict κ M).keys := by simp [keys, empty]
  rw [tally, loop]
  exact or_iff_left nothing

end Totals

section Bounds

variable {M : Type*} [AddCommGroup M] [PartialOrder M] [IsOrderedAddMonoid M]

/-- A list of distinct keys whose amounts a non-negative dictionary covers, key
by key, adds up to no more over any class of keys. -/
theorem sum_le_of_covered (belongs : κ → Prop) [DecidablePred belongs] {l : List (κ × M)}
    (distinct : (l.map Prod.fst).Nodup) (d : OrderedDict κ M) (nonneg : ∀ v ∈ d.values, 0 ≤ v)
    (covered : ∀ e ∈ l, e.2 ≤ d.getD e.1 0) :
    (l.map fun e => if belongs e.1 then e.2 else 0).sum ≤
      (d.entries.map fun e => if belongs e.1 then e.2 else 0).sum := by
  induction l generalizing d with
  | nil =>
      apply List.sum_nonneg
      intro amount listed
      obtain ⟨e, member, rfl⟩ := List.mem_map.mp listed
      split
      · exact nonneg e.2 (List.mem_map_of_mem member)
      · exact le_rfl
  | cons e rest ih =>
      -- The key is spent: overwrite it with zero and go on with the rest.
      obtain ⟨absent, distinct_rest⟩ := List.nodup_cons.mp distinct
      have spent := sum_setEntries (fun e : κ × M => if belongs e.1 then e.2 else 0) e.1 0 d.entries
      have later := ih distinct_rest (d.set e.1 0)
        (fun v member => (mem_values_set member).elim (fun zero => zero.ge) (nonneg v))
        (fun other member => by
          have different : other.1 ≠ e.1 := fun same => absent (same ▸ List.mem_map_of_mem member)
          rw [getD, get?_set_of_ne _ _ different]
          exact covered other (List.mem_cons_of_mem _ member))
      have first : (if belongs e.1 then e.2 else 0) ≤
          ((d.entries.lookup e.1).map fun w => if belongs e.1 then w else 0).getD 0 := by
        have stored := covered e List.mem_cons_self
        rw [getD, get?] at stored
        by_cases member : belongs e.1
        · simpa [member] using stored
        · cases d.entries.lookup e.1 <;> simp [member]
      rw [List.map_cons, List.sum_cons]
      refine (add_le_add first later).trans_eq ?_
      rw [set, spent, ite_self, add_zero, add_sub_cancel]

end Bounds

section Mapping

variable {μ : Type*}

theorem lookup_map_value (f : ν → μ) (k : κ) (l : List (κ × ν)) :
    (l.map fun e => (e.1, f e.2)).lookup k = (l.lookup k).map f := by
  induction l with
  | nil => rfl
  | cons e rest ih =>
      obtain ⟨a, b⟩ := e
      simp only [List.map_cons, List.lookup_cons]
      split
      · rfl
      · exact ih

@[simp] theorem get?_mapValues (f : ν → μ) (d : OrderedDict κ ν) (k : κ) :
    (d.mapValues f).get? k = (d.get? k).map f := lookup_map_value f k d.entries

omit [DecidableEq κ] in
theorem total_mapValues {M : Type*} [AddCommGroup M] (g : μ → M) (f : ν → μ)
    (d : OrderedDict κ ν) : (d.mapValues f).total g = d.total fun v => g (f v) := by
  simp [total, values, mapValues, Function.comp_def]

theorem setEntries_middle {k : κ} {v w : ν} {before after : List (κ × ν)}
    (absent : k ∉ before.map Prod.fst) :
    setEntries k w (before ++ (k, v) :: after) = before ++ (k, w) :: after := by
  induction before with
  | nil => simp [setEntries]
  | cons e rest ih =>
      simp only [List.map_cons, List.mem_cons, not_or] at absent
      have other : e.1 ≠ k := fun h => absent.1 h.symm
      simp only [List.cons_append, setEntries, if_neg other, ih absent.2]

theorem entries_set {d : OrderedDict κ ν} {k : κ} {v : ν} (w : ν) {before after : List (κ × ν)}
    (entries_eq : d.entries = before ++ (k, v) :: after) :
    (d.set k w).entries = before ++ (k, w) :: after := by
  have nodup := d.nodup
  simp only [entries_eq, List.map_append, List.map_cons, List.nodup_append, List.mem_cons] at nodup
  have absent : k ∉ before.map Prod.fst := fun member => nodup.2.2 k member k (Or.inl rfl) rfl
  simp only [set, entries_eq, setEntries_middle absent]

/-- Overwriting keeps the keys and their order. -/
theorem keys_set_of_get? {d : OrderedDict κ ν} {k : κ} {v : ν} (found : d.get? k = some v) (w : ν) :
    (d.set k w).keys = d.keys := by
  obtain ⟨before, after, entries_eq⟩ := List.append_of_mem ((d.get?_eq_some_iff k v).mp found)
  simp only [keys, entries_set w entries_eq, entries_eq, List.map_append, List.map_cons]

/-- The entries under one key. -/
theorem filter_key (d : OrderedDict κ ν) (k : κ) :
    d.entries.filter (fun e => e.1 = k) = ((d.get? k).map fun v => (k, v)).toList := by
  cases found : d.get? k with
  | none =>
      rw [Option.map_none, Option.toList_none, List.filter_eq_nil_iff]
      rintro ⟨x, v⟩ member same
      rw [decide_eq_true_eq] at same
      have stored := (d.get?_eq_some_iff x v).mpr member
      rw [show x = k from same, found] at stored
      cases stored
  | some v =>
      obtain ⟨before, after, entries_eq⟩ := List.append_of_mem ((d.get?_eq_some_iff k v).mp found)
      have nodup := d.nodup
      simp only [entries_eq, List.map_append, List.map_cons, List.nodup_append, List.nodup_cons,
        List.mem_cons] at nodup
      have others : ∀ e ∈ before ++ after, ¬ e.1 = k := by
        intro e member same
        rcases List.mem_append.mp member with earlier | later
        · exact nodup.2.2 e.1 (List.mem_map_of_mem earlier) k (.inl rfl) same
        · apply nodup.2.1.1
          rw [← same]
          exact List.mem_map_of_mem later
      rw [entries_eq, List.filter_append, List.filter_cons_of_pos (by simp),
        List.filter_eq_nil_iff.mpr fun e member => by simpa using others e (List.mem_append_left _ member),
        List.filter_eq_nil_iff.mpr fun e member => by simpa using others e (List.mem_append_right _ member)]
      rfl

/-- Writing back what is stored changes nothing. -/
theorem set_of_get? {d : OrderedDict κ ν} {k : κ} {v : ν} (found : d.get? k = some v) :
    d.set k v = d := by
  obtain ⟨before, after, entries_eq⟩ := List.append_of_mem ((d.get?_eq_some_iff k v).mp found)
  apply ext_entries
  rw [entries_set v entries_eq, entries_eq]

/-- A loop over the entries that rewrites the entry it visits with `f` maps the
whole dictionary, whatever else it does to the state it threads. -/
theorem foldl_mapValues {σ : Type*} (dict : σ → OrderedDict κ ν) (step : σ → κ × ν → σ) (f : ν → ν)
    (writes : ∀ s e, (dict s).get? e.1 = some e.2 → dict (step s e) = (dict s).set e.1 (f e.2))
    (s : σ) : dict ((dict s).entries.foldl step s) = (dict s).mapValues f := by
  have visited : ∀ (rest before : List (κ × ν)) (s : σ), (dict s).entries = before ++ rest →
      (dict (rest.foldl step s)).entries = before ++ rest.map fun e => (e.1, f e.2) := by
    intro rest
    induction rest with
    | nil => intro before s entries_eq; simpa using entries_eq
    | cons e rest ih =>
        intro before s entries_eq
        have current : (dict s).get? e.1 = some e.2 :=
          ((dict s).get?_eq_some_iff e.1 e.2).mpr (by simp [entries_eq])
        have rewritten : (dict (step s e)).entries = (before ++ [(e.1, f e.2)]) ++ rest := by
          rw [writes s e current, entries_set (f e.2) entries_eq]
          simp
        simpa using ih (before ++ [(e.1, f e.2)]) (step s e) rewritten
  apply ext_entries
  simpa [mapValues] using visited (dict s).entries [] s rfl

end Mapping

section Rows

variable {ρ : Type*} (row : κ × ν → ρ) (key : ρ → κ)

/-- A list that loses no entry when it is stored has distinct keys. -/
theorem nodup_of_length_le {l : List (κ × ν)} (whole : l.length ≤ (ofList l).entries.length) :
    (l.map Prod.fst).Nodup := by
  have stored : (ofList l).keys.Subperm (l.map Prod.fst) :=
    List.subperm_of_subset (ofList l).nodup fun k member => (mem_keys_ofList l k).mp member
  have same := stored.perm_of_length_le (by simpa [keys] using whole)
  exact same.nodup_iff.mp (ofList l).nodup

omit [DecidableEq κ] in
/-- Lists with the same distinct keys in the same order that are permutations of
each other are equal. -/
theorem eq_of_perm_of_keys {l next : List ρ} (perm : l.Perm next) (aligned : next.map key = l.map key)
    (distinct : (l.map key).Nodup) : l = next := by
  apply List.ext_getElem perm.length_eq
  intro i here there
  have same : key next[i] = key l[i] := by
    have at_i := congrArg (fun keys => keys[i]?) aligned
    simpa [here, there] using at_i
  exact (List.inj_on_of_nodup_map distinct (perm.mem_iff.mpr (List.getElem_mem there))
    (List.getElem_mem here) same).symm

omit [DecidableEq κ] in
theorem map_row_keys (keyed : ∀ e, key (row e) = e.1) (l : List (κ × ν)) :
    (l.map row).map key = l.map Prod.fst := by
  rw [List.map_map]
  exact List.map_congr_left fun e _ => keyed e

/-- What is stored of a list has the rows of a second list under the same keys
exactly when no key repeats and the rows are equal one by one. -/
theorem perm_ofList_iff (keyed : ∀ e, key (row e) = e.1) (l next : List (κ × ν))
    (aligned : next.map Prod.fst = l.map Prod.fst) :
    ((ofList l).entries.map row).Perm (next.map row) ↔
      (l.map Prod.fst).Nodup ∧ next.map row = l.map row := by
  constructor
  · intro perm
    have stored := perm.length_eq
    have listed := congrArg List.length aligned
    rw [List.length_map, List.length_map] at stored listed
    have distinct : (l.map Prod.fst).Nodup := nodup_of_length_le (by omega)
    rw [entries_ofList distinct] at perm
    refine ⟨distinct, (eq_of_perm_of_keys key perm ?_ ?_).symm⟩
    · rw [map_row_keys row key keyed, map_row_keys row key keyed, aligned]
    · rwa [map_row_keys row key keyed]
  · rintro ⟨distinct, same⟩
    rw [entries_ofList distinct, same]

/-- A dictionary has the rows of a list of the same keys exactly when every
listed entry has the row of the one stored under its key. -/
theorem perm_entries_iff (keyed : ∀ e, key (row e) = e.1) (d : OrderedDict κ ν) {next : List (κ × ν)}
    (same : (next.map Prod.fst).Perm d.keys) :
    (d.entries.map row).Perm (next.map row) ↔
      ∀ e ∈ next, ∀ v, d.get? e.1 = some v → row (e.1, v) = row e := by
  have rows_nodup : ∀ l : List (κ × ν), (l.map Prod.fst).Nodup → (l.map row).Nodup := by
    intro l distinct
    apply List.Nodup.of_map key
    rwa [map_row_keys row key keyed]
  have listed_nodup : (next.map Prod.fst).Nodup := same.nodup_iff.mpr d.nodup
  constructor
  · intro perm e listed v stored
    obtain ⟨⟨k, w⟩, found, row_eq⟩ :=
      List.mem_map.mp (perm.mem_iff.mpr (List.mem_map.mpr ⟨e, listed, rfl⟩))
    obtain rfl : k = e.1 := ((keyed (k, w)).symm.trans (congrArg key row_eq)).trans (keyed e)
    rw [(d.get?_eq_some_iff _ _).mpr found] at stored
    cases stored
    exact row_eq
  · intro agree
    rw [List.perm_ext_iff_of_nodup (rows_nodup _ d.nodup) (rows_nodup _ listed_nodup)]
    intro r
    constructor
    · intro member
      obtain ⟨⟨k, w⟩, found, rfl⟩ := List.mem_map.mp member
      have known : k ∈ next.map Prod.fst := same.mem_iff.mpr (List.mem_map.mpr ⟨_, found, rfl⟩)
      obtain ⟨e, listed, rfl⟩ := List.mem_map.mp known
      exact List.mem_map.mpr ⟨e, listed,
        (agree e listed w ((d.get?_eq_some_iff _ _).mpr found)).symm⟩
    · intro member
      obtain ⟨e, listed, rfl⟩ := List.mem_map.mp member
      have known : e.1 ∈ d.keys := same.mem_iff.mp (List.mem_map.mpr ⟨e, listed, rfl⟩)
      obtain ⟨⟨k, w⟩, found, own⟩ := List.mem_map.mp known
      obtain rfl : k = e.1 := own
      exact List.mem_map.mpr ⟨_, found, agree e listed w ((d.get?_eq_some_iff _ _).mpr found)⟩

end Rows

section Upserts

variable (key : ν → κ)

/-- The last value of a list under a key. -/
def lastWith (l : List ν) (k : κ) : Option ν := l.reverse.find? fun v => key v = k

/-- Each value of the list stored under its key, in order. -/
def upsertAll (d : OrderedDict κ ν) (l : List ν) : OrderedDict κ ν := l.foldl (fun d v => d.set (key v) v) d

theorem lastWith_eq_some {l : List ν} {k : κ} {v : ν} (last : lastWith key l k = some v) :
    v ∈ l ∧ key v = k :=
  ⟨List.mem_reverse.mp (List.mem_of_find?_eq_some last), by simpa using List.find?_some last⟩

theorem lastWith_eq_none_iff {l : List ν} {k : κ} : lastWith key l k = none ↔ ∀ v ∈ l, key v ≠ k := by
  simp [lastWith]

theorem lastWith_map {β : Type*} (key : β → κ) (l : List β) (k : κ) :
    lastWith Prod.fst (l.map fun v => (key v, v)) k = (lastWith key l k).map fun v => (key v, v) := by
  simp only [lastWith, ← List.map_reverse, List.find?_map]
  rfl

theorem get?_foldl_set (d : OrderedDict κ ν) (l : List (κ × ν)) (k : κ) :
    (l.foldl (fun d e => d.set e.1 e.2) d).get? k = ((lastWith Prod.fst l k).map Prod.snd).or (d.get? k) := by
  induction l using List.reverseRecOn with
  | nil => rfl
  | append_singleton l e ih =>
      simp only [lastWith] at ih
      simp only [lastWith, List.foldl_append, List.foldl_cons, List.foldl_nil, get?_set,
        List.reverse_append, List.reverse_singleton, List.singleton_append, List.find?_cons, ih]
      by_cases same : e.1 = k
      · simp [same]
      · simp [same, Ne.symm same]

theorem get?_upsertAll (d : OrderedDict κ ν) (l : List ν) (k : κ) :
    (d.upsertAll key l).get? k = (lastWith key l k).or (d.get? k) := by
  have paired : d.upsertAll key l =
      (l.map fun v => (key v, v)).foldl (fun d e => d.set e.1 e.2) d := by
    rw [List.foldl_map]
    rfl
  rw [paired, get?_foldl_set, lastWith_map, Option.map_map]
  exact congrArg (Option.or · _) Option.map_id'

/-- Keeping a list under its keys and reading one back finds the last entry of the key. -/
theorem get?_ofList (l : List (κ × ν)) (k : κ) :
    (ofList l).get? k = (lastWith Prod.fst l k).map Prod.snd := by
  rw [ofList, get?_foldl_set, get?_empty, Option.or_none]

/-- One value under every key of a list. -/
theorem get?_ofList_const (keys : List κ) (v : ν) (k : κ) :
    (ofList (keys.map fun key => (key, v))).get? k = if k ∈ keys then some v else none := by
  rw [get?_ofList]
  by_cases member : k ∈ keys
  · rw [if_pos member]
    cases last : lastWith Prod.fst (keys.map fun key => (key, v)) k with
    | none =>
        rw [lastWith_eq_none_iff] at last
        exact absurd rfl (last (k, v) (List.mem_map.mpr ⟨k, member, rfl⟩))
    | some e =>
        obtain ⟨key, -, rfl⟩ := List.mem_map.mp (lastWith_eq_some _ last).1
        rfl
  · rw [if_neg member, Option.map_eq_none_iff, lastWith_eq_none_iff]
    rintro e listed rfl
    obtain ⟨key, known, rfl⟩ := List.mem_map.mp listed
    exact member known

/-- A dict comprehension over the entries of another that leaves some out. -/
theorem get?_ofList_entries {μ : Type*} (d : OrderedDict κ ν) (value : κ → ν → Option μ) (k : κ) :
    (ofList (d.entries.filterMap fun e => (value e.1 e.2).map fun w => (e.1, w))).get? k =
      (d.get? k).bind (value k) := by
  have sublist : ((d.entries.filterMap fun e => (value e.1 e.2).map fun w => (e.1, w)).map Prod.fst).Sublist
      (d.entries.map Prod.fst) := by
    rw [List.map_filterMap, ← List.filterMap_eq_map]
    have kept (e : κ × ν) : ((value e.1 e.2).map fun w => (e.1, w)).map Prod.fst =
        (value e.1 e.2).bind fun _ => some e.1 := by
      cases value e.1 e.2 <;> rfl
    simp only [kept]
    induction d.entries with
    | nil => exact List.Sublist.refl _
    | cons e rest ih =>
        cases own : value e.1 e.2 with
        | none => simpa [own] using ih.cons e.1
        | some w => simpa [own] using ih
  ext w
  rw [get?_eq_some_iff, entries_ofList (d.nodup.sublist sublist)]
  constructor
  · intro member
    obtain ⟨e, stored, same⟩ := List.mem_filterMap.mp member
    obtain ⟨w', valued, same⟩ := Option.map_eq_some_iff.mp same
    cases same
    exact Option.bind_eq_some_iff.mpr ⟨e.2, (d.get?_eq_some_iff e.1 e.2).mpr stored, valued⟩
  · intro found
    obtain ⟨v, stored, valued⟩ := Option.bind_eq_some_iff.mp found
    refine List.mem_filterMap.mpr ⟨(k, v), (d.get?_eq_some_iff k v).mp stored, ?_⟩
    rw [valued]
    rfl

/-- `d.update(other)`. -/
def update (d other : OrderedDict κ ν) : OrderedDict κ ν := other.entries.foldl (fun d e => d.set e.1 e.2) d

/-- The entries of the update shadow the others. -/
theorem get?_update (d other : OrderedDict κ ν) (k : κ) :
    (d.update other).get? k = (other.get? k).or (d.get? k) := by
  have rebuilt : ofList other.entries = other := ext_entries (entries_ofList other.nodup)
  rw [update, get?_foldl_set, ← get?_ofList, rebuilt]

theorem keys_upsertAll {d : OrderedDict κ ν} {l : List ν} (present : ∀ v ∈ l, (d.get? (key v)).isSome) :
    (d.upsertAll key l).keys = d.keys := by
  induction l generalizing d with
  | nil => rfl
  | cons v rest ih =>
      obtain ⟨stored, found⟩ := Option.isSome_iff_exists.mp (present v List.mem_cons_self)
      have kept : ∀ w ∈ rest, ((d.set (key v) v).get? (key w)).isSome := by
        intro w member
        rw [get?_set]
        split
        · rfl
        · exact present w (List.mem_cons_of_mem v member)
      exact (ih kept).trans (keys_set_of_get? found v)

/-- The keys in order and what is stored under each make the dictionary. -/
theorem entries_eq_filterMap (d : OrderedDict κ ν) :
    d.entries = d.keys.filterMap fun k => (d.get? k).map fun v => (k, v) := by
  rw [keys, List.filterMap_map]
  symm
  calc d.entries.filterMap ((fun k => (d.get? k).map fun v => (k, v)) ∘ Prod.fst)
      = d.entries.filterMap some := by
        apply List.filterMap_congr
        intro e member
        simp [(d.get?_eq_some_iff e.1 e.2).mpr member]
    _ = d.entries := List.filterMap_some

theorem ext_get? {d d' : OrderedDict κ ν} (ordered : d.keys = d'.keys)
    (lookups : ∀ k, d.get? k = d'.get? k) : d = d' := by
  apply ext_entries
  rw [entries_eq_filterMap d, entries_eq_filterMap d', ordered]
  simp only [lookups]

/-- A list of values changes nothing exactly when the last one under each key is
what is stored there. -/
theorem upsertAll_eq_self_iff (d : OrderedDict κ ν) (l : List ν) :
    d.upsertAll key l = d ↔ ∀ k, ∀ v ∈ lastWith key l k, d.get? k = some v := by
  constructor
  · intro same k v last
    have found := get?_upsertAll key d l k
    rwa [same, Option.mem_def.mp last] at found
  · intro restated
    refine ext_get? (keys_upsertAll key fun v member => ?_) fun k => ?_
    · cases last : lastWith key l (key v) with
      | none =>
          have absent := List.find?_eq_none.mp last v (List.mem_reverse.mpr member)
          simp at absent
      | some w => simp [restated (key v) w last]
    · rw [get?_upsertAll]
      cases last : lastWith key l k with
      | none => rfl
      | some v => exact (restated k v last).symm

end Upserts

end OrderedDict
