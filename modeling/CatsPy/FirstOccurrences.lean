import CatsPy.OrderedDict
import Mathlib.Data.Finset.Lattice.Lemmas

/-!
# First occurrences

Removing repetitions and keeping the first occurrence of each element, in
order: what filtering does to it, and the two loops that compute it, the keys of
a dictionary and a list beside the set of what was seen.
-/
namespace FirstOccurrences

variable {α : Type*} [DecidableEq α]

/-- One more element at the end. -/
theorem eraseDups_append_singleton (l : List α) (a : α) :
    (l ++ [a]).eraseDups = if a ∈ l then l.eraseDups else l.eraseDups ++ [a] := by
  rw [List.eraseDups_append]
  by_cases known : a ∈ l
  · simp [List.removeAll, known]
  · simp [List.removeAll, known, List.eraseDups_cons]

theorem nodup_eraseDups (l : List α) : l.eraseDups.Nodup := by
  induction l using List.reverseRecOn with
  | nil => exact List.nodup_nil
  | append_singleton l a ih =>
      rw [eraseDups_append_singleton]
      split
      · exact ih
      next fresh =>
        rw [← List.concat_eq_append]
        exact ih.concat fun member => fresh (List.mem_eraseDups.mp member)

/-- Only lists without repetitions are left as they are. -/
theorem eraseDups_eq_self_iff (l : List α) : l.eraseDups = l ↔ l.Nodup := by
  constructor
  · intro same
    rw [← same]
    exact nodup_eraseDups l
  · intro distinct
    induction l using List.reverseRecOn with
    | nil => rfl
    | append_singleton l a ih =>
        obtain ⟨before, -, apart⟩ := List.nodup_append.mp distinct
        have fresh : a ∉ l := fun member => apart a member a List.mem_cons_self rfl
        rw [eraseDups_append_singleton, if_neg fresh, ih before]

/-- Repetitions may be removed before or after a selection. -/
theorem filter_eraseDups (p : α → Bool) (l : List α) : l.eraseDups.filter p = (l.filter p).eraseDups := by
  induction l using List.reverseRecOn with
  | nil => rfl
  | append_singleton l a ih =>
      rw [eraseDups_append_singleton, List.filter_append]
      cases kept : p a with
      | true =>
          have same : a ∈ l.filter p ↔ a ∈ l := by simp [kept]
          rw [List.filter_cons_of_pos kept, List.filter_nil, eraseDups_append_singleton, ← ih]
          simp only [same]
          split
          · rfl
          · rw [List.filter_append, List.filter_cons_of_pos kept, List.filter_nil]
      | false =>
          have dropped : ¬ p a = true := by simp [kept]
          rw [List.filter_cons_of_neg dropped, List.filter_nil, List.append_nil, ← ih]
          split
          · rfl
          · rw [List.filter_append, List.filter_cons_of_neg dropped, List.filter_nil, List.append_nil]

theorem eraseDups_filter_eq_iff (p : α → Bool) (l : List α) :
    l.eraseDups.filter p = l.filter p ↔ (l.filter p).Nodup := by
  rw [filter_eraseDups, eraseDups_eq_self_iff]

section Loop

/-- One pass of the loop that keeps a list beside the set of what was seen. -/
def keepNew (acc : Finset α × List α) (a : α) : Finset α × List α :=
  if a ∈ acc.1 then acc else (insert a acc.1, acc.2 ++ [a])

theorem foldl_keepNew (l : List α) : l.foldl keepNew (∅, []) = (l.toFinset, l.eraseDups) := by
  induction l using List.reverseRecOn with
  | nil => rfl
  | append_singleton l a ih =>
      rw [List.foldl_append, List.foldl_cons, List.foldl_nil, ih, eraseDups_append_singleton,
        List.toFinset_append]
      simp only [keepNew, List.mem_toFinset]
      split
      next known => simp [known]
      next fresh =>
        rw [List.toFinset_cons, List.toFinset_nil, insert_empty_eq, Finset.union_comm, ← Finset.insert_eq]

end Loop

section Dictionaries

variable {ν : Type*}

theorem keys_set (d : OrderedDict α ν) (k : α) (v : ν) :
    (d.set k v).keys = if k ∈ d.keys then d.keys else d.keys ++ [k] := by
  split
  next known =>
    obtain ⟨e, stored, rfl⟩ := List.mem_map.mp known
    exact OrderedDict.keys_set_of_get? ((d.get?_eq_some_iff e.1 e.2).mpr stored) v
  next fresh =>
    simp only [OrderedDict.keys, OrderedDict.set, OrderedDict.setEntries_absent fresh, List.map_append,
      List.map_cons, List.map_nil]

/-- A dict comprehension has its keys in the order of their first occurrences. -/
theorem keys_ofList (l : List (α × ν)) : (OrderedDict.ofList l).keys = (l.map Prod.fst).eraseDups := by
  induction l using List.reverseRecOn with
  | nil => rfl
  | append_singleton l e ih =>
      have last : OrderedDict.ofList (l ++ [e]) = (OrderedDict.ofList l).set e.1 e.2 := by
        simp [OrderedDict.ofList]
      rw [last, keys_set, ih, List.map_append, List.map_cons, List.map_nil, eraseDups_append_singleton]
      simp only [List.mem_eraseDups]

end Dictionaries

end FirstOccurrences
