import CatsPy.OrderedDict

/-!
# Grouping

Rows collected under a key each, in one pass. A group is what filtering by its
key leaves, and the groups together are the rows, none lost and none repeated.
-/
namespace Grouping

variable {α κ : Type*} [DecidableEq κ] (key : α → κ)

/-- `groups.setdefault(key, []).append(row)`. -/
def collect (groups : OrderedDict κ (List α)) (row : α) : OrderedDict κ (List α) :=
  groups.set (key row) (groups.getD (key row) [] ++ [row])

def grouped (rows : List α) : OrderedDict κ (List α) := rows.foldl (collect key) .empty

theorem grouped_snoc (rows : List α) (row : α) :
    grouped key (rows ++ [row]) = collect key (grouped key rows) row := by
  rw [grouped, List.foldl_append]
  rfl

theorem flatten_setEntries (k : κ) (row : α) (l : List (κ × List α)) :
    ((OrderedDict.setEntries k ((l.lookup k).getD [] ++ [row]) l).map Prod.snd).flatten.Perm
      (row :: (l.map Prod.snd).flatten) := by
  induction l with
  | nil => exact .refl _
  | cons e rest ih =>
      obtain ⟨a, group⟩ := e
      unfold OrderedDict.setEntries
      split
      next same =>
        obtain rfl : a = k := same
        simp only [List.lookup_cons_self, Option.getD_some, List.map_cons, List.flatten_cons, List.append_assoc,
          List.singleton_append]
        exact List.perm_middle
      next differs =>
        have other : (k == a) = false := by simpa using fun same => differs same.symm
        simp only [List.lookup_cons, other, List.map_cons, List.flatten_cons]
        exact (ih.append_left group).trans List.perm_middle

theorem values_grouped_perm (rows : List α) : (grouped key rows).values.flatten.Perm rows := by
  induction rows using List.reverseRecOn with
  | nil => exact .refl _
  | append_singleton rows row ih =>
      rw [grouped_snoc]
      exact (flatten_setEntries (key row) row _).trans
        ((ih.cons row).trans (List.perm_append_singleton row rows).symm)

theorem getD_grouped (rows : List α) (k : κ) :
    (grouped key rows).getD k [] = rows.filter fun row => key row = k := by
  induction rows using List.reverseRecOn with
  | nil => rfl
  | append_singleton rows row ih =>
      rw [grouped_snoc, collect, OrderedDict.getD, OrderedDict.get?_set, List.filter_append]
      by_cases own : k = key row
      · subst own
        simp [ih]
      · rw [if_neg own]
        simpa [OrderedDict.getD, Ne.symm own] using ih

theorem get?_grouped {rows : List α} {k : κ} {group : List α} (found : (grouped key rows).get? k = some group) :
    group = rows.filter fun row => key row = k := by
  rw [← getD_grouped, OrderedDict.getD, found, Option.getD_some]

theorem mem_keys_grouped (rows : List α) (k : κ) : k ∈ (grouped key rows).keys ↔ ∃ row ∈ rows, key row = k := by
  induction rows using List.reverseRecOn with
  | nil => simp [grouped, OrderedDict.keys, OrderedDict.empty]
  | append_singleton rows row ih =>
      rw [grouped_snoc, collect, OrderedDict.mem_keys_set, ih]
      simp only [List.mem_append, List.mem_singleton]
      constructor
      · rintro (rfl | ⟨other, listed, keyed⟩)
        · exact ⟨row, .inr rfl, rfl⟩
        · exact ⟨other, .inl listed, keyed⟩
      · rintro ⟨other, listed | rfl, keyed⟩
        · exact .inr ⟨other, listed, keyed⟩
        · exact .inl keyed.symm

/-- No group is empty. -/
theorem group_ne_nil {rows : List α} {k : κ} {group : List α} (listed : (k, group) ∈ (grouped key rows).entries) :
    group ≠ [] := by
  obtain ⟨row, known, keyed⟩ := (mem_keys_grouped key rows k).mp (List.mem_map_of_mem listed)
  rw [get?_grouped key ((OrderedDict.get?_eq_some_iff _ k group).mpr listed)]
  exact List.ne_nil_of_mem (List.mem_filter.mpr ⟨known, by simpa using keyed⟩)

section Totals

variable {M : Type*} [AddCommMonoid M]

/-- What is added up in each group adds up over all rows. -/
theorem sum_groups (amount : α → M) (keep : α → Bool) (rows : List α) :
    ((grouped key rows).values.map fun group => ((group.filter keep).map amount).sum).sum =
      ((rows.filter keep).map amount).sum := by
  have nested : ∀ groups : List (List α),
      (groups.map fun group => ((group.filter keep).map amount).sum).sum =
        ((groups.flatten.filter keep).map amount).sum := by
    intro groups
    induction groups with
    | nil => rfl
    | cons group rest ih => simp [ih]
  rw [nested]
  exact (((values_grouped_perm key rows).filter keep).map amount).sum_eq

theorem count_groups (keep : α → Bool) (rows : List α) :
    ((grouped key rows).values.map fun group => (group.filter keep).length).sum = (rows.filter keep).length := by
  simpa using sum_groups key (fun _ => (1 : ℕ)) keep rows

end Totals

end Grouping
