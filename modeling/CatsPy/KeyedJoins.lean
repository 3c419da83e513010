import CatsPy.OrderedDict
import Mathlib.Algebra.BigOperators.Group.Finset.Basic

/-!
# Joins on part of a key

Rows and items carry a key of two parts, and a row is joined with the last item
that shares the first part. The join is faithful when the first part alone
already tells the items apart.
-/
namespace KeyedJoins

variable {α β κ γ : Type*} [DecidableEq κ] [DecidableEq γ] (rowKey : α → κ × γ) (itemKey : β → κ × γ)
  (items : List β) (row : α)

/-- The item of the row's own key. -/
def own : Option β := items.find? fun item => itemKey item = rowKey row

/-- The last item that shares the first part of the row's key. -/
def joined : Option β := OrderedDict.lastWith (fun item => (itemKey item).1) items (rowKey row).1

variable {rowKey itemKey items row}

theorem own_eq_some_iff (once : (items.map itemKey).Nodup) {item : β} :
    own rowKey itemKey items row = some item ↔ item ∈ items ∧ itemKey item = rowKey row := by
  constructor
  · intro found
    exact ⟨List.mem_of_find?_eq_some found, by simpa using List.find?_some found⟩
  · rintro ⟨listed, keyed⟩
    cases found : own rowKey itemKey items row with
    | none =>
        have absent := List.find?_eq_none.mp found item listed
        simp [keyed] at absent
    | some other =>
        have same : itemKey other = itemKey item := by
          rw [keyed]
          simpa using List.find?_some found
        rw [List.inj_on_of_nodup_map once (List.mem_of_find?_eq_some found) listed same]

/-- Every row is joined with its own item exactly when no row shares the first
part of an item's key without sharing the second. -/
theorem joined_eq_own_iff {rows : List α} (once : (items.map itemKey).Nodup)
    (covered : ∀ item ∈ items, ∃ row ∈ rows, rowKey row = itemKey item) :
    (∀ row ∈ rows, joined rowKey itemKey items row = own rowKey itemKey items row) ↔
      ∀ item ∈ items, ∀ row ∈ rows, (itemKey item).1 = (rowKey row).1 → itemKey item = rowKey row := by
  constructor
  · intro faithful item listed row known shared
    cases last : joined rowKey itemKey items row with
    | none => exact absurd shared ((OrderedDict.lastWith_eq_none_iff _).mp last item listed)
    | some other =>
        have of_row : itemKey other = rowKey row :=
          ((own_eq_some_iff once).mp ((faithful row known).symm.trans last)).2
        obtain ⟨source, source_known, source_key⟩ := covered item listed
        have again : joined rowKey itemKey items source = some other := by
          rw [joined, source_key, shared]
          exact last
        have of_source : itemKey other = rowKey source :=
          ((own_eq_some_iff once).mp ((faithful source source_known).symm.trans again)).2
        rw [← source_key, ← of_source, of_row]
  · intro separate row known
    cases last : joined rowKey itemKey items row with
    | none =>
        symm
        apply List.find?_eq_none.mpr
        intro item listed keyed
        rw [decide_eq_true_eq] at keyed
        exact (OrderedDict.lastWith_eq_none_iff _).mp last item listed (congrArg Prod.fst keyed)
    | some item =>
        obtain ⟨listed, shared⟩ := OrderedDict.lastWith_eq_some _ last
        exact ((own_eq_some_iff once).mpr ⟨listed, separate item listed row known shared⟩).symm

section Sums

variable {M : Type*} [AddCommMonoid M] (amount : β → M)

/-- The amount of the item of a key, if there is one. -/
def booked (itemKey : β → κ × γ) (items : List β) (key : κ × γ) : M :=
  ((items.find? fun item => itemKey item = key).map amount).getD 0

theorem booked_of_item (once : (items.map itemKey).Nodup) {item : β} (listed : item ∈ items) :
    booked amount itemKey items (itemKey item) = amount item := by
  have found : own itemKey itemKey items item = some item := (own_eq_some_iff once).mpr ⟨listed, rfl⟩
  rw [own] at found
  simp only [booked, found, Option.map_some, Option.getD_some]

theorem booked_of_absent {key : κ × γ} (absent : key ∉ items.map itemKey) :
    booked amount itemKey items key = 0 := by
  have none_found : (items.find? fun item => itemKey item = key) = none := by
    rw [List.find?_eq_none]
    intro item listed keyed
    rw [decide_eq_true_eq] at keyed
    exact absent (List.mem_map.mpr ⟨item, listed, keyed⟩)
  simp only [booked, none_found, Option.map_none, Option.getD_none]

/-- What the rows' own items add up to is what the items do. -/
theorem sum_own {rows : List α} (distinct : (rows.map rowKey).Nodup) (once : (items.map itemKey).Nodup)
    (covered : ∀ item ∈ items, ∃ row ∈ rows, rowKey row = itemKey item) :
    (rows.map fun row => ((own rowKey itemKey items row).map amount).getD 0).sum =
      (items.map amount).sum := by
  have within : (items.map itemKey).toFinset ⊆ (rows.map rowKey).toFinset := by
    intro key member
    obtain ⟨item, listed, rfl⟩ := List.mem_map.mp (List.mem_toFinset.mp member)
    obtain ⟨row, known, keyed⟩ := covered item listed
    exact List.mem_toFinset.mpr (List.mem_map.mpr ⟨row, known, keyed⟩)
  have unbooked : ∀ key ∈ (rows.map rowKey).toFinset, key ∉ (items.map itemKey).toFinset →
      booked amount itemKey items key = 0 :=
    fun key _ absent => booked_of_absent amount (mt List.mem_toFinset.mpr absent)
  -- both sides are sums over keys: of all rows, and of the items among them
  calc (rows.map fun row => ((own rowKey itemKey items row).map amount).getD 0).sum
      = ((rows.map rowKey).map (booked amount itemKey items)).sum := by rw [List.map_map]; rfl
    _ = ∑ key ∈ (rows.map rowKey).toFinset, booked amount itemKey items key :=
        (List.sum_toFinset _ distinct).symm
    _ = ∑ key ∈ (items.map itemKey).toFinset, booked amount itemKey items key :=
        (Finset.sum_subset within unbooked).symm
    _ = ((items.map itemKey).map (booked amount itemKey items)).sum := List.sum_toFinset _ once
    _ = (items.map amount).sum := by
        rw [List.map_map]
        exact congrArg List.sum (List.map_congr_left fun item => booked_of_item amount once)

end Sums

end KeyedJoins
