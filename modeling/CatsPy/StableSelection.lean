import Mathlib.Data.List.Sort
import Mathlib.Data.List.Forall2

/-!
# Selection from a stable descending sort

Sorting from high to low score and taking the first element that passes a test
selects the best passing element of the original list, the earliest on ties.
-/
namespace StableSelection

variable {α ρ : Type*} [LinearOrder ρ] (score : α → ρ) (passes : α → Bool)

/-- Position `i` holds the best passing element, and no earlier position one as
good. -/
structure FirstBest (l : List α) (i : ℕ) (a : α) : Prop where
  listed : l[i]? = some a
  passing : passes a = true
  best : ∀ j b, l[j]? = some b → passes b = true → score b < score a ∨ score b = score a ∧ i ≤ j

theorem FirstBest.unique {l : List α} {i j : ℕ} {a b : α} (one : FirstBest score passes l i a)
    (other : FirstBest score passes l j b) : i = j ∧ a = b := by
  have same : i = j := by
    rcases one.best j b other.listed other.passing with lower | ⟨equal, le⟩
    · rcases other.best i a one.listed one.passing with higher | ⟨equal, -⟩
      · exact absurd lower higher.asymm
      · exact absurd equal lower.ne'
    · rcases other.best i a one.listed one.passing with higher | ⟨-, ge⟩
      · exact absurd equal higher.ne'
      · exact le_antisymm le ge
  subst same
  exact ⟨rfl, Option.some.inj (one.listed.symm.trans other.listed)⟩

/-- Searching after an insertion: the new element wins when it passes and
nothing passing has a higher score. -/
theorem find?_orderedInsert (x : α) {s : List α} (sorted : s.Pairwise fun a b => score b ≤ score a) :
    (s.orderedInsert (fun a b => score b ≤ score a) x).find? passes =
      match s.find? passes with
      | none => if passes x then some x else none
      | some y => if passes x ∧ score y ≤ score x then some x else some y := by
  induction s with
  | nil => cases own : passes x <;> simp [own]
  | cons b rest ih =>
      obtain ⟨below, sorted_rest⟩ := List.pairwise_cons.mp sorted
      by_cases first : score b ≤ score x
      · rw [List.orderedInsert_cons, if_pos first]
        cases found : (b :: rest).find? passes with
        | none => cases own : passes x <;> simp [own, found]
        | some y =>
            have bound : score y ≤ score x := by
              rcases List.mem_cons.mp (List.mem_of_find?_eq_some found) with rfl | later
              · exact first
              · exact (below y later).trans first
            cases own : passes x <;> simp [own, found, bound]
      · rw [List.orderedInsert_cons, if_neg first]
        cases own : passes b with
        | true => simp [own, first]
        | false => simp only [List.find?_cons, own, ih sorted_rest]

/-- The comparison is total and transitive, so the sort is sorted. -/
theorem pairwise_descending (l : List α) :
    (l.insertionSort fun a b => score b ≤ score a).Pairwise fun a b => score b ≤ score a := by
  have : Std.Total fun a b : α => score b ≤ score a := ⟨fun a b => le_total (score b) (score a)⟩
  have : IsTrans α fun a b => score b ≤ score a := ⟨fun _ _ _ first second => second.trans first⟩
  exact List.pairwise_insertionSort _ l

theorem firstBest_of_find? {l : List α} {a : α}
    (found : (l.insertionSort fun a b => score b ≤ score a).find? passes = some a) :
    ∃ i, FirstBest score passes l i a := by
  induction l generalizing a with
  | nil => cases found
  | cons x rest ih =>
      rw [List.insertionSort_cons, find?_orderedInsert score passes x (pairwise_descending score rest)]
        at found
      cases searched : (rest.insertionSort fun a b => score b ≤ score a).find? passes with
      | none =>
          simp only [searched, Option.ite_none_right_eq_some, Option.some.injEq] at found
          obtain ⟨passing, rfl⟩ := found
          refine ⟨0, rfl, passing, ?_⟩
          intro j b listed other
          cases j with
          | zero => exact .inr ⟨by rw [Option.some.inj listed], le_rfl⟩
          | succ j =>
              have member : b ∈ rest := List.mem_of_getElem? listed
              exact absurd other
                (List.find?_eq_none.mp searched b ((List.mem_insertionSort _).mpr member))
      | some y =>
          obtain ⟨i, earlier⟩ := ih searched
          simp only [searched] at found
          split_ifs at found with wins
          · obtain rfl := Option.some.inj found
            refine ⟨0, rfl, wins.1, ?_⟩
            intro j b listed other
            rcases j with - | j
            · exact .inr ⟨by rw [Option.some.inj listed], le_rfl⟩
            · have bound : score b ≤ score y := by
                rcases earlier.best j b listed other with lower | ⟨equal, -⟩
                · exact lower.le
                · exact equal.le
              rcases (bound.trans wins.2).lt_or_eq with lower | equal
              · exact .inl lower
              · exact .inr ⟨equal, Nat.zero_le _⟩
          · obtain rfl := Option.some.inj found
            refine ⟨i + 1, earlier.listed, earlier.passing, ?_⟩
            intro j b listed other
            rcases j with - | j
            · obtain rfl : x = b := Option.some.inj listed
              exact .inl (lt_of_not_ge fun le => wins ⟨other, le⟩)
            · rcases earlier.best j b listed other with lower | ⟨equal, le⟩
              · exact .inl lower
              · exact .inr ⟨equal, Nat.succ_le_succ le⟩

/-- The first passing element of the sort is the first best of the list. -/
theorem find?_insertionSort_iff (l : List α) (a : α) :
    (l.insertionSort fun a b => score b ≤ score a).find? passes = some a ↔
      ∃ i, FirstBest score passes l i a := by
  refine ⟨firstBest_of_find? score passes, ?_⟩
  rintro ⟨i, best⟩
  cases found : (l.insertionSort fun a b => score b ≤ score a).find? passes with
  | none =>
      have member : a ∈ l := List.mem_of_getElem? best.listed
      exact absurd best.passing
        (List.find?_eq_none.mp found a ((List.mem_insertionSort _).mpr member))
  | some b =>
      obtain ⟨j, selected⟩ := firstBest_of_find? score passes found
      rw [(selected.unique score passes best).2]

section Related

variable {β : Type*} {related : α → β → Prop} {r : α → α → Prop} {s : β → β → Prop}
  [DecidableRel r] [DecidableRel s]

theorem forall₂_orderedInsert (agree : ∀ a b x y, related a x → related b y → (r a b ↔ s x y)) {a : α}
    {x : β} (head : related a x) {l : List α} {m : List β} (tail : List.Forall₂ related l m) :
    List.Forall₂ related (l.orderedInsert r a) (m.orderedInsert s x) := by
  induction tail with
  | nil => exact .cons head .nil
  | @cons b y l m first rest ih =>
      by_cases before : r a b
      · have matching : s x y := (agree a b x y head first).mp before
        rw [List.orderedInsert_cons, List.orderedInsert_cons, if_pos before, if_pos matching]
        exact .cons head (.cons first rest)
      · have matching : ¬ s x y := fun le => before ((agree a b x y head first).mpr le)
        rw [List.orderedInsert_cons, List.orderedInsert_cons, if_neg before, if_neg matching]
        exact .cons first ih

/-- Related lists with agreeing comparisons are sorted alike. -/
theorem forall₂_insertionSort (agree : ∀ a b x y, related a x → related b y → (r a b ↔ s x y))
    {l : List α} {m : List β} (pointwise : List.Forall₂ related l m) :
    List.Forall₂ related (l.insertionSort r) (m.insertionSort s) := by
  induction pointwise with
  | nil => exact .nil
  | cons first rest ih => exact forall₂_orderedInsert agree first ih

end Related

end StableSelection
