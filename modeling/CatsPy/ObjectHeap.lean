import Mathlib.Data.List.Basic
import Mathlib.Data.List.Nodup

/-!
# A heap of mutable objects

Objects of one type behind references handed out in order. Allocation and
assignment are all a program does to them; what a program leaves alone is the
relation `Extends`.
-/

structure ObjectHeap (ω : Type*) where
  cells : List ω := []

namespace ObjectHeap

variable {ω : Type*}

def read (heap : ObjectHeap ω) (ref : ℕ) : Option ω := heap.cells[ref]?

/-- The heap with the new object, and its reference. -/
def alloc (heap : ObjectHeap ω) (object : ω) : ObjectHeap ω × ℕ :=
  (⟨heap.cells ++ [object]⟩, heap.cells.length)

/-- An assignment to attributes of the referenced object. -/
def assign (heap : ObjectHeap ω) (ref : ℕ) (change : ω → ω) : ObjectHeap ω :=
  ⟨heap.cells.modify ref change⟩

/-- Every object of the first heap reads the same in the second. -/
def Extends (before after : ObjectHeap ω) : Prop :=
  ∀ ref object, before.read ref = some object → after.read ref = some object

theorem Extends.refl (heap : ObjectHeap ω) : Extends heap heap := fun _ _ stored => stored

theorem Extends.trans {first second third : ObjectHeap ω} (early : Extends first second)
    (late : Extends second third) : Extends first third :=
  fun ref object stored => late ref object (early ref object stored)

@[simp] theorem read_alloc_self (heap : ObjectHeap ω) (object : ω) :
    (heap.alloc object).1.read (heap.alloc object).2 = some object := by
  simp [read, alloc]

theorem extends_alloc (heap : ObjectHeap ω) (object : ω) : Extends heap (heap.alloc object).1 := by
  intro ref stored found
  obtain ⟨inside, -⟩ := List.getElem?_eq_some_iff.mp found
  simpa [read, alloc, List.getElem?_append_left inside] using found

/-- A new reference was not in use. -/
theorem read_alloc_fresh (heap : ObjectHeap ω) (object : ω) : heap.read (heap.alloc object).2 = none := by
  simp [read, alloc]

theorem read_assign_self (heap : ObjectHeap ω) (ref : ℕ) (change : ω → ω) :
    (heap.assign ref change).read ref = (heap.read ref).map change := by
  simp [read, assign]

theorem read_assign_of_ne (heap : ObjectHeap ω) {ref other : ℕ} (change : ω → ω) (differ : other ≠ ref) :
    (heap.assign ref change).read other = heap.read other := by
  simp [read, assign, differ.symm]

theorem assign_assign (heap : ObjectHeap ω) (ref : ℕ) (first second : ω → ω) :
    (heap.assign ref first).assign ref second = heap.assign ref fun object => second (first object) := by
  simp only [assign, List.modify_modify_eq]
  rfl

/-- Assigning to an object the first heap does not have leaves its own alone. -/
theorem Extends.assign {before after : ObjectHeap ω} (extended : Extends before after) {ref : ℕ}
    (fresh : before.read ref = none) (change : ω → ω) : Extends before (after.assign ref change) := by
  intro other object stored
  have differ : other ≠ ref := by
    rintro rfl
    rw [fresh] at stored
    cases stored
  rw [read_assign_of_ne after change differ]
  exact extended other object stored

/-- What is fresh for the extension is fresh for the first heap. -/
theorem Extends.fresh {before after : ObjectHeap ω} (extended : Extends before after) {ref : ℕ}
    (fresh : after.read ref = none) : before.read ref = none := by
  cases found : before.read ref with
  | none => rfl
  | some object => exact absurd (extended ref object found) (by simp [fresh])

end ObjectHeap
