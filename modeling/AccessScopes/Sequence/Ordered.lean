/-!
# `AccessScopes.Sequence.Ordered`: stable sorting

`sortBy le` sorts by insertion: each element is put in front of the first one that does not
precede it. Elements of equal rank keep the order they came in.

* `perm_sortBy`: sorting only rearranges.
* `pairwise_sortBy`: the result is in order.
* `sortBy_eq_self`: a list in order is left as it is.
-/

set_option autoImplicit false

namespace AccessScopes

variable {α : Type}

/-- Puts an element in front of the first one that it may precede. -/
def insertBy (le : α → α → Bool) (x : α) : List α → List α
  | [] => [x]
  | y :: rest => if le x y then x :: y :: rest else y :: insertBy le x rest

/-- Sorts a list; elements of equal rank keep their order. -/
def sortBy (le : α → α → Bool) : List α → List α
  | [] => []
  | x :: rest => insertBy le x (sortBy le rest)

/-- Insertion adds the element somewhere and loses none. -/
theorem perm_insertBy (le : α → α → Bool) (x : α) (xs : List α) :
    (insertBy le x xs).Perm (x :: xs) := by
  induction xs with
  | nil => exact .refl _
  | cons y rest ih =>
    simp only [insertBy]
    split
    · exact .refl _
    · exact (ih.cons y).trans (.swap x y rest)

/-- Sorting only rearranges. -/
theorem perm_sortBy (le : α → α → Bool) (xs : List α) : (sortBy le xs).Perm xs := by
  induction xs with
  | nil => exact .refl _
  | cons x rest ih => exact (perm_insertBy le x _).trans (ih.cons x)

/-- Sorting neither loses nor adds an element. -/
@[simp] theorem mem_sortBy {le : α → α → Bool} {xs : List α} {x : α} :
    x ∈ sortBy le xs ↔ x ∈ xs :=
  (perm_sortBy le xs).mem_iff

/-- A list in order stays in order when an element is inserted. The step behind
`pairwise_sortBy`. -/
theorem pairwise_insertBy {le : α → α → Bool} (trans : ∀ a b c, le a b → le b c → le a c)
    (total : ∀ a b, le a b ∨ le b a) {x : α} {xs : List α} (h : xs.Pairwise (le · ·)) :
    (insertBy le x xs).Pairwise (le · ·) := by
  induction xs with
  | nil => simp [insertBy]
  | cons y rest ih =>
    obtain ⟨hy, hrest⟩ := List.pairwise_cons.mp h
    simp only [insertBy]
    split
    · next hxy =>
      refine List.pairwise_cons.mpr ⟨fun z hz => ?_, h⟩
      rcases List.mem_cons.mp hz with rfl | hz
      · exact hxy
      · exact trans _ _ _ hxy (hy z hz)
    · next hxy =>
      -- What stands behind `y` now is the new element or stood there before.
      refine List.pairwise_cons.mpr ⟨fun z hz => ?_, ih hrest⟩
      rcases List.mem_cons.mp ((perm_insertBy le x rest).mem_iff.mp hz) with rfl | hz
      · exact (total y z).resolve_right hxy
      · exact hy z hz

/-- Sorting by a total preorder gives a list in order. -/
theorem pairwise_sortBy {le : α → α → Bool} (trans : ∀ a b c, le a b → le b c → le a c)
    (total : ∀ a b, le a b ∨ le b a) (xs : List α) : (sortBy le xs).Pairwise (le · ·) := by
  induction xs with
  | nil => exact .nil
  | cons x rest ih => exact pairwise_insertBy trans total ih

/-- A list in order is left as it is, also where several elements have the same rank. -/
theorem sortBy_eq_self {le : α → α → Bool} {xs : List α} (h : xs.Pairwise (le · ·)) :
    sortBy le xs = xs := by
  induction xs with
  | nil => rfl
  | cons x rest ih =>
    obtain ⟨hx, hrest⟩ := List.pairwise_cons.mp h
    rw [sortBy, ih hrest]
    cases rest with
    | nil => rfl
    | cons y rest => simp [insertBy, hx y (by simp)]

end AccessScopes
