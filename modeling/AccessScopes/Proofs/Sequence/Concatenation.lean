import AccessScopes.Proofs.Sequence.Stability

/-!
# `AccessScopes.Proofs.Sequence.Concatenation`: sorting lists that are put together

Two lists are put one behind the other, then sorted and rid of repetitions. It makes no difference
whether this was done before to one of them: the list keeps the order of equal ranks and the first
occurrences, so that treating it again gives what treating it once gives.

* `sortBy_append`: to sort both lists is to insert the first into the second, sorted.
* `sortBy_sortBy_append` and `sortBy_append_sortBy`: either list may be sorted before.
* `distinct_append`: of the second list there remains what the first one does not have.
-/

set_option autoImplicit false

namespace AccessScopes

variable {α : Type} {le : α → α → Bool}

/-! ### Sorting -/

/-- Two elements of different rank may be inserted in either order. -/
theorem insertBy_comm (trans : ∀ a b c, le a b = true → le b c = true → le a c = true)
    (total : ∀ a b, le a b = true ∨ le b a = true) {x y : α} (hxy : ¬ le x y = true)
    (xs : List α) : insertBy le x (insertBy le y xs) = insertBy le y (insertBy le x xs) := by
  have hyx : le y x = true := (total x y).resolve_left hxy
  induction xs with
  | nil => simp [insertBy, hxy, hyx]
  | cons z rest ih =>
    by_cases hyz : le y z = true
    · -- `y` is the smaller one and has found its place, in front of `x` and of `z`.
      by_cases hxz : le x z = true
      · simp [insertBy, hxy, hyx, hyz, hxz]
      · simp [insertBy, hxy, hyz, hxz]
    · have hxz : ¬ le x z = true := by
        intro hxz
        exact hyz (trans y x z hyx hxz)
      simp only [insertBy, hyz, hxz, if_false, Bool.false_eq_true, ih]

/-- Elements are inserted one by one, and an element that was inserted among them first may as well
be inserted last. -/
theorem foldr_insertBy (trans : ∀ a b c, le a b = true → le b c = true → le a c = true)
    (total : ∀ a b, le a b = true ∨ le b a = true) (x : α) (xs ys : List α) :
    (insertBy le x xs).foldr (insertBy le) ys = insertBy le x (xs.foldr (insertBy le) ys) := by
  induction xs with
  | nil => rfl
  | cons z rest ih =>
    by_cases hxz : le x z = true
    · simp only [insertBy, hxz, if_true, List.foldr_cons]
    · simp only [insertBy, hxz, if_false, Bool.false_eq_true, List.foldr_cons, ih]
      -- `z` stands before `x`, so it makes no difference which of them comes first.
      exact (insertBy_comm trans total hxz _).symm

/-- Inserting the elements of a sorted list gives what inserting those of the list itself gives. -/
theorem foldr_sortBy (trans : ∀ a b c, le a b = true → le b c = true → le a c = true)
    (total : ∀ a b, le a b = true ∨ le b a = true) (xs ys : List α) :
    (sortBy le xs).foldr (insertBy le) ys = xs.foldr (insertBy le) ys := by
  induction xs with
  | nil => rfl
  | cons x rest ih => rw [sortBy, foldr_insertBy trans total, ih, List.foldr_cons]

/-- Sorting two lists, one behind the other, inserts the first into the second, sorted. -/
theorem sortBy_append (xs ys : List α) :
    sortBy le (xs ++ ys) = xs.foldr (insertBy le) (sortBy le ys) := by
  induction xs with
  | nil => rfl
  | cons x rest ih => rw [List.cons_append, sortBy, ih, List.foldr_cons]

/-- The list in front may be sorted before. -/
theorem sortBy_sortBy_append (trans : ∀ a b c, le a b = true → le b c = true → le a c = true)
    (total : ∀ a b, le a b = true ∨ le b a = true) (xs ys : List α) :
    sortBy le (sortBy le xs ++ ys) = sortBy le (xs ++ ys) := by
  rw [sortBy_append, foldr_sortBy trans total, ← sortBy_append]

/-- The list behind may be sorted before. -/
theorem sortBy_append_sortBy (trans : ∀ a b c, le a b = true → le b c = true → le a c = true)
    (total : ∀ a b, le a b = true ∨ le b a = true) (xs ys : List α) :
    sortBy le (xs ++ sortBy le ys) = sortBy le (xs ++ ys) := by
  rw [sortBy_append, sortBy_eq_self (pairwise_sortBy trans total ys), ← sortBy_append]

/-! ### Repetitions -/

variable [DecidableEq α]

/-- Of the second list there remain the first occurrences that are not in the first list. -/
theorem distinct_append (xs ys : List α) :
    distinct (xs ++ ys) = distinct xs ++ (distinct ys).filter fun y => y ∉ xs := by
  induction xs with
  | nil => exact (List.filter_eq_self.mpr fun y _ => by simp).symm
  | cons x rest ih =>
    rw [List.cons_append, distinct_cons, distinct_cons, ih, List.filter_append,
      List.filter_filter, List.cons_append]
    -- What is left out for `x` and for the rest is what is left out for both.
    congr 2
    refine List.filter_congr fun y _ => ?_
    simp [not_or]

end AccessScopes
