import AccessScopes.Sequence.Distinct
import AccessScopes.Sequence.Ordered

/-!
# `AccessScopes.Proofs.Sequence.Stability`: what comes first after sorting

Sorting by rank puts a least element first. Of several least elements it is the one that stood
first before. `FirstLeast` says which one this is, without reference to a sorted list.

* `head?_sortBy_eq_some_iff`: the first element after sorting is the first least one.
* `firstLeast_skip_iff`: elements that are greater than some other one make no difference.
* `filter_sortBy` and `filter_distinct`: leaving out elements may be done before or afterwards.
* `firstLeast_distinct_iff`: leaving out repetitions does not change which element it is.
-/

set_option autoImplicit false

namespace AccessScopes

variable {α : Type} {le : α → α → Bool} {xs : List α} {x : α}

/-- Whether `x` is the first of the least elements of a list: what stands behind it is not less,
and what stands in front of it is greater. -/
inductive FirstLeast (le : α → α → Bool) : List α → α → Prop
  | here {x : α} {rest : List α} (h : ∀ y ∈ rest, le x y = true) : FirstLeast le (x :: rest) x
  | later {x y : α} {rest : List α} (h : ¬ le y x = true) (hrest : FirstLeast le rest x) :
    FirstLeast le (y :: rest) x

namespace FirstLeast

/-- The first least element is an element. -/
theorem mem (h : FirstLeast le xs x) : x ∈ xs := by
  induction h with
  | here _ => exact List.mem_cons_self
  | later _ _ ih => exact List.mem_cons_of_mem _ ih

/-- The first least element is not greater than any other. -/
theorem least (total : ∀ a b, le a b = true ∨ le b a = true) (h : FirstLeast le xs x) :
    ∀ y ∈ xs, le x y = true := by
  induction h with
  | here h => exact List.forall_mem_cons.mpr ⟨(total _ _).elim id id, h⟩
  | later h _ ih => exact List.forall_mem_cons.mpr ⟨(total _ _).resolve_left h, ih⟩

/-- The elements in front of the first least one are greater. -/
theorem exists_split (h : FirstLeast le xs x) :
    ∃ front back, xs = front ++ x :: back ∧ ∀ y ∈ front, ¬ le y x = true := by
  induction h with
  | here _ => exact ⟨[], _, rfl, nofun⟩
  | @later x y rest h _ ih =>
    obtain ⟨front, back, rfl, hfront⟩ := ih
    exact ⟨y :: front, back, rfl, List.forall_mem_cons.mpr ⟨h, hfront⟩⟩

/-- Elements that are left out do not matter, as long as `x` is kept. -/
theorem filter {p : α → Bool} (h : FirstLeast le xs x) (hx : p x = true) :
    FirstLeast le (xs.filter p) x := by
  induction h with
  | here h =>
    rw [List.filter_cons_of_pos hx]
    exact .here fun y hy => h y (List.mem_filter.mp hy).1
  | @later x y rest h _ ih =>
    by_cases hy : p y = true
    · rw [List.filter_cons_of_pos hy]
      exact .later h (ih hx)
    · rw [List.filter_cons_of_neg hy]
      exact ih hx

/-- Elements that are greater may be put back. -/
theorem of_filter (total : ∀ a b, le a b = true ∨ le b a = true) {p : α → Bool}
    (h : FirstLeast le (xs.filter p) x) (hgreater : ∀ y ∈ xs, ¬ p y = true → ¬ le y x = true) :
    FirstLeast le xs x := by
  induction xs with
  | nil => exact h
  | cons y rest ih =>
    obtain ⟨hy, hrest⟩ := List.forall_mem_cons.mp hgreater
    by_cases hkept : p y = true
    · rw [List.filter_cons_of_pos hkept] at h
      cases h with
      | here h =>
        -- The element is first again, and now it has to be least among those put back too.
        refine .here fun z hz => ?_
        by_cases hp : p z = true
        · exact h z (List.mem_filter.mpr ⟨hz, hp⟩)
        · exact (total _ _).resolve_right (hrest z hz hp)
      | later hlater h => exact .later hlater (ih h hrest)
    · rw [List.filter_cons_of_neg hkept] at h
      exact .later (hy hkept) (ih h hrest)

end FirstLeast

/-- Elements behind some other one do not matter, wherever they stand: whether they are there or
not, the first least element is the same. -/
theorem firstLeast_skip_iff (trans : ∀ a b c, le a b = true → le b c = true → le a c = true)
    (total : ∀ a b, le a b = true ∨ le b a = true) {front skipped back : List α}
    (h : ∀ y ∈ skipped, ∃ z ∈ front ++ back, ¬ le y z = true) :
    FirstLeast le (front ++ skipped ++ back) x ↔ FirstLeast le (front ++ back) x := by
  have hrefl : le x x = true := (total x x).elim id id
  -- The elements up to `x` decide, and `skipped` has none of them.
  have hkept (hx : ∀ z ∈ front ++ back, le x z = true) :
      (front ++ skipped ++ back).filter (le · x) = (front ++ back).filter (le · x) := by
    have hnone : skipped.filter (le · x) = [] := by
      rw [List.filter_eq_nil_iff]
      intro y hy hyx
      obtain ⟨z, hz, hyz⟩ := h y hy
      exact hyz (trans y x z hyx (hx z hz))
    rw [List.filter_append, List.filter_append, List.filter_append, hnone, List.append_nil]
  constructor
  · intro hfirst
    have hx : ∀ z ∈ front ++ back, le x z = true := by
      intro z hz
      refine hfirst.least total z ?_
      rw [List.append_assoc]
      rcases List.mem_append.mp hz with hz | hz
      · exact List.mem_append_left _ hz
      · exact List.mem_append_right _ (List.mem_append_right _ hz)
    have hfiltered := hfirst.filter (p := (le · x)) hrefl
    rw [hkept hx] at hfiltered
    exact hfiltered.of_filter total fun y _ hy => hy
  · intro hfirst
    have hfiltered := hfirst.filter (p := (le · x)) hrefl
    rw [← hkept (hfirst.least total)] at hfiltered
    exact hfiltered.of_filter total fun y _ hy => hy

/-! ### Sorting -/

/-- Insertion changes the first element only if the new one is not greater, or if there is none. -/
theorem head?_insertBy (x : α) (xs : List α) :
    (insertBy le x xs).head? = some (xs.head?.elim x fun y => if le x y then x else y) := by
  cases xs with
  | nil => rfl
  | cons y rest =>
    simp only [insertBy, List.head?_cons, Option.elim_some]
    split <;> rfl

/-- Sorting brings the first least element to the front. -/
theorem head?_sortBy_eq_some_iff (trans : ∀ a b c, le a b = true → le b c = true → le a c = true)
    (total : ∀ a b, le a b = true ∨ le b a = true) :
    (sortBy le xs).head? = some x ↔ FirstLeast le xs x := by
  induction xs generalizing x with
  | nil => exact iff_of_false (fun h => by cases h) (fun h => by cases h)
  | cons y rest ih =>
    rw [sortBy, head?_insertBy, Option.some.injEq]
    cases hhead : (sortBy le rest).head? with
    | none =>
      -- Nothing was sorted, so there is nothing behind `y`.
      obtain rfl : rest = [] := by
        have hnil : sortBy le rest = [] := List.head?_eq_none_iff.mp hhead
        exact List.length_eq_zero_iff.mp (by rw [← (perm_sortBy le rest).length_eq, hnil]; rfl)
      constructor
      · rintro rfl
        exact .here fun w hw => absurd hw List.not_mem_nil
      · intro h
        cases h with
        | here _ => rfl
        | later _ h => cases h
    | some z =>
      have hz : FirstLeast le rest z := ih.mp hhead
      have hleast : ∀ w ∈ rest, le z w = true := hz.least total
      rw [Option.elim_some]
      split
      · next hle =>
        constructor
        · rintro rfl
          exact .here fun w hw => trans _ _ _ hle (hleast w hw)
        · intro h
          cases h with
          | here _ => rfl
          | later hlater h => exact absurd (trans _ _ _ hle (hleast _ h.mem)) hlater
      · next hle =>
        constructor
        · rintro rfl
          exact .later hle hz
        · intro h
          cases h with
          | here h => exact absurd (h z hz.mem) hle
          | later _ h => exact Option.some.inj (hhead.symm.trans (ih.mpr h))

/-- Leaving out elements may be done before or after an insertion into a list in order. -/
theorem filter_insertBy (trans : ∀ a b c, le a b = true → le b c = true → le a c = true)
    (p : α → Bool) (h : xs.Pairwise (le · · = true)) :
    (insertBy le x xs).filter p
      = if p x then insertBy le x (xs.filter p) else xs.filter p := by
  induction xs with
  | nil => cases hx : p x <;> simp [insertBy, hx]
  | cons y rest ih =>
    obtain ⟨hy, hrest⟩ := List.pairwise_cons.mp h
    by_cases hxy : le x y = true
    · -- All that is kept of the list still stands behind `x`.
      have hfront : insertBy le x ((y :: rest).filter p) = x :: (y :: rest).filter p := by
        have hall : ∀ z ∈ (y :: rest).filter p, le x z = true := by
          intro z hz
          rcases List.mem_cons.mp (List.mem_filter.mp hz).1 with rfl | hz
          · exact hxy
          · exact trans _ _ _ hxy (hy z hz)
        cases hkept : (y :: rest).filter p with
        | nil => rfl
        | cons z others =>
          rw [insertBy, if_pos (hall z (hkept ▸ List.mem_cons_self))]
      rw [insertBy, if_pos hxy, List.filter_cons, hfront]
    · rw [insertBy, if_neg hxy, List.filter_cons, ih hrest, List.filter_cons]
      by_cases hp : p y = true
      · simp only [hp, if_true]
        by_cases hx : p x = true
        · simp only [hx, if_true, insertBy, hxy, if_false, Bool.false_eq_true]
        · simp only [hx, if_false, Bool.false_eq_true]
      · simp only [hp, if_false, Bool.false_eq_true]

/-- Sorting keeps the order in any part of a list that it would give to this part alone. -/
theorem filter_sortBy (trans : ∀ a b c, le a b = true → le b c = true → le a c = true)
    (total : ∀ a b, le a b = true ∨ le b a = true) (p : α → Bool) (xs : List α) :
    (sortBy le xs).filter p = sortBy le (xs.filter p) := by
  induction xs with
  | nil => rfl
  | cons y rest ih =>
    rw [sortBy, filter_insertBy trans p (pairwise_sortBy trans total rest), ih, List.filter_cons]
    by_cases hp : p y = true
    · simp only [hp, if_true, sortBy]
    · simp only [hp, if_false, Bool.false_eq_true]

/-! ### Repetitions -/

variable [DecidableEq α]

/-- The first element stays, and its repetitions are left out of the rest. -/
theorem distinct_cons (y : α) (rest : List α) :
    distinct (y :: rest) = y :: (distinct rest).filter fun z => z ≠ y := rfl

/-- Leaving out elements may be done before or after leaving out repetitions. -/
theorem filter_distinct (p : α → Bool) (xs : List α) :
    (distinct xs).filter p = distinct (xs.filter p) := by
  induction xs with
  | nil => rfl
  | cons y rest ih =>
    rw [distinct_cons, List.filter_cons, List.filter_cons]
    by_cases hp : p y = true
    · simp only [hp, if_true, distinct_cons, ← ih, List.filter_filter, Bool.and_comm]
    · simp only [hp, if_false, Bool.false_eq_true, ← ih, List.filter_filter]
      -- What is kept differs from `y`, as `y` is not kept.
      refine List.filter_congr fun z _ => ?_
      by_cases hz : z = y
      · rw [hz, Bool.eq_false_iff.mpr hp, Bool.false_and]
      · simp [hz]

/-- Leaving out repetitions does not change which element is the first least one. -/
theorem firstLeast_distinct_iff (total : ∀ a b, le a b = true ∨ le b a = true) :
    FirstLeast le (distinct xs) x ↔ FirstLeast le xs x := by
  induction xs with
  | nil => exact Iff.rfl
  | cons y rest ih =>
    have hrefl : ∀ a, le a a = true := fun a => (total a a).elim id id
    rw [distinct_cons]
    constructor
    · intro h
      cases h with
      | here h =>
        refine .here fun z hz => ?_
        by_cases heq : z = x
        · rw [heq]
          exact hrefl x
        · exact h z (List.mem_filter.mpr ⟨mem_distinct.mpr hz, by simpa using heq⟩)
      | later hlater h =>
        -- Only repetitions of `y` were left out, and these are greater.
        refine .later hlater (ih.mp (h.of_filter total fun z _ hz => ?_))
        obtain rfl : z = y := by simpa using hz
        exact hlater
    · intro h
      cases h with
      | here h =>
        exact .here fun z hz => h z (mem_distinct.mp (List.mem_filter.mp hz).1)
      | later hlater h =>
        refine .later hlater ((ih.mpr h).filter ?_)
        -- `x` is no repetition of `y`, as `y` is greater.
        have hne : x ≠ y := by
          rintro rfl
          exact hlater (hrefl x)
        simpa using hne

end AccessScopes
