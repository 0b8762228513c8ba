/-!
# `AccessScopes.Sequence.Distinct`: first occurrences

`distinctBy key` keeps, of all elements with the same key, the one that stands first. Order is
otherwise untouched.

* `mem_distinct`: with the element as its own key, nothing is lost and nothing is added.
* `nodup_map_distinctBy`: no two elements that are kept have the same key.
* `distinctBy_eq_self`: a list without repeated keys is kept whole.
-/

set_option autoImplicit false

namespace AccessScopes

variable {α κ : Type} [DecidableEq κ]

/-- The elements whose key no earlier element has. -/
def distinctBy (key : α → κ) : List α → List α
  | [] => []
  | a :: rest => a :: (distinctBy key rest).filter fun b => key b ≠ key a

/-- The first occurrences in a list. -/
def distinct {α : Type} [DecidableEq α] (xs : List α) : List α :=
  distinctBy id xs

/-- What is kept was there before. -/
theorem mem_of_mem_distinctBy {key : α → κ} {xs : List α} {x : α} (h : x ∈ distinctBy key xs) :
    x ∈ xs := by
  induction xs with
  | nil => exact h
  | cons a rest ih =>
    simp only [distinctBy, List.mem_cons, List.mem_filter] at h
    rcases h with h | h
    · exact h ▸ List.mem_cons_self
    · exact List.mem_cons_of_mem _ (ih h.1)

/-- Every key of the list is the key of an element that is kept. -/
theorem exists_mem_distinctBy {key : α → κ} {xs : List α} {x : α} (h : x ∈ xs) :
    ∃ y ∈ distinctBy key xs, key y = key x := by
  induction xs with
  | nil => exact absurd h (by simp)
  | cons a rest ih =>
    by_cases hk : key x = key a
    · exact ⟨a, by simp [distinctBy], hk.symm⟩
    · rcases List.mem_cons.mp h with rfl | h
      · exact absurd rfl hk
      · obtain ⟨y, hy, e⟩ := ih h
        exact ⟨y, by simp [distinctBy, hy, e, hk], e⟩

/-- No two elements that are kept have the same key. -/
theorem nodup_map_distinctBy (key : α → κ) (xs : List α) :
    ((distinctBy key xs).map key).Nodup := by
  induction xs with
  | nil => simp [distinctBy]
  | cons a rest ih =>
    simp only [distinctBy, List.map_cons, List.nodup_cons]
    refine ⟨?_, ih.sublist (List.filter_sublist.map key)⟩
    simp only [List.mem_map, List.mem_filter, decide_eq_true_eq]
    rintro ⟨b, ⟨_, hne⟩, e⟩
    exact hne e

/-- No element is kept twice, as it would have its key twice. -/
theorem nodup_distinctBy (key : α → κ) (xs : List α) : (distinctBy key xs).Nodup :=
  List.Pairwise.of_map key (fun _ _ hne e => hne (congrArg key e)) (nodup_map_distinctBy key xs)

/-- A list without repeated keys is kept whole. -/
theorem distinctBy_eq_self {key : α → κ} {xs : List α} (h : (xs.map key).Nodup) :
    distinctBy key xs = xs := by
  induction xs with
  | nil => rfl
  | cons a rest ih =>
    simp only [List.map_cons, List.nodup_cons, List.mem_map, not_exists, not_and] at h
    rw [distinctBy, ih h.2, List.filter_eq_self.mpr]
    exact fun b hb => by simpa using h.1 b hb

/-- Only the keys decide about what is kept. -/
theorem distinctBy_map {β : Type} (key : β → κ) (f : α → β) (xs : List α) :
    distinctBy key (xs.map f) = (distinctBy (fun x => key (f x)) xs).map f := by
  induction xs with
  | nil => rfl
  | cons a rest ih =>
    rw [List.map_cons, distinctBy, distinctBy, List.map_cons, ih, List.filter_map]
    rfl

/-- With each element as its own key, nothing is lost and nothing is added. -/
@[simp] theorem mem_distinct {α : Type} [DecidableEq α] {xs : List α} {x : α} :
    x ∈ distinct xs ↔ x ∈ xs := by
  constructor
  · exact mem_of_mem_distinctBy
  · intro h
    obtain ⟨y, hy, e⟩ : ∃ y ∈ distinctBy id xs, id y = id x := exists_mem_distinctBy h
    exact (show y = x from e) ▸ hy

/-- No element is left twice. -/
theorem nodup_distinct {α : Type} [DecidableEq α] (xs : List α) : (distinct xs).Nodup :=
  nodup_distinctBy id xs

/-- A list without repetitions is left as it is. -/
theorem distinct_eq_self {α : Type} [DecidableEq α] {xs : List α} (h : xs.Nodup) :
    distinct xs = xs :=
  distinctBy_eq_self (by simpa using h)

/-- A function that keeps elements apart keeps first occurrences. -/
theorem distinct_map {α β : Type} [DecidableEq α] [DecidableEq β] {f : α → β}
    (hf : ∀ a b, f a = f b → a = b) (xs : List α) : distinct (xs.map f) = (distinct xs).map f := by
  have hkeys : distinctBy f xs = distinctBy id xs := by
    induction xs with
    | nil => rfl
    | cons a rest ih =>
      have hsame : (fun b => decide (f b ≠ f a)) = fun b => decide (id b ≠ id a) := by
        funext b
        exact decide_eq_decide.mpr
          ⟨fun hne heq => hne (congrArg f heq), fun hne heq => hne (hf b a heq)⟩
      rw [distinctBy, distinctBy, ih, hsame]
  rw [distinct, distinctBy_map]
  exact congrArg (List.map f) hkeys

end AccessScopes
