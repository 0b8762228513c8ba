/-!
# `AccessScopes.Proofs.Outcome`: calls that may fail

What the outcome of a call says about the calls it was made of:

* `bind_eq_ok_iff`: two calls in a row succeed exactly when both do.
* `forM_eq_ok_iff` and `mapM_eq_ok_iff`: a call for every element of a list succeeds exactly when
  each of them does, and the results stand in the order of the elements (`mem_iff_of_mapM_eq_ok`
  without the order).
* `mapM_eq_ok_iff_map_eq`: if each call undoes a function, so do all of them together.
* `exists_error_iff`, `bind_eq_error_iff` and `exists_error_of_mapM`: a call that does not succeed
  fails, and its failure comes from one of the calls.
* `mapM_map_of_forall`: calls that correspond element by element correspond as a whole.
* `flatten_mapM_singleton`: a call for one result may as well ask for a list of one.
-/

set_option autoImplicit false

namespace AccessScopes

variable {ε α β : Type}

/-- A call that is tested to be successful has a result. -/
theorem exists_eq_ok_of_isOk {result : Except ε α} (h : result.isOk = true) :
    ∃ a, result = .ok a := by
  cases result with
  | error e => cases h
  | ok a => exact ⟨a, rfl⟩

/-- Two calls in a row succeed exactly when the first one does and the second one does on its
result. -/
theorem bind_eq_ok_iff {first : Except ε α} {next : α → Except ε β} {b : β} :
    (first >>= next) = .ok b ↔ ∃ a, first = .ok a ∧ next a = .ok b := by
  cases first with
  | error e => simp [bind, Except.bind]
  | ok a => simp [bind, Except.bind]

/-- Two calls in a row fail with the failure of the first one, or with that of the second one on its
result. -/
theorem bind_eq_error_iff {first : Except ε α} {next : α → Except ε β} {e : ε} :
    (first >>= next) = .error e ↔ first = .error e ∨ ∃ a, first = .ok a ∧ next a = .error e := by
  cases first with
  | error e' => simp [bind, Except.bind]
  | ok a => simp [bind, Except.bind]

/-- A result of a call that was put into another form comes from a result of the call. -/
theorem map_eq_ok_iff {f : α → β} {result : Except ε α} {b : β} :
    Except.map f result = .ok b ↔ ∃ a, result = .ok a ∧ f a = b := by
  cases result with
  | error e => simp [Except.map]
  | ok a => simp [Except.map]

/-- Putting the result into another form does not decide whether there is one. -/
theorem exists_map_iff {f : α → β} {result : Except ε α} :
    (∃ b, Except.map f result = .ok b) ↔ ∃ a, result = .ok a := by
  cases result with
  | error e => simp [Except.map]
  | ok a => simp [Except.map]

/-- Putting the result into another form leaves failures as they are. -/
theorem map_eq_error_iff {f : α → β} {result : Except ε α} {e : ε} :
    Except.map f result = .error e ↔ result = .error e := by
  cases result with
  | error e' => simp [Except.map]
  | ok a => simp [Except.map]

/-- A call fails exactly when it does not succeed. There is no third outcome. -/
theorem exists_error_iff {result : Except ε α} :
    (∃ e, result = .error e) ↔ ¬ ∃ a, result = .ok a := by
  cases result with
  | error e => simp
  | ok a => simp

/-- Putting failures into another form leaves results as they are. -/
theorem mapError_eq_ok_iff {ε' : Type} {f : ε → ε'} {result : Except ε α} {a : α} :
    result.mapError f = .ok a ↔ result = .ok a := by
  cases result with
  | error e =>
    show Except.error (f e) = .ok a ↔ _
    simp
  | ok b =>
    show Except.ok b = .ok a ↔ _
    simp

/-- A check of every element of a list succeeds exactly when each of the checks does. -/
theorem forM_eq_ok_iff {f : α → Except ε Unit} {xs : List α} :
    xs.forM f = .ok () ↔ ∀ x ∈ xs, f x = .ok () := by
  induction xs with
  | nil => exact ⟨fun _ x hx => absurd hx List.not_mem_nil, fun _ => rfl⟩
  | cons x xs ih =>
    show (f x >>= fun _ => xs.forM f) = .ok () ↔ _
    rw [bind_eq_ok_iff, List.forall_mem_cons]
    constructor
    · rintro ⟨_, hx, hxs⟩
      exact ⟨hx, ih.mp hxs⟩
    · rintro ⟨hx, hxs⟩
      exact ⟨(), hx, ih.mpr hxs⟩

/-- A call for every element succeeds with the results of the single calls, in their order. -/
theorem mapM_eq_ok_iff {f : α → Except ε β} {xs : List α} {ys : List β} :
    xs.mapM f = .ok ys ↔ xs.map f = ys.map .ok := by
  -- Both lists grow together, so the results are generalised.
  induction xs generalizing ys with
  | nil =>
    cases ys with
    | nil => simp [pure, Except.pure]
    | cons y ys => simp [pure, Except.pure]
  | cons x xs ih =>
    rw [List.mapM_cons, bind_eq_ok_iff, List.map_cons]
    constructor
    · rintro ⟨y, hx, hrest⟩
      obtain ⟨others, hxs, hys⟩ := bind_eq_ok_iff.mp hrest
      obtain rfl : y :: others = ys := Except.ok.inj hys
      rw [hx, ih.mp hxs, List.map_cons]
    · intro h
      cases ys with
      | nil => simp at h
      | cons y ys =>
        rw [List.map_cons, List.cons.injEq] at h
        exact ⟨y, h.1, bind_eq_ok_iff.mpr ⟨ys, ih.mpr h.2, rfl⟩⟩

/-- What the calls give is what one of them gives. -/
theorem mem_iff_of_mapM_eq_ok {f : α → Except ε β} {xs : List α} {ys : List β}
    (h : xs.mapM f = .ok ys) {y : β} : y ∈ ys ↔ ∃ x ∈ xs, f x = .ok y := by
  have hresults : xs.map f = ys.map .ok := mapM_eq_ok_iff.mp h
  rw [← List.mem_map, hresults, List.mem_map]
  simp

/-- Calls that undo a function succeed on what the function makes, and on nothing else. -/
theorem mapM_eq_ok_iff_map_eq {f : α → Except ε β} {g : β → α}
    (h : ∀ x y, f x = .ok y ↔ g y = x) {xs : List α} {ys : List β} :
    xs.mapM f = .ok ys ↔ ys.map g = xs := by
  rw [mapM_eq_ok_iff]
  induction xs generalizing ys with
  | nil => cases ys <;> simp
  | cons x xs ih =>
    cases ys with
    | nil => simp
    | cons y ys => rw [List.map_cons, List.map_cons, List.map_cons, List.cons.injEq,
        List.cons.injEq, h, ih]

/-- Calls that correspond element by element have corresponding outcomes as a whole. -/
theorem mapM_map_of_forall {α' β' : Type} {xs : List α} {f : α → Except ε β}
    {f' : α' → Except ε β'} {a : α → α'} {b : β → β'}
    (h : ∀ x ∈ xs, f' (a x) = (f x).map b) : (xs.map a).mapM f' = (xs.mapM f).map (List.map b) := by
  induction xs with
  | nil => rfl
  | cons x xs ih =>
    obtain ⟨hx, hxs⟩ := List.forall_mem_cons.mp h
    rw [List.map_cons, List.mapM_cons, List.mapM_cons, hx, ih hxs]
    cases f x with
    | error e => rfl
    | ok y => cases xs.mapM f <;> rfl

/-- Calls that give one result each may as well give lists of one. -/
theorem flatten_mapM_singleton (f : α → Except ε β) (xs : List α) :
    (xs.mapM fun x => (f x).map fun y => [y]).map List.flatten = xs.mapM f := by
  have hlists : ((xs.map id).mapM fun x => (f x).map fun y => [y])
      = (xs.mapM f).map (List.map fun y => [y]) := mapM_map_of_forall fun x _ => rfl
  rw [List.map_id] at hlists
  rw [hlists]
  cases xs.mapM f with
  | error e => rfl
  | ok ys =>
    show Except.ok (ys.map fun y => [y]).flatten = _
    rw [← List.flatMap_def, List.flatMap_singleton']

/-- The failure of a call for every element is that of one of the calls. -/
theorem exists_error_of_mapM {f : α → Except ε β} {xs : List α} {e : ε}
    (h : xs.mapM f = .error e) : ∃ x ∈ xs, f x = .error e := by
  induction xs with
  | nil => cases h
  | cons x xs ih =>
    rw [List.mapM_cons] at h
    rcases bind_eq_error_iff.mp h with hx | ⟨y, -, hrest⟩
    · exact ⟨x, List.mem_cons_self, hx⟩
    · rcases bind_eq_error_iff.mp hrest with hxs | ⟨ys, -, hys⟩
      · obtain ⟨z, hz, herror⟩ := ih hxs
        exact ⟨z, List.mem_cons_of_mem _ hz, herror⟩
      · cases hys

/-- A call for every element succeeds exactly when the call for each of them does. -/
theorem exists_mapM_iff {f : α → Except ε β} {xs : List α} :
    (∃ ys, xs.mapM f = .ok ys) ↔ ∀ x ∈ xs, ∃ y, f x = .ok y := by
  induction xs with
  | nil => exact iff_of_true ⟨[], rfl⟩ (by simp)
  | cons x xs ih =>
    rw [List.forall_mem_cons, ← ih]
    simp only [mapM_eq_ok_iff]
    constructor
    · rintro ⟨ys, hys⟩
      cases ys with
      | nil => cases hys
      | cons y ys =>
        rw [List.map_cons, List.map_cons, List.cons.injEq] at hys
        exact ⟨⟨y, hys.1⟩, ys, hys.2⟩
    · rintro ⟨⟨y, hy⟩, ys, hys⟩
      exact ⟨y :: ys, by rw [List.map_cons, List.map_cons, hy, hys]⟩

end AccessScopes
