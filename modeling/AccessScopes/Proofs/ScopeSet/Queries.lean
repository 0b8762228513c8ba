import AccessScopes.ScopeSet.Basic

/-!
# `AccessScopes.Proofs.ScopeSet.Queries`: what the queries on scope sets answer

Each query of a scope set, in terms of its members and of coverage alone:

* `resolve_eq_none_iff`, `mem_of_resolve` and `covers_of_resolve`: `resolve` gives a member that
  covers the scope, and gives none only if there is no such member. So it gives one exactly if there
  is such a member (`exists_resolve_iff`).
* `can_eq_true_iff`: `can` asks for one member and one scope of the other set.
* `covers_eq_true_iff`: `covers` asks for one member and all scopes of the other set.
* `same_eq_true_iff`: `same` asks for the same members, in whatever order.
* `can_eq_true_iff_exists_resolve`: `can` holds exactly when some scope of the other set resolves.
-/

set_option autoImplicit false

namespace AccessScopes.ScopeSet

/-- Nothing is found only if no member covers the scope. -/
theorem resolve_eq_none_iff {a : ScopeSet} {wanted : Scope} :
    a.resolve wanted = none ↔ ∀ s ∈ a.members, ¬ s.covers wanted = true := by
  rw [resolve, List.find?_eq_none]

/-- What is found is a member. -/
theorem mem_of_resolve {a : ScopeSet} {wanted s : Scope} (h : a.resolve wanted = some s) :
    s ∈ a.members :=
  List.mem_of_find?_eq_some h

/-- What is found covers the scope that was looked for. -/
theorem covers_of_resolve {a : ScopeSet} {wanted s : Scope} (h : a.resolve wanted = some s) :
    s.covers wanted = true :=
  List.find?_some (p := fun t : Scope => t.covers wanted) h

/-- A scope that some member covers is resolved. -/
theorem exists_resolve_of_covers {a : ScopeSet} {wanted : Scope}
    (h : ∃ s ∈ a.members, s.covers wanted = true) : ∃ s, a.resolve wanted = some s := by
  obtain ⟨s, hs, hcovers⟩ := h
  cases hresolve : a.resolve wanted with
  | none => exact absurd hcovers (resolve_eq_none_iff.mp hresolve s hs)
  | some found => exact ⟨found, rfl⟩

/-- Something is found exactly when a member covers the scope. -/
theorem exists_resolve_iff {a : ScopeSet} {wanted : Scope} :
    (∃ s, a.resolve wanted = some s) ↔ ∃ s ∈ a.members, s.covers wanted = true := by
  constructor
  · rintro ⟨s, hresolve⟩
    exact ⟨s, mem_of_resolve hresolve, covers_of_resolve hresolve⟩
  · exact exists_resolve_of_covers

/-- To `can` it is enough that one member covers one scope of the other set. -/
theorem can_eq_true_iff {a b : ScopeSet} :
    a.can b = true ↔ ∃ s ∈ a.members, ∃ t ∈ b.members, s.covers t = true := by
  simp only [can, List.any_eq_true]

/-- To `covers` one and the same member has to cover all scopes of the other set. -/
theorem covers_eq_true_iff {a b : ScopeSet} :
    a.covers b = true ↔ ∃ s ∈ a.members, ∀ t ∈ b.members, s.covers t = true := by
  simp only [covers, List.any_eq_true, List.all_eq_true]

/-- Sets are the same if they have the same members, in whatever order. -/
theorem same_eq_true_iff {a b : ScopeSet} :
    a.same b = true ↔ ∀ s, s ∈ a.members ↔ s ∈ b.members := by
  simp only [same, contains, Bool.and_eq_true, List.all_eq_true, List.contains_iff_mem]
  exact ⟨fun h s => ⟨h.1 s, h.2 s⟩, fun h => ⟨fun s => (h s).mp, fun s => (h s).mpr⟩⟩

/-- A set can do another exactly when some scope of the other is resolved in it. -/
theorem can_eq_true_iff_exists_resolve {a b : ScopeSet} :
    a.can b = true ↔ ∃ t ∈ b.members, ∃ s, a.resolve t = some s := by
  rw [can_eq_true_iff]
  constructor
  · rintro ⟨s, hs, t, ht, hcovers⟩
    exact ⟨t, ht, exists_resolve_of_covers ⟨s, hs, hcovers⟩⟩
  · rintro ⟨t, ht, s, hresolve⟩
    exact ⟨s, mem_of_resolve hresolve, t, ht, covers_of_resolve hresolve⟩

end AccessScopes.ScopeSet
