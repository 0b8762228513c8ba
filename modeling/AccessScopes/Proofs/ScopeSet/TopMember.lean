import AccessScopes.Proofs.ScopeSet.StrictCoverage
import AccessScopes.Proofs.ScopeSet.Subsumption

/-!
# `AccessScopes.Proofs.ScopeSet.TopMember`: when one set is at least another

A set is at least another if a single member covers all of the other set. This is transitive, but it
is neither reflexive nor the same as covering member by member: a set is at least itself only if one
of its members covers all the others. Such a top member is the first one, as the members are ordered
by rank and rank extends coverage.

* `top_iff_head?`: the top member of a set is its first member, if that covers all members.
* `atLeast_by_first_member`: what the comparison `>=` says about the first members, and that whoever
  is granted a set can do whatever any set below it asks for.
-/

set_option autoImplicit false

namespace AccessScopes.ScopeSet

variable {a b : ScopeSet} {s : Scope}

/-- Whether the comparison `a >= b` holds. -/
def AtLeast (a b : ScopeSet) : Prop :=
  Value.compare .ge (.scopeSet a) (.scopeSet b) = .ok true

/-- The comparison `>=` is coverage, with no need for the sets to differ. -/
theorem atLeast_iff : a.AtLeast b ↔ a.covers b = true := by
  have hcompare : Value.compare .ge (.scopeSet a) (.scopeSet b) = .ok (a.covers b) := rfl
  rw [AtLeast, hcompare, Except.ok.injEq]

/-! ### The top member comes first -/

/-- A member that covers the first one is the first one, as no later member covers it. -/
theorem eq_of_covers_head {first : Scope} (hfirst : a.members.head? = some first)
    (hs : s ∈ a.members) (hcovers : s.covers first = true) : s = first := by
  obtain ⟨rest, hmembers⟩ := List.head?_eq_some_iff.mp hfirst
  have hlater : (first :: rest).Pairwise fun earlier later => ¬ later.covers earlier = true :=
    hmembers ▸ a.pairwise_not_covers
  rw [hmembers, List.mem_cons] at hs
  cases hs with
  | inl heq => exact heq
  | inr hrest => exact absurd hcovers ((List.pairwise_cons.mp hlater).1 s hrest)

/-- The top member of a set is its first member, if that covers all members. -/
theorem top_iff_head? :
    a.Top s ↔ a.members.head? = some s ∧ ∀ t ∈ a.members, s.covers t = true := by
  constructor
  · intro htop
    refine ⟨?_, htop.covers⟩
    cases hfirst : a.members.head? with
    | none =>
      rw [List.head?_eq_none_iff] at hfirst
      exact absurd htop.mem (by simp [hfirst])
    | some first =>
      have hcovers : s.covers first = true := htop.covers first (List.mem_of_head? hfirst)
      rw [eq_of_covers_head hfirst htop.mem hcovers]
  · rintro ⟨hfirst, hcovers⟩
    exact ⟨List.mem_of_head? hfirst, hcovers⟩

/-! ### What the comparison says -/

/-- A set is at least itself exactly if it has a top member. -/
theorem atLeast_self_iff : a.AtLeast a ↔ ∃ s, a.Top s := by
  have hboth := covers_both_iff (a := a) (b := a)
  rw [and_self] at hboth
  simp only [atLeast_iff, hboth, and_self]

/-- A single member that covers the whole other set covers each member of it. -/
theorem AtLeast.coversEach (h : a.AtLeast b) : a.CoversEach b := by
  obtain ⟨s, hs, hall⟩ := covers_eq_true_iff.mp (atLeast_iff.mp h)
  intro t ht
  exact ⟨s, hs, hall t ht⟩

/-- The comparison `>=` on scope sets.

1. It is transitive.
2. A set is at least itself exactly if it has members and the first one covers all of them.
3. Two sets are at least each other exactly if they have the same first member, and that covers all
   members of both.
4. A set that is at least another one with members can do what that one asks for, and resolves each
   of its members. -/
theorem atLeast_by_first_member (a b c : ScopeSet) :
    (a.AtLeast b → b.AtLeast c → a.AtLeast c)
      ∧ (a.AtLeast a ↔ ∃ s, a.members.head? = some s ∧ ∀ t ∈ a.members, s.covers t = true)
      ∧ (a.AtLeast b ∧ b.AtLeast a ↔ ∃ s, a.members.head? = some s ∧ b.members.head? = some s
          ∧ (∀ t ∈ a.members, s.covers t = true) ∧ ∀ t ∈ b.members, s.covers t = true)
      ∧ (a.AtLeast b → b.members ≠ [] →
          a.can b = true ∧ ∀ t ∈ b.members, ∃ s, a.resolve t = some s) := by
  refine ⟨?_, ?_, ?_, ?_⟩
  · intro hab hbc
    exact atLeast_iff.mpr (covers_trans (atLeast_iff.mp hab) (atLeast_iff.mp hbc))
  · simp only [atLeast_self_iff, top_iff_head?]
  · rw [atLeast_iff, atLeast_iff, covers_both_iff]
    simp only [top_iff_head?]
    refine exists_congr fun s => ?_
    exact and_and_and_comm.trans and_assoc
  · intro hab hne
    obtain ⟨t, ht⟩ := List.exists_mem_of_ne_nil b.members hne
    obtain ⟨s, hs, hcovers⟩ := hab.coversEach t ht
    exact ⟨can_eq_true_iff.mpr ⟨s, hs, t, ht, hcovers⟩,
      fun u hu => exists_resolve_of_covers (hab.coversEach u hu)⟩

/-- `api` with a redundant `api.x`, `api` alone, and `api.x` with `api.y`. The first two have the same
first member, and they are at least the third, which is not at least itself. -/
theorem atLeast_by_first_member_padded :
    let padded : ScopeSet := ofList
      [⟨["api", "x"], by decide, by decide⟩, ⟨["api"], by decide, by decide⟩]
    let single : ScopeSet := ofList [⟨["api"], by decide, by decide⟩]
    let parts : ScopeSet := ofList
      [⟨["api", "x"], by decide, by decide⟩, ⟨["api", "y"], by decide, by decide⟩]
    padded.AtLeast single ∧ single.AtLeast padded ∧ single.AtLeast parts ∧ parts.members ≠ []
      ∧ padded.AtLeast parts ∧ padded.can parts = true ∧ ¬ parts.AtLeast parts := by
  intro padded single parts
  have hsingle : single.AtLeast parts := rfl
  have hne : parts.members ≠ [] := by decide
  obtain ⟨htrans, -, hboth, -⟩ := atLeast_by_first_member padded single parts
  obtain ⟨hforth, hback⟩ := hboth.mpr ⟨⟨["api"], by decide, by decide⟩, rfl, rfl, by decide,
    by decide⟩
  have hpadded : padded.AtLeast parts := htrans hforth hsingle
  obtain ⟨-, -, -, hgrants⟩ := atLeast_by_first_member padded parts parts
  obtain ⟨-, hself, -, -⟩ := atLeast_by_first_member parts parts parts
  have hparts : ¬ parts.AtLeast parts := by
    rw [hself]
    rintro ⟨s, hfirst, hcovers⟩
    obtain rfl : (⟨["api", "x"], by decide, by decide⟩ : Scope) = s := Option.some.inj hfirst
    exact absurd hcovers (by decide)
  exact ⟨hforth, hback, hsingle, hne, hpadded, (hgrants hpadded hne).1, hparts⟩

end AccessScopes.ScopeSet
