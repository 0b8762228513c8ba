import AccessScopes.Proofs.Scope.Coverage
import AccessScopes.Proofs.ScopeSet.Queries
import AccessScopes.Value.Comparison

/-!
# `AccessScopes.Proofs.ScopeSet.StrictCoverage`: when one set exceeds another

A set exceeds another if one of its members covers the whole other set and the two are not the
same. Coverage is about what is granted and sameness about which scopes are written, and a set may
hold members that add nothing to what it grants. So two different sets can cover each other, and
then each exceeds the other.

* `covers_trans`: coverage passes on from set to set.
* `covers_both_iff`: two sets cover each other exactly if they have the same top member.
* `Irredundant.same_of_top`: without members that add nothing, the top member is the whole set.
* `exceeds_up_to_top` says how far a strict order goes: no set exceeds itself, two sets exceed each
  other exactly if they differ below the same top member, and only a way back to where it began
  breaks transitivity. Among irredundant sets it is a strict order.
* `exceed_each_other`: `api` with a redundant `api.x`, and `api` alone.
-/

set_option autoImplicit false

namespace AccessScopes.ScopeSet

variable {a b c : ScopeSet} {s : Scope}

/-- Whether the comparison `a > b` holds. -/
def Exceeds (a b : ScopeSet) : Prop :=
  Value.compare .gt (.scopeSet a) (.scopeSet b) = .ok true

/-- Whether two sets have the same members. -/
def SameMembers (a b : ScopeSet) : Prop :=
  ∀ s, s ∈ a.members ↔ s ∈ b.members

/-- A member that covers all members. -/
structure Top (a : ScopeSet) (s : Scope) : Prop where
  mem : s ∈ a.members
  covers : ∀ t ∈ a.members, s.covers t = true

/-- A set of which no member covers another one. -/
def Irredundant (a : ScopeSet) : Prop :=
  ∀ s ∈ a.members, ∀ t ∈ a.members, s.covers t = true → s = t

/-- The comparison `>` in terms of coverage and of the members alone. -/
theorem exceeds_iff : a.Exceeds b ↔ a.covers b = true ∧ ¬ a.SameMembers b := by
  have hcompare : Value.compare .gt (.scopeSet a) (.scopeSet b)
      = .ok (a.covers b && !a.same b) := rfl
  rw [Exceeds, hcompare, Except.ok.injEq, Bool.and_eq_true, Bool.not_eq_true', SameMembers,
    ← same_eq_true_iff, Bool.not_eq_true]

/-! ### Sets that cover each other -/

/-- The member that covers the second set covers in it the one that covers the third. -/
theorem covers_trans (hab : a.covers b = true) (hbc : b.covers c = true) :
    a.covers c = true := by
  obtain ⟨s, hs, hsb⟩ := covers_eq_true_iff.mp hab
  obtain ⟨t, ht, htc⟩ := covers_eq_true_iff.mp hbc
  exact covers_eq_true_iff.mpr ⟨s, hs, fun u hu => Scope.covers_trans (hsb t ht) (htc u hu)⟩

/-- The members by which two sets cover each other cover one another, so they are the same. -/
theorem covers_both_iff :
    a.covers b = true ∧ b.covers a = true ↔ ∃ s, a.Top s ∧ b.Top s := by
  constructor
  · rintro ⟨hab, hba⟩
    obtain ⟨s, hs, hsb⟩ := covers_eq_true_iff.mp hab
    obtain ⟨t, ht, hta⟩ := covers_eq_true_iff.mp hba
    -- `s` covers all of `b`, so `t` too; `t` covers all of `a`, so `s` too.
    obtain rfl : s = t := Scope.ext (Scope.segments_eq_of_covers (hsb t ht) (hta s hs))
    exact ⟨s, ⟨hs, hta⟩, ⟨ht, hsb⟩⟩
  · rintro ⟨s, ha, hb⟩
    exact ⟨covers_eq_true_iff.mpr ⟨s, ha.mem, hb.covers⟩,
      covers_eq_true_iff.mpr ⟨s, hb.mem, ha.covers⟩⟩

/-- Two sets exceed each other exactly if they have the same top member and are not the same set. -/
theorem exceeds_both_iff :
    a.Exceeds b ∧ b.Exceeds a ↔ ¬ a.SameMembers b ∧ ∃ s, a.Top s ∧ b.Top s := by
  have hsymm : b.SameMembers a ↔ a.SameMembers b := forall_congr' fun _ => Iff.comm
  rw [exceeds_iff, exceeds_iff, hsymm, ← covers_both_iff]
  constructor
  · rintro ⟨⟨hab, hne⟩, hba, -⟩
    exact ⟨hne, hab, hba⟩
  · rintro ⟨hne, hab, hba⟩
    exact ⟨⟨hab, hne⟩, hba, hne⟩

/-- A set of a single scope has no member that adds nothing. -/
theorem Irredundant.singleton (h : a.members = [s]) : a.Irredundant := by
  intro t ht u hu _
  rw [h, List.mem_singleton] at ht hu
  rw [ht, hu]

/-- Without members that add nothing, the top member is the only one. -/
theorem Irredundant.mem_iff_of_top (ha : a.Irredundant) (hs : a.Top s) {t : Scope} :
    t ∈ a.members ↔ t = s := by
  constructor
  · intro ht
    exact (ha s hs.mem t ht (hs.covers t ht)).symm
  · rintro rfl
    exact hs.mem

/-- Two irredundant sets with the same top member hold nothing else. -/
theorem Irredundant.same_of_top (ha : a.Irredundant) (hb : b.Irredundant) (hs : a.Top s)
    (hs' : b.Top s) : a.SameMembers b := by
  intro t
  rw [ha.mem_iff_of_top hs, hb.mem_iff_of_top hs']

/-- Among sets without members that add nothing, no two exceed each other. -/
theorem Irredundant.not_exceeds (ha : a.Irredundant) (hb : b.Irredundant) (h : a.Exceeds b) :
    ¬ b.Exceeds a := by
  intro h'
  obtain ⟨hne, s, hs, hs'⟩ := exceeds_both_iff.mp ⟨h, h'⟩
  exact hne (ha.same_of_top hb hs hs')

/-! ### How far a strict order goes -/

/-- From a set that exceeds another, one exceeds whatever that one exceeds, unless the way leads
back to the same members. -/
theorem Exceeds.trans_iff (hab : a.Exceeds b) (hbc : b.Exceeds c) :
    a.Exceeds c ↔ ¬ a.SameMembers c := by
  obtain ⟨hab, -⟩ := exceeds_iff.mp hab
  obtain ⟨hbc, -⟩ := exceeds_iff.mp hbc
  rw [exceeds_iff]
  exact ⟨fun h => h.2, fun hne => ⟨covers_trans hab hbc, hne⟩⟩

/-- A way back to the same members is a way back to the set itself. -/
theorem Exceeds.of_same {d : ScopeSet} (h : b.Exceeds c) (hsame : d.SameMembers c) :
    b.Exceeds d := by
  rw [exceeds_iff, covers_eq_true_iff] at h ⊢
  obtain ⟨⟨s, hs, hcovers⟩, hne⟩ := h
  refine ⟨⟨s, hs, fun t ht => hcovers t ((hsame t).mp ht)⟩, fun hbd => hne fun t => ?_⟩
  exact (hbd t).trans (hsame t)

/-- The comparison `>` on scope sets, against a strict order.

1. No set exceeds itself.
2. Two sets exceed each other exactly if they are different and have the same top member.
3. If `a` exceeds `b` and `b` exceeds `c`, then `a` exceeds `c` exactly if they are different.
4. Where `a` and `b` are irredundant, the exceptions do not occur. -/
theorem exceeds_up_to_top (a b c : ScopeSet) :
    ¬ a.Exceeds a
      ∧ (a.Exceeds b ∧ b.Exceeds a ↔ ¬ a.SameMembers b ∧ ∃ s, a.Top s ∧ b.Top s)
      ∧ (a.Exceeds b → b.Exceeds c → (a.Exceeds c ↔ ¬ a.SameMembers c))
      ∧ (a.Irredundant → b.Irredundant → a.Exceeds b →
          ¬ b.Exceeds a ∧ (b.Exceeds c → a.Exceeds c)) := by
  refine ⟨fun h => (exceeds_iff.mp h).2 fun _ => Iff.rfl, exceeds_both_iff,
    fun hab hbc => hab.trans_iff hbc, ?_⟩
  intro ha hb hab
  have hasymm : ¬ b.Exceeds a := ha.not_exceeds hb hab
  -- If `c` had the members of `a`, then `b` would exceed `a` as it exceeds `c`.
  refine ⟨hasymm, fun hbc => (hab.trans_iff hbc).mpr fun hsame => ?_⟩
  exact hasymm (hbc.of_same hsame)

/-- `api` exceeds `api.x`, which exceeds `api.x.y`; so `api` exceeds `api.x.y`. And `api.x` does not
exceed `api`. -/
theorem exceeds_up_to_top_chain :
    let top : ScopeSet := ofList [⟨["api"], by decide, by decide⟩]
    let middle : ScopeSet := ofList [⟨["api", "x"], by decide, by decide⟩]
    let bottom : ScopeSet := ofList [⟨["api", "x", "y"], by decide, by decide⟩]
    top.Exceeds middle ∧ middle.Exceeds bottom ∧ top.Exceeds bottom ∧ ¬ middle.Exceeds top := by
  intro top middle bottom
  have hfirst : top.Exceeds middle := rfl
  have hsecond : middle.Exceeds bottom := rfl
  obtain ⟨-, -, -, hstrict⟩ := exceeds_up_to_top top middle bottom
  obtain ⟨hasymm, htrans⟩ := hstrict (.singleton rfl) (.singleton rfl) hfirst
  exact ⟨hfirst, hsecond, htrans hsecond, hasymm⟩

/-- With a redundant member, two sets exceed each other. So the comparison is not asymmetric; and
it is not transitive, as no set exceeds itself. -/
theorem exceed_each_other :
    let padded : ScopeSet := ofList
      [⟨["api"], by decide, by decide⟩, ⟨["api", "x"], by decide, by decide⟩]
    let single : ScopeSet := ofList [⟨["api"], by decide, by decide⟩]
    padded.Exceeds single ∧ single.Exceeds padded ∧ ¬ padded.Exceeds padded := by
  intro padded single
  have hforth : padded.Exceeds single := rfl
  have hback : single.Exceeds padded := rfl
  have hself : ¬ padded.Exceeds padded := fun h => (exceeds_iff.mp h).2 fun _ => Iff.rfl
  exact ⟨hforth, hback, hself⟩

end AccessScopes.ScopeSet
