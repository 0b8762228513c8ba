import AccessScopes.Proofs.Scope.Coverage

/-!
# `AccessScopes.Proofs.Scope.Rank`: coverage and rank

Scopes are ordered by rank: shorter ones first, and of equally long ones those with more wildcards.
Coverage is a partial order, and the order by rank extends it to all scopes.

* `length_le_of_segmentsCover` and `count_lt_of_segmentsCover`: what covers is not longer, and what
  covers something else of the same length has more wildcards.
* `rank_before_of_covers`: a scope stands before every other scope that it covers.
-/

set_option autoImplicit false

namespace AccessScopes.Scope

/-- Whether a rank is the smaller one: fewer segments, or equally many and more wildcards. -/
def Rank.Before (a b : Rank) : Prop :=
  a.length < b.length ∨ a.length = b.length ∧ b.wildcards < a.wildcards

/-- The order in which scopes are sorted is the one by rank. -/
theorem not_precedes_iff {a b : Scope} : ¬ a.precedes b = true ↔ b.rank.Before a.rank := by
  simp only [precedes, Rank.le, Rank.Before, Bool.or_eq_true, Bool.and_eq_true,
    decide_eq_true_eq, beq_iff_eq]
  omega

/-- Ranks of which neither stands before the other are the same. -/
theorem Rank.eq_of_not_before {a b : Rank} (hab : ¬ a.Before b) (hba : ¬ b.Before a) : a = b := by
  obtain ⟨length, wildcards⟩ := a
  simp only [Rank.Before] at hab hba
  rw [Rank.mk.injEq]
  omega

/-- What covers has no more segments than what it covers. -/
theorem length_le_of_segmentsCover {a b : List String} (h : segmentsCover a b = true) :
    a.length ≤ b.length := by
  induction h using segmentsCover_induction with
  | nil b => exact Nat.zero_le _
  | cons _ _ ih => exact Nat.succ_le_succ ih

/-- Over the same length, every wildcard on the right stands below one on the left. -/
theorem count_le_of_segmentsCover {a b : List String} (h : segmentsCover a b = true)
    (hlength : a.length = b.length) : b.count wildcard ≤ a.count wildcard := by
  induction h using segmentsCover_induction with
  | nil b =>
    obtain rfl : b = [] := List.eq_nil_of_length_eq_zero hlength.symm
    exact Nat.le_refl _
  | @cons s t a b hst _ ih =>
    have hrest : b.count wildcard ≤ a.count wildcard := ih (Nat.succ.inj hlength)
    rcases hst with rfl | rfl
    · simp only [List.count_cons]
      omega
    · -- A wildcard in front counts, whatever stands below it.
      simp only [List.count_cons, BEq.rfl, if_true]
      split <;> omega

/-- Where two lists of the same length differ, the left one has a wildcard and the right one has
none. -/
theorem count_lt_of_segmentsCover {a b : List String} (h : segmentsCover a b = true)
    (hlength : a.length = b.length) (hne : a ≠ b) : b.count wildcard < a.count wildcard := by
  induction h using segmentsCover_induction with
  | nil b => exact absurd (List.eq_nil_of_length_eq_zero hlength.symm).symm hne
  | @cons s t a b hst h ih =>
    have hrest : a.length = b.length := Nat.succ.inj hlength
    by_cases heq : s = t
    · subst heq
      have hlt : b.count wildcard < a.count wildcard :=
        ih hrest fun hsame => hne (by rw [hsame])
      simp only [List.count_cons]
      omega
    · have hs : s = wildcard := hst.resolve_left heq
      have ht : (t == wildcard) = false := by
        rw [beq_eq_false_iff_ne]
        rintro rfl
        exact heq hs
      have hle : b.count wildcard ≤ a.count wildcard := count_le_of_segmentsCover h hrest
      simp only [List.count_cons, hs, ht, BEq.rfl, if_true, Bool.false_eq_true, if_false]
      omega

/-- The order by rank extends coverage: a scope stands before every other scope that it covers. -/
theorem rank_before_of_covers {a b : Scope} (h : a.covers b = true) (hne : a ≠ b) :
    a.rank.Before b.rank := by
  have hle : a.segments.length ≤ b.segments.length := length_le_of_segmentsCover h
  rcases Nat.lt_or_eq_of_le hle with hlt | hlength
  · exact Or.inl hlt
  · exact Or.inr ⟨hlength, count_lt_of_segmentsCover h hlength fun heq => hne (ext heq)⟩

end AccessScopes.Scope
