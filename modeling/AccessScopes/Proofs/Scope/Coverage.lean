import AccessScopes.Scope.Basic
import Mathlib.Algebra.Order.BigOperators.Group.List
import Mathlib.Algebra.Order.Ring.Nat

/-!
# `AccessScopes.Proofs.Scope.Coverage`: what coverage means

A scope without wildcards is concrete. It stands for one permission, and a scope with wildcards
stands for the concrete scopes that it covers. Coverage is inclusion of these sets:

* `covers_refl`, `covers_trans` and `segments_eq_of_covers`: coverage is a partial order on
  scopes.
* `covers_of_covers_narrow`: coverage of one concrete scope, chosen to clash with every segment in
  question, is enough for coverage.
* `covers_iff_covers_concrete`: one scope covers another exactly when it covers every concrete
  scope that the other covers, and two scopes cover each other exactly when they have the same
  segments.

The concrete scope of the second point is `narrow`. It puts one fresh segment in the place of
every wildcard, and `freshSegment` is longer than all segments that it has to differ from.
-/

set_option autoImplicit false

namespace AccessScopes.Scope

/-! ### The order on segments -/

/-- No segments cover everything. -/
@[simp] theorem segmentsCover_nil (theirs : List String) : segmentsCover [] theirs = true := by
  cases theirs <;> rfl

/-- What has a segment more than the other does not cover it. -/
@[simp] theorem segmentsCover_cons_nil (s : String) (mine : List String) :
    segmentsCover (s :: mine) [] = false := rfl

/-- Coverage goes segment by segment. A segment covers its like, and the wildcard covers any. -/
@[simp] theorem segmentsCover_cons_cons (s t : String) (mine theirs : List String) :
    segmentsCover (s :: mine) (t :: theirs) = true
      ↔ (s = t ∨ s = wildcard) ∧ segmentsCover mine theirs = true := by
  simp [segmentsCover]

/-- Coverage goes through both lists at once, until the first one ends. -/
@[elab_as_elim]
theorem segmentsCover_induction
    {P : (mine theirs : List String) → segmentsCover mine theirs = true → Prop}
    (nil : ∀ theirs, P [] theirs (segmentsCover_nil theirs))
    (cons : ∀ {s t mine theirs} (hst : s = t ∨ s = wildcard)
      (h : segmentsCover mine theirs = true), P mine theirs h →
        P (s :: mine) (t :: theirs) ((segmentsCover_cons_cons s t mine theirs).mpr ⟨hst, h⟩))
    {mine theirs : List String} (h : segmentsCover mine theirs = true) : P mine theirs h := by
  induction mine generalizing theirs with
  | nil => exact nil theirs
  | cons s mine ih =>
    cases theirs with
    | nil => cases h
    | cons t theirs =>
      obtain ⟨hst, hrest⟩ := (segmentsCover_cons_cons s t mine theirs).mp h
      exact cons hst hrest (ih hrest)

/-- Lists of the same length cover each other's extensions piece by piece. -/
theorem segmentsCover_append {a b : List String} (h : a.length = b.length) (a' b' : List String) :
    segmentsCover (a ++ a') (b ++ b') = true
      ↔ segmentsCover a b = true ∧ segmentsCover a' b' = true := by
  induction a generalizing b with
  | nil =>
    obtain rfl : b = [] := List.eq_nil_of_length_eq_zero h.symm
    simp
  | cons s a ih =>
    cases b with
    | nil => cases h
    | cons t b =>
      rw [List.cons_append, List.cons_append, segmentsCover_cons_cons, segmentsCover_cons_cons,
        ih (Nat.succ.inj h), and_assoc]

/-- Without wildcards, a list covers no other list of its length. -/
theorem eq_of_segmentsCover_of_length_eq {a b : List String} (h : segmentsCover a b = true)
    (hconcrete : wildcard ∉ a) (hlength : a.length = b.length) : a = b := by
  induction h using segmentsCover_induction with
  | nil b => exact (List.eq_nil_of_length_eq_zero hlength.symm).symm
  | @cons s t a b hst _ ih =>
    rw [List.mem_cons, not_or] at hconcrete
    have heq : s = t := hst.resolve_right fun hs => hconcrete.1 hs.symm
    rw [heq, ih hconcrete.2 (Nat.succ.inj hlength)]

/-- Segments cover themselves. -/
theorem segmentsCover_refl (mine : List String) : segmentsCover mine mine = true := by
  induction mine with
  | nil => rfl
  | cons s mine ih =>
    rw [segmentsCover_cons_cons]
    exact ⟨Or.inl rfl, ih⟩

/-- Coverage of segments is transitive. -/
theorem segmentsCover_trans {a b c : List String} (hab : segmentsCover a b = true)
    (hbc : segmentsCover b c = true) : segmentsCover a c = true := by
  induction hab using segmentsCover_induction generalizing c with
  | nil b => exact segmentsCover_nil c
  | cons hst _ ih =>
    cases c with
    | nil => cases hbc
    | cons u c =>
      rw [segmentsCover_cons_cons] at hbc ⊢
      obtain ⟨htu, hbc⟩ := hbc
      refine ⟨?_, ih hbc⟩
      -- A wildcard in the middle is passed on only from a wildcard in front.
      rcases hst with rfl | rfl
      · exact htu
      · exact Or.inr rfl

/-- Two lists that cover each other are equal. A wildcard on one side has to be covered from the
other side, and only a wildcard covers a wildcard. -/
theorem eq_of_segmentsCover {a b : List String} (hab : segmentsCover a b = true)
    (hba : segmentsCover b a = true) : a = b := by
  induction hab using segmentsCover_induction with
  | nil b =>
    cases b with
    | nil => rfl
    | cons t b => cases hba
  | @cons s t a b hst _ ih =>
    obtain ⟨hts, hba⟩ := (segmentsCover_cons_cons t s b a).mp hba
    have heq : s = t := by
      rcases hst with h | h
      · exact h
      -- A wildcard on the left is covered from the right only by a wildcard.
      · rcases hts with h' | h'
        · exact h'.symm
        · rw [h, h']
    rw [heq, ih hba]

/-- Every scope covers itself. -/
theorem covers_refl (a : Scope) : a.covers a = true :=
  segmentsCover_refl a.segments

/-- Coverage is transitive. -/
theorem covers_trans {a b c : Scope} (hab : a.covers b = true) (hbc : b.covers c = true) :
    a.covers c = true :=
  segmentsCover_trans hab hbc

/-- Scopes that cover each other have the same segments, so coverage is a partial order. -/
theorem segments_eq_of_covers {a b : Scope} (hab : a.covers b = true) (hba : b.covers a = true) :
    a.segments = b.segments :=
  eq_of_segmentsCover hab hba

/-! ### Concrete scopes -/

/-- Whether a scope has no wildcard. -/
def Concrete (a : Scope) : Prop :=
  wildcard ∉ a.segments

/-- A segment that differs from all given ones, by being longer than all of them together. -/
def freshSegment (used : List String) : String :=
  String.ofList (List.replicate ((used.map String.length).sum + 2) '+')

/-- A fresh segment is longer than all used ones together. -/
theorem length_freshSegment (used : List String) :
    (freshSegment used).length = (used.map String.length).sum + 2 := by
  simp [freshSegment]

/-- A fresh segment is none of the used ones, because of its length. -/
theorem freshSegment_not_mem (used : List String) : freshSegment used ∉ used := by
  intro h
  have hle : (freshSegment used).length ≤ (used.map String.length).sum :=
    List.le_sum_of_mem (List.mem_map_of_mem h)
  rw [length_freshSegment] at hle
  omega

/-- A fresh segment is not the wildcard, again because of its length. -/
theorem freshSegment_ne_wildcard (used : List String) : freshSegment used ≠ wildcard := by
  intro h
  have hlength := length_freshSegment used
  rw [h, show wildcard.length = 1 from rfl] at hlength
  omega

/-- A fresh segment may stand in a scope. It is not empty and has no dot. -/
theorem isSegment_freshSegment (used : List String) : IsSegment (freshSegment used) := by
  constructor
  · intro h
    have hlength := length_freshSegment used
    rw [h, show "".length = 0 from rfl] at hlength
    omega
  · simp [freshSegment, separator]

/-- Puts a segment in the place of every wildcard. -/
def fillWildcards (fresh : String) (segments : List String) : List String :=
  segments.map fun s => if s = wildcard then fresh else s

/-- No wildcard is left when each gives way to another segment. -/
theorem wildcard_not_mem_fillWildcards {fresh : String} (hfresh : fresh ≠ wildcard)
    (segments : List String) : wildcard ∉ fillWildcards fresh segments := by
  intro h
  obtain ⟨s, -, hs⟩ := List.mem_map.mp h
  split at hs
  · exact hfresh hs
  · next hne => exact hne hs

/-- Segments cover what is made of them by filling their wildcards. -/
theorem segmentsCover_fillWildcards (fresh : String) (segments : List String) :
    segmentsCover segments (fillWildcards fresh segments) = true := by
  induction segments with
  | nil => rfl
  | cons s segments ih =>
    rw [fillWildcards, List.map_cons, segmentsCover_cons_cons]
    refine ⟨?_, ih⟩
    by_cases h : s = wildcard
    · exact Or.inr h
    · exact Or.inl (by rw [if_neg h])

/-- What covers the filled list covers the list itself: a segment that differs from the filling
cannot have matched it, so a wildcard that was filled is matched by a wildcard. -/
theorem segmentsCover_of_fillWildcards {fresh : String} {mine theirs : List String}
    (hfresh : fresh ∉ mine) (h : segmentsCover mine (fillWildcards fresh theirs) = true) :
    segmentsCover mine theirs = true := by
  induction mine generalizing theirs with
  | nil => exact segmentsCover_nil theirs
  | cons s mine ih =>
    cases theirs with
    | nil => exact h
    | cons t theirs =>
      rw [fillWildcards, List.map_cons, segmentsCover_cons_cons] at h
      rw [segmentsCover_cons_cons]
      rw [List.mem_cons, not_or] at hfresh
      refine ⟨?_, ih hfresh.2 h.2⟩
      rcases h.1 with hs | hs
      · -- If `t` was a wildcard, then `s` would be the fresh segment.
        split at hs
        · exact absurd hs.symm hfresh.1
        · exact Or.inl hs
      · exact Or.inr hs

/-- A concrete scope below `b` that no segment of `a` matches by accident. -/
def narrow (a b : Scope) : Scope where
  segments := fillWildcards (freshSegment a.segments) b.segments
  segments_ne := by simpa [fillWildcards] using b.segments_ne
  isSegment := by
    intro s hs
    obtain ⟨t, ht, rfl⟩ := List.mem_map.mp hs
    split
    · exact isSegment_freshSegment a.segments
    · exact b.isSegment t ht

/-- The chosen scope is concrete. -/
theorem concrete_narrow (a b : Scope) : (narrow a b).Concrete :=
  wildcard_not_mem_fillWildcards (freshSegment_ne_wildcard a.segments) b.segments

/-- The scope whose wildcards were filled covers the chosen one. -/
theorem covers_narrow (a b : Scope) : b.covers (narrow a b) = true :=
  segmentsCover_fillWildcards (freshSegment a.segments) b.segments

/-- To cover the chosen concrete scope is to cover the scope that it was made of. The fresh segment
clashes with all segments of the other scope, so that only a wildcard can cover it. -/
theorem covers_of_covers_narrow {a b : Scope} (h : a.covers (narrow a b) = true) :
    a.covers b = true :=
  segmentsCover_of_fillWildcards (freshSegment_not_mem a.segments) h

/-- Coverage is inclusion of the concrete scopes granted, neither more nor less; and it is
antisymmetric, so no two scopes grant the same concrete scopes. -/
theorem covers_iff_covers_concrete (a b : Scope) :
    (a.covers b = true ↔
        ∀ c : Scope, c.Concrete → b.covers c = true → a.covers c = true)
      ∧ (a.covers b = true ∧ b.covers a = true ↔ a.segments = b.segments) := by
  constructor
  · constructor
    · intro hab c _ hbc
      exact covers_trans hab hbc
    · intro h
      exact covers_of_covers_narrow
        (h (narrow a b) (concrete_narrow a b) (covers_narrow a b))
  · constructor
    · rintro ⟨hab, hba⟩
      exact segments_eq_of_covers hab hba
    · intro h
      obtain rfl : a = b := ext h
      exact ⟨covers_refl a, covers_refl a⟩

end AccessScopes.Scope
