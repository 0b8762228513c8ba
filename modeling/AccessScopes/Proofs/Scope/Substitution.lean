import AccessScopes.Proofs.Scope.Coverage
import Mathlib.Data.List.Induction

/-!
# `AccessScopes.Proofs.Scope.Substitution`: replacing segments

`Scope.expand` replaces the segments that a table names. It looks up every segment of the scope once,
so no replacement is looked at again, and no segment is added or lost. A replacement that is not a
segment, because it is empty or has a dot, makes the whole call fail.

* `Substitution.Becomes` says what a table makes of a segment, with the last entry for the segment.
  `Substitution.becomes_iff`: this is what `Substitution.apply` computes.
* `forall₂_becomes_of_expand`: an expanded scope, segment by segment.
* `exists_expand_iff`: which scopes can be expanded.
* `covers_expand`: a table that has no entry for the wildcard keeps coverage. The segment that a
  segment is compared with is replaced by the same text, and a wildcard stays a wildcard.
-/

set_option autoImplicit false

namespace AccessScopes.Scope

variable {table : Substitution} {s r : String} {a b a' b' : Scope}

/-! ### What a table makes of a segment -/

/-- The segments that a table names. -/
def Substitution.keys (table : Substitution) : List String :=
  table.map Prod.fst

/-- Whether the last entry for a segment has the text `r`. -/
def Substitution.Replaces (table : Substitution) (s r : String) : Prop :=
  ∃ front back, table = front ++ (s, r) :: back ∧ s ∉ Substitution.keys back

/-- Whether a table makes the text `r` of a segment: by its last entry for it, or by leaving it as it
is if there is none. -/
def Substitution.Becomes (table : Substitution) (s r : String) : Prop :=
  table.Replaces s r ∨ (s ∉ table.keys ∧ r = s)

/-- The last entry of a table decides about its own key, and the entries before it about all
others. -/
theorem Substitution.apply_concat (table : Substitution) (k v s : String) :
    Substitution.apply (table ++ [(k, v)]) s = if s = k then v else table.apply s := by
  rw [apply, List.reverse_append, List.reverse_singleton, List.singleton_append, List.lookup_cons]
  by_cases h : s = k
  · simp [h]
  · have hb : (s == k) = false := by simpa using h
    rw [hb, if_neg h, apply]

/-- An entry at the end adds its key at the end. -/
theorem Substitution.keys_concat (table : Substitution) (k v : String) :
    Substitution.keys (table ++ [(k, v)]) = table.keys ++ [k] := by
  rw [keys, List.map_append, List.map_singleton, ← keys]

/-- A segment without an entry stays. -/
theorem Substitution.apply_of_not_mem_keys (h : s ∉ table.keys) : table.apply s = s := by
  induction table using List.reverseRecOn with
  | nil => rfl
  | append_singleton table entry ih =>
    obtain ⟨k, v⟩ := entry
    rw [keys_concat, List.mem_append, List.mem_singleton, not_or] at h
    rw [apply_concat, if_neg h.2, ih h.1]

/-- A segment with an entry is replaced as the table says. -/
theorem Substitution.replaces_apply (h : s ∈ table.keys) : table.Replaces s (table.apply s) := by
  induction table using List.reverseRecOn with
  | nil => cases h
  | append_singleton table entry ih =>
    obtain ⟨k, v⟩ := entry
    rw [apply_concat]
    by_cases hk : s = k
    · -- The entry at the end is the last one for `s`.
      rw [if_pos hk]
      exact ⟨table, [], by rw [hk], List.not_mem_nil⟩
    · rw [keys_concat, List.mem_append, List.mem_singleton, or_iff_left hk] at h
      obtain ⟨front, back, htable, hback⟩ := ih h
      rw [if_neg hk]
      refine ⟨front, back ++ [(k, v)], ?_, ?_⟩
      · conv_lhs => rw [htable]
        rw [List.append_assoc, List.cons_append]
      · rw [keys_concat, List.mem_append, List.mem_singleton, not_or]
        exact ⟨hback, hk⟩

/-- There is only one replacement that a table has for a segment. -/
theorem Substitution.Replaces.apply_eq (h : table.Replaces s r) : table.apply s = r := by
  obtain ⟨front, back, rfl, hback⟩ := h
  -- The entries behind the one for `s` are taken off one by one, as they name other segments.
  induction back using List.reverseRecOn with
  | nil => rw [apply_concat, if_pos rfl]
  | append_singleton back entry ih =>
    obtain ⟨k, v⟩ := entry
    rw [keys_concat, List.mem_append, List.mem_singleton, not_or] at hback
    rw [← List.cons_append, ← List.append_assoc, apply_concat, if_neg hback.2, ih hback.1]

/-- What a table makes of a segment is what `Substitution.apply` computes. -/
theorem Substitution.becomes_iff : table.Becomes s r ↔ table.apply s = r := by
  constructor
  · rintro (h | ⟨h, rfl⟩)
    · exact h.apply_eq
    · exact apply_of_not_mem_keys h
  · rintro rfl
    by_cases h : s ∈ table.keys
    · exact Or.inl (replaces_apply h)
    · exact Or.inr ⟨h, apply_of_not_mem_keys h⟩

/-! ### Expanding a scope -/

/-- The expanded scope is the one whose segments are the replaced ones. -/
theorem expand_eq_ok_iff : a.expand table = .ok b ↔ a.segments.map table.apply = b.segments := by
  constructor
  · intro h
    exact (segments_of_ofSegments h).symm
  · intro h
    rw [expand, h, ofSegments_segments]

/-- The expanded scope has one segment for each segment of the scope. -/
theorem forall₂_becomes_of_expand (h : a.expand table = .ok b) :
    List.Forall₂ table.Becomes a.segments b.segments := by
  rw [← expand_eq_ok_iff.mp h, List.forall₂_map_right_iff, List.forall₂_same]
  intro s _
  exact Substitution.becomes_iff.mpr rfl

/-- The segments of the scope itself are no problem, so only replacements have to be looked at. -/
theorem exists_expand_iff :
    (∃ b, a.expand table = .ok b)
      ↔ ∀ s ∈ a.segments, ∀ r, table.Replaces s r → IsSegment r := by
  constructor
  · rintro ⟨b, hb⟩ s hs r hr
    refine b.isSegment r ?_
    rw [← expand_eq_ok_iff.mp hb, ← hr.apply_eq]
    exact List.mem_map_of_mem hs
  · intro h
    have hsegments : ∀ r ∈ a.segments.map table.apply, IsSegment r := by
      intro r hr
      obtain ⟨s, hs, rfl⟩ := List.mem_map.mp hr
      -- A segment without a replacement stays, and was in order before.
      by_cases hkey : s ∈ table.keys
      · exact h s hs _ (Substitution.replaces_apply hkey)
      · rw [Substitution.apply_of_not_mem_keys hkey]
        exact a.isSegment s hs
    have hne : a.segments.map table.apply ≠ [] := by simpa using a.segments_ne
    exact ⟨⟨a.segments.map table.apply, hne, hsegments⟩, expand_eq_ok_iff.mpr rfl⟩

/-! ### Coverage -/

/-- Replacing segments on both sides keeps coverage, if the wildcard stays a wildcard. -/
theorem segmentsCover_map {f : String → String} (hf : f wildcard = wildcard)
    {mine theirs : List String} (h : segmentsCover mine theirs = true) :
    segmentsCover (mine.map f) (theirs.map f) = true := by
  induction h using segmentsCover_induction with
  | nil theirs => exact segmentsCover_nil _
  | cons hst _ ih =>
    rw [List.map_cons, List.map_cons, segmentsCover_cons_cons]
    refine ⟨?_, ih⟩
    rcases hst with rfl | rfl
    · exact Or.inl rfl
    · exact Or.inr hf

/-- Expanding two scopes with one table keeps coverage, if the table has no entry for the
wildcard. -/
theorem covers_expand (hwild : wildcard ∉ table.keys) (ha : a.expand table = .ok a')
    (hb : b.expand table = .ok b') (h : a.covers b = true) : a'.covers b' = true := by
  rw [covers, ← expand_eq_ok_iff.mp ha, ← expand_eq_ok_iff.mp hb]
  exact segmentsCover_map (Substitution.apply_of_not_mem_keys hwild) h

end AccessScopes.Scope
