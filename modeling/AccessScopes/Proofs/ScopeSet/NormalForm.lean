import AccessScopes.Proofs.ScopeSet.StrictCoverage
import AccessScopes.Proofs.ScopeSet.Subsumption

/-!
# `AccessScopes.Proofs.ScopeSet.NormalForm`: the set that a nested value means

Callers nest texts, scopes, cursors and sets to any depth. The set of such a value is a normal form:
each scope once, the general ones first. It is not canonical, as scopes of equal rank keep the order
in which they were found. So there are questions to which the order makes a difference, and others
to which it makes none.

* `NormalFormOf` says what is true of the list of members, in terms of the leaves of the value.
* `SameMembers.answersAlike`: sets with the same members give the same answers, except that `resolve`
  may find another member of the same rank.
* `collect_normal_form`: which values mean a set, what this set looks like, and that nothing but the
  leaves matters for its answers.
-/

set_option autoImplicit false

namespace AccessScopes

/-- Whether two values have the same leaves, as written. -/
def Value.SameLeaves (v w : Value) : Prop :=
  ∀ t, (∃ leaf, v.HasLeaf leaf ∧ leaf.plain = t) ↔ ∃ leaf, w.HasLeaf leaf ∧ leaf.plain = t

namespace ScopeSet

/-- Whether a set is the normal form of a value:

- `nodup`: no text is there twice;
- `mem_texts_iff`: the texts are those of the leaves;
- `ordered`: no member stands before an earlier one by rank;
- `uncovered`: no member covers an earlier one;
- `rebuilt`: the texts, in their order, mean the set again. -/
structure NormalFormOf (a : ScopeSet) (v : Value) : Prop where
  nodup : a.texts.Nodup
  mem_texts_iff : ∀ t, t ∈ a.texts ↔ ∃ leaf, v.HasLeaf leaf ∧ leaf.plain = t
  ordered : a.members.Pairwise fun earlier later => ¬ later.rank.Before earlier.rank
  uncovered : a.members.Pairwise fun earlier later => ¬ later.covers earlier = true
  rebuilt : (Value.list (a.texts.map .text)).collect = .ok a

/-- Whether two sets are equal and answer alike. What they resolve may differ, but not by rank. -/
structure AnswersAlike (a b : ScopeSet) : Prop where
  same : a.same b = true
  size : a.size = b.size
  can : ∀ r, a.can r = b.can r
  covers : ∀ r, a.covers r = b.covers r
  contains : ∀ v, a.containsValue v = b.containsValue v
  rank : ∀ wanted, (a.resolve wanted).map Scope.rank = (b.resolve wanted).map Scope.rank

variable {a b : ScopeSet}

/-! ### The list of members -/

/-- No text is in a set twice, because different scopes have different texts. -/
theorem nodup_texts (a : ScopeSet) : a.texts.Nodup := by
  show (a.members.map Scope.text).Nodup
  exact List.Pairwise.map Scope.text (fun _ _ hne htext => hne (Scope.eq_of_text_eq htext)) a.nodup

/-- Scopes are told apart by their texts. -/
theorem text_mem_texts_iff {s : Scope} : s.text ∈ a.texts ↔ s ∈ a.members := by
  constructor
  · intro hs
    obtain ⟨s', hs', htext⟩ := List.mem_map.mp hs
    exact Scope.eq_of_text_eq htext ▸ hs'
  · exact List.mem_map_of_mem

/-- The texts of a set are those of the leaves of the value that it was built from. -/
theorem mem_texts_iff_of_collect {v : Value} (h : v.collect = .ok a) (t : String) :
    t ∈ a.texts ↔ ∃ leaf, v.HasLeaf leaf ∧ leaf.plain = t := by
  obtain ⟨found, hfound, rfl⟩ := map_eq_ok_iff.mp h
  simp only [texts, List.mem_map, mem_members_ofList, Value.mem_scopes_iff hfound]
  constructor
  · rintro ⟨s, ⟨leaf, hleaf, hscope⟩, rfl⟩
    exact ⟨leaf, hleaf, Value.plain_of_leaf hleaf.parts?_eq_none hscope⟩
  · rintro ⟨leaf, hleaf, rfl⟩
    -- Every leaf means a scope, or there would be no set.
    have hmeans : leaf.MeansScope := (Value.exists_scopes_iff v).mp ⟨found, hfound⟩ leaf hleaf
    obtain ⟨s, hscope⟩ := (Value.meansScope_iff_of_leaf hleaf.parts?_eq_none).mp hmeans
    exact ⟨s, ⟨leaf, hleaf, hscope⟩, (Value.plain_of_leaf hleaf.parts?_eq_none hscope).symm⟩

/-- The set that a value means is a normal form of it. -/
theorem normalFormOf_of_collect {v : Value} (h : v.collect = .ok a) : a.NormalFormOf v where
  nodup := a.nodup_texts
  mem_texts_iff := mem_texts_iff_of_collect h
  ordered := a.pairwise_not_before
  uncovered := a.pairwise_not_covers
  rebuilt := Value.toScopeSet_texts a

/-! ### Sets with the same members -/

/-- To have the same members is symmetric. -/
theorem SameMembers.symm (h : a.SameMembers b) : b.SameMembers a :=
  fun s => (h s).symm

/-- A set covers every member of a set with the same members, member by member. -/
theorem SameMembers.coversEach (h : a.SameMembers b) : a.CoversEach b :=
  fun s hs => ⟨s, (h s).mpr hs, Scope.covers_refl s⟩

/-- Sets with the same texts have the same members. -/
theorem sameMembers_of_texts (h : ∀ t, t ∈ a.texts ↔ t ∈ b.texts) : a.SameMembers b := by
  intro s
  rw [← text_mem_texts_iff, ← text_mem_texts_iff]
  exact h s.text

/-- What is found in either set is a member of both that covers the wanted scope, so neither stands
before the other. -/
theorem SameMembers.map_rank_resolve (h : a.SameMembers b) (wanted : Scope) :
    (a.resolve wanted).map Scope.rank = (b.resolve wanted).map Scope.rank := by
  cases ha : a.resolve wanted with
  | none =>
    have hb : b.resolve wanted = none := by
      rw [resolve_eq_none_iff] at ha ⊢
      exact fun s hs => ha s ((h s).mpr hs)
    rw [hb]
  | some s =>
    have hs : s ∈ b.members := (h s).mp (mem_of_resolve ha)
    obtain ⟨t, hb⟩ := exists_resolve_of_covers ⟨s, hs, covers_of_resolve ha⟩
    have ht : t ∈ a.members := (h t).mpr (mem_of_resolve hb)
    have hrank : s.rank = t.rank :=
      Scope.Rank.eq_of_not_before (not_before_of_resolve hb hs (covers_of_resolve ha))
        (not_before_of_resolve ha ht (covers_of_resolve hb))
    rw [hb, Option.map_some, Option.map_some, hrank]

/-- Sets with the same members give the same answers, but for members of one rank in `resolve`. -/
theorem SameMembers.answersAlike (h : a.SameMembers b) : a.AnswersAlike b where
  same := same_eq_true_iff.mpr h
  size := ((List.perm_ext_iff_of_nodup a.nodup b.nodup).mpr h).length_eq
  can r := Bool.eq_iff_iff.mpr ⟨h.symm.coversEach.can, h.coversEach.can⟩
  covers r := Bool.eq_iff_iff.mpr ⟨h.symm.coversEach.covers, h.coversEach.covers⟩
  contains v := by
    unfold containsValue
    split
    · rw [contains, contains, Bool.eq_iff_iff, List.contains_iff_mem, List.contains_iff_mem]
      exact h _
    · rfl
  rank := h.map_rank_resolve

/-! ### The set of a value -/

/-- A value means a set exactly when each of its leaves means a scope. -/
theorem exists_collect_iff {v : Value} :
    (∃ a, v.collect = .ok a) ↔ ∀ leaf, v.HasLeaf leaf → leaf.MeansScope :=
  exists_map_iff.trans (Value.exists_scopes_iff v)

/-- The set of a nested value.

1. A value means a set exactly if each of its leaves means a scope. A leaf that means none, such as
   a number, a truth value, nothing or a text with an empty piece, is refused as an argument.
2. The set is the normal form of the value.
3. Values with the same leaves, in whatever order and nesting and however often, mean sets that
   answer alike. -/
theorem collect_normal_form (v : Value) :
    ((∃ a, v.collect = .ok a) ↔ ∀ leaf, v.HasLeaf leaf → leaf.MeansScope)
      ∧ ((∃ e, v.collect = .error e) ↔ ∃ leaf, v.HasLeaf leaf ∧ ¬ leaf.MeansScope)
      ∧ (∀ a, v.collect = .ok a → a.NormalFormOf v)
      ∧ ∀ (w : Value) (a b : ScopeSet), v.collect = .ok a → w.collect = .ok b →
          v.SameLeaves w → a.AnswersAlike b := by
  refine ⟨exists_collect_iff, ?_, fun a => normalFormOf_of_collect, ?_⟩
  · have herror : (∃ e, v.collect = .error e) ↔ ¬ ∃ a, v.collect = .ok a := by
      cases v.collect with
      | error e => simp
      | ok a => simp
    rw [herror, exists_collect_iff]
    simp only [Classical.not_forall, exists_prop]
  · intro w a b ha hb hleaves
    refine (sameMembers_of_texts fun t => ?_).answersAlike
    rw [mem_texts_iff_of_collect ha, mem_texts_iff_of_collect hb]
    exact hleaves t

/-- Two scopes of equal rank, nested in two ways and found in two orders. The sets list them in these
orders, and answer alike. A number among them is refused. -/
theorem collect_normal_form_nested :
    let read : Scope := ⟨["api", "read"], by decide, by decide⟩
    let write : Scope := ⟨["api", "write"], by decide, by decide⟩
    let cursor : Cursor := ⟨["api", "read"], [⟨["api", "read"], .leaf⟩], by simp⟩
    let v : Value := .list [.scope read, .tuple [.scope write, .list [.text "api.read"]]]
    let w : Value := .tuple [.scopeSet (ofList [write]), .cursor cursor]
    ∃ a b, v.collect = .ok a ∧ w.collect = .ok b ∧ a.texts = ["api.read", "api.write"]
      ∧ b.texts = ["api.write", "api.read"] ∧ a.NormalFormOf v ∧ v.SameLeaves w ∧ a.AnswersAlike b
      ∧ ∃ e, (Value.list [v, .int 3]).collect = .error e := by
  intro read write cursor v w
  have hv : v.collect = .ok (ofList [read, write]) := rfl
  have hw : w.collect = .ok (ofList [write, read]) := rfl
  obtain ⟨-, -, hnormal, halike⟩ := collect_normal_form v
  have hleaves : v.SameLeaves w := by
    intro t
    rw [← mem_texts_iff_of_collect hv, ← mem_texts_iff_of_collect hw]
    show t ∈ ["api.read", "api.write"] ↔ t ∈ ["api.write", "api.read"]
    simp [or_comm]
  have hint : (Value.list [v, .int 3]).HasLeaf (.int 3) :=
    .part rfl (List.mem_cons_of_mem _ List.mem_cons_self) (.self rfl)
  obtain ⟨-, hrefused, -⟩ := collect_normal_form (.list [v, .int 3])
  exact ⟨_, _, hv, hw, rfl, rfl, hnormal _ hv, hleaves, halike w _ _ hv hw hleaves,
    hrefused.mpr ⟨.int 3, hint, id⟩⟩

end ScopeSet

end AccessScopes
