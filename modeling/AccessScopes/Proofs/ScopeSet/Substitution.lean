import AccessScopes.Proofs.Outcome
import AccessScopes.Proofs.Scope.Substitution
import AccessScopes.Proofs.ScopeSet.Queries
import AccessScopes.Value.Coercion

/-!
# `AccessScopes.Proofs.ScopeSet.Substitution`: replacing segments in a set

A set is expanded member by member, and then rid of repetitions and sorted again: different members
can become the same scope, and their ranks can change. The answers about coverage do not depend on
this. They ask for members that cover, and what covers still covers when both sides were expanded.

* `mem_expand_iff`: the members of an expanded set are the expanded members.
* `can_expand`, `covers_expand` and `exists_resolve_expand`: what a set can do, covers and resolves
  before, it does afterwards.
* `expand_keeps_coverage` has this together with what becomes of a single scope.
-/

set_option autoImplicit false

namespace AccessScopes.ScopeSet

variable {table : Scope.Substitution} {a b a' b' : ScopeSet} {s s' : Scope}

/-! ### Expanding a set -/

/-- An expanded set is built from the expanded members, all of which have to be scopes. -/
theorem expand_eq_ok_iff :
    a.expand table = .ok a'
      ↔ ∃ scopes, a.members.mapM (·.expand table) = .ok scopes ∧ .ofList scopes = a' := by
  rw [expand, bind_eq_ok_iff]
  simp only [pure, Except.pure, Except.ok.injEq]

/-- The members of an expanded set are the expanded members. -/
theorem mem_expand_iff (h : a.expand table = .ok a') :
    s' ∈ a'.members ↔ ∃ s ∈ a.members, s.expand table = .ok s' := by
  obtain ⟨scopes, hscopes, rfl⟩ := expand_eq_ok_iff.mp h
  rw [mem_members_ofList, mem_iff_of_mapM_eq_ok hscopes]

/-- A set can be expanded only if each of its members can. -/
theorem exists_expand_of_mem (h : a.expand table = .ok a') (hs : s ∈ a.members) :
    ∃ s' ∈ a'.members, s.expand table = .ok s' := by
  obtain ⟨scopes, hscopes, -⟩ := expand_eq_ok_iff.mp h
  obtain ⟨s', hs'⟩ := exists_mapM_iff.mp ⟨scopes, hscopes⟩ s hs
  exact ⟨s', (mem_expand_iff h).mpr ⟨s, hs, hs'⟩, hs'⟩

/-! ### What an expanded set answers -/

/-- What a set can do, it can do afterwards. -/
theorem can_expand (hwild : wildcard ∉ table.keys) (ha : a.expand table = .ok a')
    (hb : b.expand table = .ok b') (h : a.can b = true) : a'.can b' = true := by
  obtain ⟨s, hs, u, hu, hcovers⟩ := can_eq_true_iff.mp h
  obtain ⟨s', hs', hexpand⟩ := exists_expand_of_mem ha hs
  obtain ⟨u', hu', hexpand'⟩ := exists_expand_of_mem hb hu
  exact can_eq_true_iff.mpr ⟨s', hs', u', hu', Scope.covers_expand hwild hexpand hexpand' hcovers⟩

/-- What a set covers, it covers afterwards. -/
theorem covers_expand (hwild : wildcard ∉ table.keys) (ha : a.expand table = .ok a')
    (hb : b.expand table = .ok b') (h : a.covers b = true) : a'.covers b' = true := by
  obtain ⟨s, hs, hall⟩ := covers_eq_true_iff.mp h
  obtain ⟨s', hs', hexpand⟩ := exists_expand_of_mem ha hs
  refine covers_eq_true_iff.mpr ⟨s', hs', fun u' hu' => ?_⟩
  -- A member of the expanded set comes from a member, and `s` covers it.
  obtain ⟨u, hu, hexpand'⟩ := (mem_expand_iff hb).mp hu'
  exact Scope.covers_expand hwild hexpand hexpand' (hall u hu)

/-- A scope that a set resolves is resolved afterwards, possibly to another member. -/
theorem exists_resolve_expand {wanted wanted' : Scope} (hwild : wildcard ∉ table.keys)
    (ha : a.expand table = .ok a') (hwanted : wanted.expand table = .ok wanted')
    (h : ∃ s, a.resolve wanted = some s) : ∃ s', a'.resolve wanted' = some s' := by
  obtain ⟨s, hs, hcovers⟩ := exists_resolve_iff.mp h
  obtain ⟨s', hs', hexpand⟩ := exists_expand_of_mem ha hs
  exact exists_resolve_iff.mpr ⟨s', hs', Scope.covers_expand hwild hexpand hwanted hcovers⟩

/-- Replacing segments by a table of values keeps coverage. The table is given by values for keys,
which are taken as texts, and of entries with the same text as key the last one counts.

1. A scope can be expanded, unless the table replaces one of its segments by a text that is empty or
   has a dot. Then it is refused as an argument.
2. The expanded scope is as long as the scope, and each of its segments is what the table makes of the
   segment in this place.
3. If the table has no entry for the wildcard, then scopes that cover each other still do so when both
   were expanded. A set that can do, covers or resolves something still does so, too. -/
theorem expand_keeps_coverage (entries : List (Value × Value)) :
    let table := Value.substitution entries
    (∀ a : Scope,
        ((∃ b, a.expand table = .ok b)
          ↔ ∀ s ∈ a.segments, ∀ r, table.Replaces s r → r ≠ "" ∧ separator ∉ r.toList)
        ∧ ((∃ e, a.expand table = .error e)
          ↔ ∃ s ∈ a.segments, ∃ r, table.Replaces s r ∧ (r = "" ∨ separator ∈ r.toList)))
      ∧ (∀ a b : Scope, a.expand table = .ok b →
          b.length = a.length ∧ List.Forall₂ table.Becomes a.segments b.segments)
      ∧ (wildcard ∉ table.keys →
          (∀ a b a' b' : Scope, a.expand table = .ok a' → b.expand table = .ok b' →
              a.covers b = true → a'.covers b' = true)
            ∧ (∀ a b a' b' : ScopeSet, a.expand table = .ok a' → b.expand table = .ok b' →
              (a.can b = true → a'.can b' = true) ∧ (a.covers b = true → a'.covers b' = true))
            ∧ ∀ (a a' : ScopeSet) (wanted wanted' : Scope), a.expand table = .ok a' →
              wanted.expand table = .ok wanted' → (∃ s, a.resolve wanted = some s) →
                ∃ s', a'.resolve wanted' = some s') := by
  intro table
  refine ⟨fun a => ⟨Scope.exists_expand_iff, ?_⟩, ?_, fun hwild => ⟨?_, ?_, ?_⟩⟩
  · rw [exists_error_iff, Scope.exists_expand_iff]
    simp only [IsSegment, Classical.not_forall, exists_prop, not_and_or, Classical.not_not, ne_eq]
  · intro a b h
    have hsegments := Scope.forall₂_becomes_of_expand h
    exact ⟨hsegments.length_eq.symm, hsegments⟩
  · exact fun a b a' b' => Scope.covers_expand hwild
  · intro a b a' b' ha hb
    exact ⟨can_expand hwild ha hb, covers_expand hwild ha hb⟩
  · exact fun a a' wanted wanted' => exists_resolve_expand hwild

/-- The number `1` and the text `1` are one key, and the later entry replaces it by a wildcard; so two
members become one, and the set now resolves more than before. The replacement of `bad` has a dot. -/
theorem expand_keeps_coverage_later :
    let entries : List (Value × Value) := [(.int 1, .text "x"), (.text "own", .int 7),
      (.text "1", .text "*"), (.text "any", .text "*"), (.text "bad", .text "a.b")]
    let table := Value.substitution entries
    let first : Scope := ⟨["shops", "1"], by decide, by decide⟩
    let any : Scope := ⟨["shops", "any"], by decide, by decide⟩
    let own : Scope := ⟨["shops", "1", "own"], by decide, by decide⟩
    let all : Scope := ⟨["shops", "*"], by decide, by decide⟩
    let seven : Scope := ⟨["shops", "*", "7"], by decide, by decide⟩
    let bad : Scope := ⟨["shops", "bad"], by decide, by decide⟩
    wildcard ∉ table.keys
      ∧ own.expand table = .ok seven ∧ List.Forall₂ table.Becomes own.segments seven.segments
      ∧ (ofList [first, any]).expand table = .ok (ofList [all])
      ∧ (ofList [own]).expand table = .ok (ofList [seven])
      ∧ (ofList [first, any]).can (ofList [own]) = true ∧ (ofList [all]).can (ofList [seven]) = true
      ∧ ∃ e, bad.expand table = .error e := by
  intro entries table first any own all seven bad
  have hwild : wildcard ∉ table.keys := by decide
  have hown : own.expand table = .ok seven := Scope.expand_eq_ok_iff.mpr (by decide)
  have hfirst : first.expand table = .ok all := Scope.expand_eq_ok_iff.mpr (by decide)
  have hany : any.expand table = .ok all := Scope.expand_eq_ok_iff.mpr (by decide)
  have hset : (ofList [first, any]).expand table = .ok (ofList [all]) := by
    refine expand_eq_ok_iff.mpr ⟨[all, all], mapM_eq_ok_iff.mpr ?_, rfl⟩
    show [first.expand table, any.expand table] = [.ok all, .ok all]
    rw [hfirst, hany]
  have hset' : (ofList [own]).expand table = .ok (ofList [seven]) := by
    refine expand_eq_ok_iff.mpr ⟨[seven], mapM_eq_ok_iff.mpr ?_, rfl⟩
    show [own.expand table] = [.ok seven]
    rw [hown]
  have hcan : (ofList [first, any]).can (ofList [own]) = true := rfl
  obtain ⟨hexpands, hsegments, hkeeps⟩ := expand_keeps_coverage entries
  obtain ⟨-, hsets, -⟩ := hkeeps hwild
  have hbad : table.Replaces "bad" "a.b" :=
    ⟨Value.substitution [(.int 1, .text "x"), (.text "own", .int 7), (.text "1", .text "*"),
      (.text "any", .text "*")], [], rfl, by decide⟩
  exact ⟨hwild, hown, (hsegments own seven hown).2, hset, hset', hcan,
    (hsets _ _ _ _ hset hset').1 hcan,
    (hexpands bad).2.mpr ⟨"bad", by decide, "a.b", hbad, Or.inr (by decide)⟩⟩

end AccessScopes.ScopeSet
