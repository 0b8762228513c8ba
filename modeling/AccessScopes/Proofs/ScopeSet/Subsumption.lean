import AccessScopes.Proofs.ScopeSet.Resolution
import AccessScopes.Proofs.Value.Leaves

/-!
# `AccessScopes.Proofs.ScopeSet.Subsumption`: grants that add nothing

A scope that another member of a set covers adds nothing to what the set grants. It does take a
place among the members, and `ScopeSet.resolve` goes through them in order. But the member that
covers it stands before it and covers all that it covers, so the scope is never found.

* `Subsumes` says when a set has another member that covers a scope.
* `resolve_ofList_skip`: wherever subsumed scopes stand in the input, the answers of `resolve` are
  the same with them and without them.
* `CoversEach` compares two sets member by member, and what the one can do or covers passes on to the
  other (`CoversEach.can`, `CoversEach.covers`).
* `subsumed_invisible`: a value with subsumed scopes may be put anywhere into a list of values, and
  nobody who asks the set about coverage will notice.
-/

set_option autoImplicit false

namespace AccessScopes.ScopeSet

variable {a b : ScopeSet}

/-- Whether a member other than the scope itself covers a scope. -/
def Subsumes (a : ScopeSet) (s : Scope) : Prop :=
  ∃ g ∈ a.members, g.covers s = true ∧ g ≠ s

/-! ### With subsumed scopes and without them -/

/-- What covers a subsumed scope stands before it, and covers what it covers. So among the scopes
that cover the wanted one, the subsumed ones are never first. -/
theorem resolve_ofList_skip {front skipped back : List Scope}
    (h : ∀ s ∈ skipped, (ofList (front ++ back)).Subsumes s) (wanted : Scope) :
    (ofList (front ++ skipped ++ back)).resolve wanted
      = (ofList (front ++ back)).resolve wanted := by
  refine Option.ext fun found => ?_
  rw [resolve_ofList_eq_some_iff, resolve_ofList_eq_some_iff, List.filter_append,
    List.filter_append, List.filter_append]
  apply firstLeast_skip_iff precedes_trans precedes_total
  intro s hs
  obtain ⟨hskipped, hwanted⟩ := List.mem_filter.mp hs
  obtain ⟨g, hg, hcovers, hne⟩ := h s hskipped
  have hcovers' : g.covers wanted = true := Scope.covers_trans hcovers hwanted
  have hbefore : ¬ s.precedes g = true :=
    Scope.not_precedes_iff.mpr (Scope.rank_before_of_covers hcovers hne)
  refine ⟨g, ?_, hbefore⟩
  rw [← List.filter_append]
  exact List.mem_filter.mpr ⟨mem_members_ofList.mp hg, hcovers'⟩

/-! ### Sets that cover each other member by member -/

/-- Whether each member of the second set is covered by some member of the first. -/
def CoversEach (a b : ScopeSet) : Prop :=
  ∀ s ∈ b.members, ∃ g ∈ a.members, g.covers s = true

/-- What a set can do, every set can do that covers its members one by one. -/
theorem CoversEach.can (h : a.CoversEach b) {r : ScopeSet} (hcan : b.can r = true) :
    a.can r = true := by
  obtain ⟨s, hs, t, ht, hst⟩ := can_eq_true_iff.mp hcan
  obtain ⟨g, hg, hgs⟩ := h s hs
  exact can_eq_true_iff.mpr ⟨g, hg, t, ht, Scope.covers_trans hgs hst⟩

/-- What a set covers, every set covers that covers its members one by one. -/
theorem CoversEach.covers (h : a.CoversEach b) {r : ScopeSet} (hcovers : b.covers r = true) :
    a.covers r = true := by
  obtain ⟨s, hs, hall⟩ := covers_eq_true_iff.mp hcovers
  obtain ⟨g, hg, hgs⟩ := h s hs
  exact covers_eq_true_iff.mpr ⟨g, hg, fun t ht => Scope.covers_trans hgs (hall t ht)⟩

/-- Putting scopes into an input loses nothing. -/
theorem coversEach_of_skipped (front skipped back : List Scope) :
    (ofList (front ++ skipped ++ back)).CoversEach (ofList (front ++ back)) := by
  intro s hs
  refine ⟨s, ?_, Scope.covers_refl s⟩
  rw [mem_members_ofList, List.mem_append] at hs ⊢
  exact hs.imp_left (List.mem_append_left skipped)

/-- Putting subsumed scopes into an input gains nothing. -/
theorem coversEach_skipped {front skipped back : List Scope}
    (h : ∀ s ∈ skipped, (ofList (front ++ back)).Subsumes s) :
    (ofList (front ++ back)).CoversEach (ofList (front ++ skipped ++ back)) := by
  intro s hs
  rw [mem_members_ofList, List.mem_append, List.mem_append] at hs
  rcases hs with (hfront | hskipped) | hback
  · exact ⟨s, mem_members_ofList.mpr (List.mem_append_left back hfront), Scope.covers_refl s⟩
  · obtain ⟨g, hg, hcovers, -⟩ := h s hskipped
    exact ⟨g, hg, hcovers⟩
  · exact ⟨s, mem_members_ofList.mpr (List.mem_append_right front hback), Scope.covers_refl s⟩

/-! ### Subsumed grants -/

/-- Subsumed grants are invisible. Take a list of values that means a set `a`, and a further value
all of whose scopes `a` subsumes: a single such scope, for example, or a text that writes it. Put
the value anywhere into the list. Then a set can be built from the list, and it resolves every scope
to the same member as `a`. It can do, and it covers, what `a` does. -/
theorem subsumed_invisible (front back : List Value) (v : Value) {a : ScopeSet}
    {added : List Scope} (ha : (Value.list (front ++ back)).collect = .ok a)
    (hadded : v.scopes = .ok added) (hsubsumed : ∀ s ∈ added, a.Subsumes s) :
    ∃ b, (Value.list (front ++ v :: back)).collect = .ok b
      ∧ (∀ wanted, b.resolve wanted = a.resolve wanted)
      ∧ (∀ r, b.can r = a.can r) ∧ ∀ r, b.covers r = a.covers r := by
  obtain ⟨found, hfound, rfl⟩ := map_eq_ok_iff.mp ha
  obtain ⟨before, behind, hbefore, hbehind, rfl⟩ :=
    Value.itemScopes_append_eq_ok_iff.mp hfound
  have hrest : Value.itemScopes (v :: back) = .ok (added ++ behind) := by
    rw [Value.itemScopes, hadded, hbehind]
    rfl
  have hall : Value.itemScopes (front ++ v :: back) = .ok (before ++ added ++ behind) :=
    Value.itemScopes_append_eq_ok_iff.mpr
      ⟨before, added ++ behind, hbefore, hrest, (List.append_assoc _ _ _).symm⟩
  -- Each of the two sets covers the other one member by member.
  have hforth := coversEach_of_skipped before added behind
  have hback := coversEach_skipped hsubsumed
  refine ⟨ofList (before ++ added ++ behind), map_eq_ok_iff.mpr ⟨_, hall, rfl⟩,
    resolve_ofList_skip hsubsumed, fun r => ?_, fun r => ?_⟩
  · exact Bool.eq_iff_iff.mpr ⟨hback.can, hforth.can⟩
  · exact Bool.eq_iff_iff.mpr ⟨hback.covers, hforth.covers⟩

/-- Between `*.read` and `api.*.x`, which mean a set that resolves `api.read` to `*.read`, there is
put a tuple of `api.read` and `api.read.x`. The set covers both by `*.read`. -/
theorem subsumed_invisible_read :
    let anyRead : Scope := ⟨["*", "read"], by decide, by decide⟩
    let anyX : Scope := ⟨["api", "*", "x"], by decide, by decide⟩
    let read : Scope := ⟨["api", "read"], by decide, by decide⟩
    let readX : Scope := ⟨["api", "read", "x"], by decide, by decide⟩
    let a : ScopeSet := ofList [anyRead, anyX]
    let v : Value := .tuple [.text "api.read", .scope readX]
    v.scopes = .ok [read, readX] ∧ (∀ s ∈ [read, readX], a.Subsumes s)
      ∧ ∃ b, (Value.list [.text "*.read", v, .text "api.*.x"]).collect = .ok b
        ∧ b.size = 4 ∧ b.resolve read = some anyRead ∧ ∀ r, b.covers r = a.covers r := by
  intro anyRead anyX read readX a v
  have hscopes : v.scopes = .ok [read, readX] := rfl
  have hsubsumed : ∀ s ∈ [read, readX], a.Subsumes s := by
    intro s hs
    refine ⟨anyRead, by decide, ?_⟩
    revert s
    decide
  obtain ⟨b, hb, hresolve, -, hcovers⟩ := subsumed_invisible [.text "*.read"] [.text "api.*.x"] v
    (a := a) rfl hscopes hsubsumed
  have hsize : b.size = 4 := by
    obtain rfl : ofList [anyRead, read, readX, anyX] = b := Except.ok.inj hb
    rfl
  exact ⟨hscopes, hsubsumed, b, hb, hsize, hresolve read, hcovers⟩

end AccessScopes.ScopeSet
