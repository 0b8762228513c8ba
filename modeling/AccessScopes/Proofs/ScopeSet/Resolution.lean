import AccessScopes.Proofs.Outcome
import AccessScopes.Proofs.Scope.Rank
import AccessScopes.Proofs.ScopeSet.Queries
import AccessScopes.Proofs.Sequence.Stability
import AccessScopes.Value.Coercion

/-!
# `AccessScopes.Proofs.ScopeSet.Resolution`: which member `resolve` finds

`ScopeSet.resolve` takes the first member that covers a scope. The members are sorted by rank and
each of them is there once, and both keep the order of the input as far as they can. So the first
member that covers the scope is the first of the most general ones in the input.

* `pairwise_not_before` and `pairwise_not_covers`: no member stands before an earlier one by rank, and
  so none covers an earlier one.
* `resolve_ofList_eq_some_iff`: the answer is found in the input, among the scopes that cover.
* `MostGeneral` says the same in terms of ranks and of positions in the input.
* `resolve_most_general`: the answer is the most general one by rank, and as the order by rank
  extends coverage, no member covers it but itself.
-/

set_option autoImplicit false

namespace AccessScopes.ScopeSet

variable {scopes : List Scope} {wanted s : Scope}

/-- Whether `s` is the first of the most general scopes of the input that cover a scope:

- `covers`: it covers the scope;
- `least`: no other scope that does so stands before it by rank;
- `first`: those in front of it in the input that do so stand behind it by rank. -/
structure MostGeneral (input : List Scope) (wanted s : Scope) : Prop where
  covers : s.covers wanted = true
  least : ∀ t ∈ input, t.covers wanted = true → ¬ t.rank.Before s.rank
  first : ∃ front back, input = front ++ s :: back
    ∧ ∀ t ∈ front, t.covers wanted = true → s.rank.Before t.rank

/-! ### The order of the members -/

/-- The order of scopes by rank is transitive. -/
theorem precedes_trans (a b c : Scope) (hab : a.precedes b = true) (hbc : b.precedes c = true) :
    a.precedes c = true :=
  Scope.Rank.le_trans _ _ _ hab hbc

/-- Any two scopes can be ordered by rank. -/
theorem precedes_total (a b : Scope) : a.precedes b = true ∨ b.precedes a = true :=
  Scope.Rank.le_total _ _

/-- No member stands before an earlier one by rank. -/
theorem pairwise_not_before (a : ScopeSet) :
    a.members.Pairwise fun earlier later => ¬ later.rank.Before earlier.rank := by
  refine a.ordered.imp ?_
  intro earlier later hle hbefore
  exact Scope.not_precedes_iff.mpr hbefore hle

/-- A later member that covered an earlier one would stand before it. -/
theorem pairwise_not_covers (a : ScopeSet) :
    a.members.Pairwise fun earlier later => ¬ later.covers earlier = true := by
  refine (a.nodup.and a.pairwise_not_before).imp ?_
  intro earlier later ⟨hne, hbefore⟩ hcovers
  exact hbefore (Scope.rank_before_of_covers hcovers (Ne.symm hne))

/-! ### What is found -/

/-- Neither the sorting nor the repetitions matter: what is found is the first least scope of the
input, among those that cover. -/
theorem resolve_ofList_eq_some_iff :
    (ofList scopes).resolve wanted = some s
      ↔ FirstLeast Scope.precedes (scopes.filter (·.covers wanted)) s := by
  rw [resolve, ← List.head?_filter]
  show ((sortBy Scope.precedes (distinct scopes)).filter (·.covers wanted)).head? = some s ↔ _
  rw [filter_sortBy precedes_trans precedes_total, filter_distinct,
    head?_sortBy_eq_some_iff precedes_trans precedes_total, firstLeast_distinct_iff precedes_total]

/-- The answer is one of the most general scopes of the input that cover the scope, and of these the
first. -/
theorem mostGeneral_of_resolve (h : (ofList scopes).resolve wanted = some s) :
    MostGeneral scopes wanted s := by
  have hfirst : FirstLeast Scope.precedes (scopes.filter (·.covers wanted)) s :=
    resolve_ofList_eq_some_iff.mp h
  refine ⟨covers_of_resolve h, ?_, ?_⟩
  · intro t ht hcovers hbefore
    have hle : s.precedes t = true :=
      hfirst.least precedes_total t (List.mem_filter.mpr ⟨ht, hcovers⟩)
    exact Scope.not_precedes_iff.mpr hbefore hle
  · obtain ⟨front, back, hsplit, hgreater⟩ := hfirst.exists_split
    -- The split of the scopes that cover comes from a split of the input.
    obtain ⟨front', back', rfl, hfront, hback⟩ := List.filter_eq_append_iff.mp hsplit
    obtain ⟨skipped, rest, rfl, hskipped, -, -⟩ := List.filter_eq_cons_iff.mp hback
    refine ⟨front' ++ skipped, rest, by rw [List.append_assoc], ?_⟩
    intro t ht hcovers
    rcases List.mem_append.mp ht with ht | ht
    · refine Scope.not_precedes_iff.mp (hgreater t ?_)
      rw [← hfront]
      exact List.mem_filter.mpr ⟨ht, hcovers⟩
    · exact absurd hcovers (hskipped t ht)

/-- No member that covers the wanted scope stands before the one that is found. -/
theorem not_before_of_resolve {a : ScopeSet} (h : a.resolve wanted = some s) {t : Scope}
    (ht : t ∈ a.members) (hcovers : t.covers wanted = true) : ¬ t.rank.Before s.rank := by
  rw [← a.ofList_members] at h
  exact (mostGeneral_of_resolve h).least t ht hcovers

/-- Only itself covers the member that is found: any other member that did so would cover the
wanted scope too, and stand before it. -/
theorem eq_of_covers_resolved (h : (ofList scopes).resolve wanted = some s) {t : Scope}
    (ht : t ∈ (ofList scopes).members) (hcovers : t.covers s = true) : t = s := by
  by_contra hne
  have hgeneral : MostGeneral scopes wanted s := mostGeneral_of_resolve h
  have hwanted : t.covers wanted = true := Scope.covers_trans hcovers hgeneral.covers
  exact hgeneral.least t (mem_members_ofList.mp ht) hwanted
    (Scope.rank_before_of_covers hcovers hne)

/-- `resolve` finds the most general member. Take any value that means scopes, which are found in it
in the order `input`.

1. A set can be built from the value, and `resolve` finds nothing in it exactly if no member covers
   the wanted scope.
2. What it finds is a member, and the first of the most general scopes of the input that cover. No
   other member covers what it finds.
3. This is so because the order by rank extends coverage. -/
theorem resolve_most_general (v : Value) {input : List Scope} (hinput : v.scopes = .ok input) :
    ∃ a : ScopeSet, v.collect = .ok a
      ∧ (∀ wanted, a.resolve wanted = none ↔ ∀ s ∈ a.members, ¬ s.covers wanted = true)
      ∧ (∀ wanted s, a.resolve wanted = some s → s ∈ a.members ∧ MostGeneral input wanted s
          ∧ ∀ t ∈ a.members, t.covers s = true → t = s)
      ∧ ∀ s t : Scope, s.covers t = true → s ≠ t → s.rank.Before t.rank := by
  have hset : v.collect = .ok (ofList input) := by
    rw [Value.collect, hinput]
    rfl
  refine ⟨ofList input, hset, fun wanted => resolve_eq_none_iff, ?_,
    fun s t => Scope.rank_before_of_covers⟩
  intro wanted s h
  exact ⟨mem_of_resolve h, mostGeneral_of_resolve h, fun t ht => eq_of_covers_resolved h ht⟩

/-- In the input `api.read, *.read, api.*, api.*` all cover `api.read`. The last two have a wildcard
each, so they stand before `api.read` itself, and of the two `*.read` came first. -/
theorem resolve_most_general_tie :
    let read : Scope := ⟨["api", "read"], by decide, by decide⟩
    let anyRead : Scope := ⟨["*", "read"], by decide, by decide⟩
    let apiAny : Scope := ⟨["api", "*"], by decide, by decide⟩
    let input : List Scope := [read, anyRead, apiAny, apiAny]
    ∃ a : ScopeSet, (Value.list [.text "api.read", .text "*.read", .scope apiAny,
        .list [.text "api.*"]]).collect = .ok a
      ∧ a.resolve read = some anyRead ∧ MostGeneral input read anyRead
      ∧ ∀ t ∈ a.members, t.covers anyRead = true → t = anyRead := by
  intro read anyRead apiAny input
  let v : Value :=
    .list [.text "api.read", .text "*.read", .scope apiAny, .list [.text "api.*"]]
  obtain ⟨a, ha, -, hfound, -⟩ := @resolve_most_general v input rfl
  have hset : v.collect = .ok (ofList input) := rfl
  obtain rfl : ofList input = a := Except.ok.inj (hset.symm.trans ha)
  have hresolve : (ofList input).resolve read = some anyRead := rfl
  obtain ⟨-, hgeneral, honly⟩ := hfound read anyRead hresolve
  exact ⟨ofList input, ha, hresolve, hgeneral, honly⟩

end AccessScopes.ScopeSet
