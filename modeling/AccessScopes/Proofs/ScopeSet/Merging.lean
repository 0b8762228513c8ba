import AccessScopes.Proofs.ScopeSet.Resolution
import AccessScopes.Proofs.Sequence.Concatenation

/-!
# `AccessScopes.Proofs.ScopeSet.Merging`: the union of scope sets

Two sets are merged by building a set from the members of the one and then those of the other. This
is a union, and the order of the members takes part in it: scopes of equal rank stand in the order
in which the merged sets came.

* `ofList_members_append` and `ofList_append_members`: building a set from a part of the input first
  makes no difference. This gives associativity (`merge_assoc`) with the order of the members.
* `merge_empty`, `empty_merge` and `merge_self`: merging nothing new changes nothing.
* `mem_members_merge`: the members are those of both sets, so the order of the merged sets matters
  for the order of the members alone (`same_merge_comm`).
* `merge_laws` has the laws together with what a merged set resolves and can do.
-/

set_option autoImplicit false

namespace AccessScopes.ScopeSet

variable {a b : ScopeSet}

/-! ### Building a set step by step -/

/-- A set may be built from the first part of an input before the rest is added. -/
theorem ofList_members_append (xs ys : List Scope) :
    ofList ((ofList xs).members ++ ys) = ofList (xs ++ ys) := by
  apply ext
  -- The first part holds no repetitions, so these are only looked for in the rest.
  have hfirst : distinct ((ofList xs).members ++ ys)
      = sortBy Scope.precedes (distinct xs) ++ (distinct ys).filter fun y => y ∉ xs := by
    rw [distinct_append, distinct_eq_self (ofList xs).nodup]
    simp only [mem_members_ofList]
    rfl
  show sortBy Scope.precedes (distinct ((ofList xs).members ++ ys))
    = sortBy Scope.precedes (distinct (xs ++ ys))
  rw [hfirst, sortBy_sortBy_append precedes_trans precedes_total, distinct_append]

/-- A set may be built from the last part of an input before the rest is put in front. -/
theorem ofList_append_members (xs ys : List Scope) :
    ofList (xs ++ (ofList ys).members) = ofList (xs ++ ys) := by
  apply ext
  -- What is left of the last part is in order, as all of it was.
  have hlast : distinct (xs ++ (ofList ys).members)
      = distinct xs ++ sortBy Scope.precedes ((distinct ys).filter fun y => y ∉ xs) := by
    rw [distinct_append, distinct_eq_self (ofList ys).nodup,
      ← filter_sortBy precedes_trans precedes_total]
    rfl
  show sortBy Scope.precedes (distinct (xs ++ (ofList ys).members))
    = sortBy Scope.precedes (distinct (xs ++ ys))
  rw [hlast, sortBy_append_sortBy precedes_trans precedes_total, distinct_append]

/-! ### The laws of merging -/

/-- Both ways to bracket build the set from the members of all three, in their order. -/
theorem merge_assoc (a b c : ScopeSet) : (a.merge b).merge c = a.merge (b.merge c) :=
  calc ofList ((ofList (a.members ++ b.members)).members ++ c.members)
    _ = ofList (a.members ++ b.members ++ c.members) := ofList_members_append _ _
    _ = ofList (a.members ++ (b.members ++ c.members)) := by rw [List.append_assoc]
    _ = ofList (a.members ++ (ofList (b.members ++ c.members)).members) :=
      (ofList_append_members _ _).symm

/-- Merging with the empty set changes nothing. -/
theorem merge_empty (a : ScopeSet) : a.merge empty = a := by
  show ofList (a.members ++ []) = a
  rw [List.append_nil, ofList_members]

/-- Merging the empty set with a set gives the set. -/
theorem empty_merge (a : ScopeSet) : empty.merge a = a :=
  a.ofList_members

/-- Merging a set with itself changes nothing. -/
theorem merge_self (a : ScopeSet) : a.merge a = a := by
  have hnone : a.members.filter (fun s => s ∉ a.members) = [] := by
    rw [List.filter_eq_nil_iff]
    intro s hs
    simpa using hs
  apply ext
  show sortBy Scope.precedes (distinct (a.members ++ a.members)) = a.members
  rw [distinct_append, distinct_eq_self a.nodup, hnone, List.append_nil,
    sortBy_eq_self a.ordered]

/-- The members of a merged set are those of both sets. -/
@[simp] theorem mem_members_merge {s : Scope} :
    s ∈ (a.merge b).members ↔ s ∈ a.members ∨ s ∈ b.members := by
  rw [merge, mem_members_ofList, List.mem_append]

/-- The order of the merged sets makes no difference for what the members are. -/
theorem same_merge_comm (a b : ScopeSet) : (a.merge b).same (b.merge a) = true := by
  rw [same_eq_true_iff]
  intro s
  simp only [mem_members_merge, or_comm]

/-! ### What a merged set answers -/

/-- A merged set resolves what one of both sets resolves. -/
theorem exists_resolve_merge_iff {wanted : Scope} :
    (∃ s, (a.merge b).resolve wanted = some s)
      ↔ (∃ s, a.resolve wanted = some s) ∨ ∃ s, b.resolve wanted = some s := by
  simp only [exists_resolve_iff, mem_members_merge, or_and_right, exists_or]

/-- A merged set can do what one of both sets can do. -/
theorem can_merge_iff {r : ScopeSet} :
    (a.merge b).can r = true ↔ a.can r = true ∨ b.can r = true := by
  simp only [can_eq_true_iff, mem_members_merge, or_and_right, exists_or]

/-- The laws of merging. Sets are equal if they have the same members in the same order.

1. Merging is associative, the empty set makes no difference on either side, and neither does
   merging a set with itself.
2. The other way around, merging gives the same members.
3. The merged set resolves a scope exactly if one of the two does, and it can do what one of the two
   can. -/
theorem merge_laws (a b c : ScopeSet) :
    (a.merge b).merge c = a.merge (b.merge c)
      ∧ a.merge empty = a ∧ empty.merge a = a ∧ a.merge a = a
      ∧ (a.merge b).same (b.merge a) = true
      ∧ (∀ wanted, (∃ s, (a.merge b).resolve wanted = some s)
          ↔ (∃ s, a.resolve wanted = some s) ∨ ∃ s, b.resolve wanted = some s)
      ∧ ∀ r, (a.merge b).can r = true ↔ a.can r = true ∨ b.can r = true :=
  ⟨merge_assoc a b c, merge_empty a, empty_merge a, merge_self a, same_merge_comm a b,
    fun _ => exists_resolve_merge_iff, fun _ => can_merge_iff⟩

/-- The two scopes have equal rank, so they stand in the order in which the sets are merged. -/
example :
    let read : ScopeSet := ofList [⟨["api", "read"], by decide, by decide⟩]
    let write : ScopeSet := ofList [⟨["api", "write"], by decide, by decide⟩]
    (read.merge write).texts = ["api.read", "api.write"]
      ∧ (write.merge read).texts = ["api.write", "api.read"] := by
  exact ⟨rfl, rfl⟩

end AccessScopes.ScopeSet
