import AccessScopes.Scope.Basic
import AccessScopes.Sequence.Distinct
import AccessScopes.Sequence.Ordered

/-!
# `AccessScopes.ScopeSet.Basic`: ordered sets of scopes

A scope set holds every scope once, the most general first; scopes of equal rank keep the order in
which they came. So `resolve` gives a definite answer.

Two questions about coverage must not be confused. `can` asks whether some member covers some
scope of the other set. `covers` asks whether a single member covers every scope of the other set.
Authorizing by the wrong one lets in too many or too few.
-/

set_option autoImplicit false

namespace AccessScopes

/-- A duplicate-free list of scopes, ordered by rank. -/
structure ScopeSet where
  members : List Scope
  nodup : members.Nodup
  ordered : members.Pairwise (Scope.precedes · ·)

namespace ScopeSet

/-- The set of the given scopes. -/
def ofList (scopes : List Scope) : ScopeSet where
  members := sortBy Scope.precedes (distinct scopes)
  nodup := (perm_sortBy _ _).nodup_iff.mpr (nodup_distinct scopes)
  ordered := pairwise_sortBy (fun a b c => Scope.Rank.le_trans a.rank b.rank c.rank)
    (fun a b => Scope.Rank.le_total a.rank b.rank) _

/-- The set without members. -/
def empty : ScopeSet := ofList []

/-- The number of members. -/
def size (a : ScopeSet) : Nat :=
  a.members.length

/-- The texts of the members in order. -/
def texts (a : ScopeSet) : List String :=
  a.members.map Scope.text

/-- The texts with commas between them. -/
def text (a : ScopeSet) : String :=
  ", ".intercalate a.texts

/-- The members of both sets. -/
def merge (a b : ScopeSet) : ScopeSet :=
  ofList (a.members ++ b.members)

/-- Replaces segments in every member; the first member for which this fails decides the error. -/
def expand (a : ScopeSet) (table : Scope.Substitution) : Except ArgumentError ScopeSet := do
  let scopes ← a.members.mapM (·.expand table)
  return ofList scopes

/-- The first, and so most general, member that covers a scope. -/
def resolve (a : ScopeSet) (wanted : Scope) : Option Scope :=
  a.members.find? (·.covers wanted)

/-- Whether some member covers some scope of the other set. -/
def can (a b : ScopeSet) : Bool :=
  a.members.any fun s => b.members.any fun t => s.covers t

/-- Whether a single member covers every scope of the other set. -/
def covers (a b : ScopeSet) : Bool :=
  a.members.any fun s => b.members.all fun t => s.covers t

/-- Whether a scope is a member. -/
def contains (a : ScopeSet) (s : Scope) : Bool :=
  a.members.contains s

/-- Whether two sets have the same members, in whatever order. -/
def same (a b : ScopeSet) : Bool :=
  a.members.all b.contains && b.members.all a.contains

/-- Whether some member satisfies a test that may fail; members behind the first that does are not
tested. -/
def anyM {ε : Type} (a : ScopeSet) (test : Scope → Except ε Bool) : Except ε Bool :=
  a.members.anyM test

/-- Whether all members satisfy a test that may fail; members behind the first that does not are
not tested. -/
def allM {ε : Type} (a : ScopeSet) (test : Scope → Except ε Bool) : Except ε Bool :=
  a.members.allM test

/-- A scope set is nothing but the list of its members. -/
@[ext] theorem ext {a b : ScopeSet} (h : a.members = b.members) : a = b := by
  cases a; cases b; cases h; rfl

/-- A set has the scopes that it was built from and no others. Leaving out repetitions loses
none. -/
@[simp] theorem mem_members_ofList {scopes : List Scope} {s : Scope} :
    s ∈ (ofList scopes).members ↔ s ∈ scopes := by
  simp [ofList]

/-- Building a set from the members of a set changes nothing. -/
theorem ofList_members (a : ScopeSet) : ofList a.members = a := by
  apply ext
  simp only [ofList, distinct_eq_self a.nodup]
  exact sortBy_eq_self a.ordered

end ScopeSet

end AccessScopes
