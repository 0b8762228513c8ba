import AccessScopes.Proofs.Guard.Decision
import Mathlib.Data.List.Basic

/-!
# `AccessScopes.Proofs.Guard.Relevance`: grants that play no part

A grant that covers nothing that is required plays no part in a decision. It shifts the positions
of the others in the ordered set that `ScopeSet.resolve` goes through, and nothing else.

* `relevant` lists the grants that cover something required, in their order, and
  `resolve_eq_find?_relevant` says that only these are ever found.
* `missing_congr`, `hits_congr` and `permits_congr`: the missing scopes, the hits and the verdict
  depend on the relevant grants alone.
* `run_congr_of_relevant_eq`: two callers with the same relevant grants get the same verdict, and
  the records of it differ in the number of grants at most.
-/

set_option autoImplicit false

namespace AccessScopes

/-- The record with another value in the field of the given name. -/
def Audit.Record.withField (r : Audit.Record) (name : String) (value : Audit.Field) :
    Audit.Record :=
  { r with fields := r.fields.map fun f => if f.1 = name then (name, value) else f }

namespace Guard

variable {guard : Guard} {grants others : ScopeSet}

/-- The grants that cover something required, in their order. -/
def relevant (guard : Guard) (grants : ScopeSet) : List Scope :=
  grants.members.filter fun g => guard.required.members.any g.covers

/-! ### One set of grants -/

/-- A grant that covers a required scope is relevant, so leaving out the others does not change
which grant comes first. -/
theorem resolve_eq_find?_relevant {r : Scope} (hr : r ∈ guard.required.members) :
    grants.resolve r = (guard.relevant grants).find? (·.covers r) := by
  have hrelevant : ∀ g : Scope, (g.covers r = true)
      = (guard.required.members.any g.covers = true ∧ g.covers r = true) := by
    intro g
    exact propext ⟨fun h => ⟨List.any_eq_true.mpr ⟨r, hr, h⟩, h⟩, fun h => h.2⟩
  rw [ScopeSet.resolve, relevant, List.find?_filter]
  simp only [← hrelevant, Bool.decide_eq_true]

/-! ### Two sets of grants -/

/-- Callers with the same relevant grants have every required scope resolved alike. -/
theorem resolve_congr (h : guard.relevant grants = guard.relevant others) {r : Scope}
    (hr : r ∈ guard.required.members) : grants.resolve r = others.resolve r := by
  rw [resolve_eq_find?_relevant hr, resolve_eq_find?_relevant hr, h]

/-- Callers with the same relevant grants miss the same scopes. -/
theorem missing_congr (h : guard.relevant grants = guard.relevant others) :
    guard.missing grants = guard.missing others :=
  List.filter_congr fun _ hr => by rw [resolve_congr h hr]

/-- Callers with the same relevant grants have the same hits. -/
theorem hits_congr (h : guard.relevant grants = guard.relevant others) :
    guard.hits grants = guard.hits others :=
  List.filterMap_congr fun _ hr => resolve_congr h hr

/-- The verdict of mode `all` comes from the missing scopes; that of mode `any` comes from
`ScopeSet.can`, which holds where there are hits. -/
theorem permits_congr (h : guard.relevant grants = guard.relevant others) :
    guard.permits grants = guard.permits others := by
  obtain ⟨required, mode⟩ := guard
  cases mode with
  | all => rw [permits, permits, missing_congr h]
  -- `ScopeSet.can` goes through all grants, so it is put in terms of the hits first.
  | any =>
    rw [permits, permits, Bool.eq_iff_iff, can_eq_true_iff_hits_ne_nil ⟨required, .any⟩ grants,
      can_eq_true_iff_hits_ne_nil ⟨required, .any⟩ others, hits_congr h]

/-! ### Two callers -/

/-- The records of two decisions of one guard that agree in all but the number of grants. -/
theorem records_denied (config : Audit.Config) (required missing : List String) (mode : String)
    (n m : Nat) :
    config.records [.authorizationDenied required n missing mode]
      = (config.records [.authorizationDenied required m missing mode]).map
          (·.withField "granted_count" (.count n)) := by
  by_cases hwrites : config.writes .warning = true
  · simp [Audit.Config.records, Audit.Config.record, Audit.Record.withField, hwrites]
  · simp [Audit.Config.records, Audit.Config.record, hwrites]

/-- The record of a success has no number of grants. -/
theorem records_granted (config : Audit.Config) (required matched : List String) (mode : String)
    (value : Audit.Field) :
    config.records [.authorizationGranted required matched mode]
      = (config.records [.authorizationGranted required matched mode]).map
          (·.withField "granted_count" value) := by
  by_cases hwrites : config.writes .info = true
  · simp [Audit.Config.records, Audit.Config.record, Audit.Record.withField, hwrites]
  · simp [Audit.Config.records, Audit.Config.record, hwrites]

/-- Irrelevant grants have no influence. Take a guard, with an alias table or without, and two
callers whose sets of scopes, replaced by their targets if there is a table, have the same relevant
members in the same order. Then both are let in, each with the own set, or both are denied and told
the same required scopes. Whatever is written about the one, the same is written about the other,
but for the number of grants. -/
theorem run_congr_of_relevant_eq (guard : Guard) (aliases : Option AliasTable) (one other : Value)
    {grants others : ScopeSet} (hone : Guard.grants aliases one = .ok grants)
    (hother : Guard.grants aliases other = .ok others)
    (h : guard.relevant grants = guard.relevant others) :
    ((guard.run aliases one).1 = .ok (.allowed grants)
          ∧ (guard.run aliases other).1 = .ok (.allowed others)
        ∨ (guard.run aliases one).1 = .ok (.denied guard.required.texts)
          ∧ (guard.run aliases other).1 = .ok (.denied guard.required.texts))
      ∧ ∀ config : Audit.Config, config.records (guard.run aliases one).2
        = (config.records (guard.run aliases other).2).map
            (·.withField "granted_count" (.count grants.size)) := by
  have hverdict : guard.permits grants = guard.permits others := permits_congr h
  -- What is written depends on the verdict: the hits where it is yes, the missing scopes where it
  -- is no. Both are the same for the two callers.
  by_cases hpermits : guard.permits others = true
  · rw [run_of_permits hone (hverdict.trans hpermits), run_of_permits hother hpermits,
      hits_congr h]
    exact ⟨Or.inl ⟨rfl, rfl⟩, fun config => records_granted config _ _ _ _⟩
  · rw [run_of_not_permits hone (hverdict ▸ hpermits), run_of_not_permits hother hpermits,
      missing_congr h]
    exact ⟨Or.inr ⟨rfl, rfl⟩, fun config => records_denied config _ _ _ _ _⟩

/-- Where `api.a.read` and `api.b` are required, `web` and `api.c` play no part. In the ordered set
both stand before `api.*.read`, and `api.b` is missing with them and without them. -/
theorem run_congr_of_relevant_eq_denied :
    let guard : Guard := ⟨.ofList [⟨["api", "b"], by decide, by decide⟩,
      ⟨["api", "a", "read"], by decide, by decide⟩], .all⟩
    let more : Value := .list [.text "web", .text "api.*.read", .text "api.c"]
    let less : Value := .list [.text "api.*.read"]
    (guard.run none more).1 = .ok (.denied ["api.b", "api.a.read"])
      ∧ (guard.run none less).1 = .ok (.denied ["api.b", "api.a.read"])
      ∧ ∀ config : Audit.Config, config.records (guard.run none more).2
        = (config.records (guard.run none less).2).map
            (·.withField "granted_count" (.count 3)) := by
  intro guard more less
  have hmore : Guard.grants none more = .ok (.ofList [⟨["web"], by decide, by decide⟩,
    ⟨["api", "*", "read"], by decide, by decide⟩, ⟨["api", "c"], by decide, by decide⟩]) := rfl
  have hless : Guard.grants none less
    = .ok (.ofList [⟨["api", "*", "read"], by decide, by decide⟩]) := rfl
  obtain ⟨hverdict, hrecords⟩ :=
    run_congr_of_relevant_eq guard none more less hmore hless (by decide)
  rcases hverdict with ⟨hallowed, -⟩ | hdenied
  · have hdenied : (guard.run none more).1 = .ok (.denied ["api.b", "api.a.read"]) := rfl
    rw [hdenied] at hallowed
    cases hallowed
  · exact ⟨hdenied.1, hdenied.2, hrecords⟩

end Guard

end AccessScopes
