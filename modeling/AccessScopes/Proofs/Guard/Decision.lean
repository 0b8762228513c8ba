import AccessScopes.Proofs.ScopeSet.Queries
import AccessScopes.Value.Coercion

/-!
# `AccessScopes.Proofs.Guard.Decision`: what a guard decides and records

A guard finds its verdict in one way and the names for its record in another. In mode `all` the
verdict comes from the list of missing scopes, in mode `any` from `ScopeSet.can`. The names come
from resolving every required scope. All of them have to describe the same relation:

* `Suffices` says, in terms of coverage alone, which grants are enough, and `permits_iff_suffices`
  that the guard permits exactly these.
* `missing_eq_filter` gives the missing scopes, and `namesMatches_hits` says what the hits of a
  permitted caller name.
* `run_decides` is the whole decision: the answer and the one record of it.
-/

set_option autoImplicit false

namespace AccessScopes.Guard

/-- Whether the grants are enough: for mode `all` if each required scope is covered by some grant,
for mode `any` if one required scope is. -/
def Suffices : GuardMode → (required grants : ScopeSet) → Prop
  | .all, required, grants => ∀ r ∈ required.members, ∃ g ∈ grants.members, g.covers r = true
  | .any, required, grants => ∃ g ∈ grants.members, ∃ r ∈ required.members, g.covers r = true

/-- What the record of a success has to name: grants that cover something required, each once, and
for each required scope that is covered a grant that covers it. -/
structure NamesMatches (mode : GuardMode) (required grants : ScopeSet) (matched : List String) :
    Prop where
  nodup : matched.Nodup
  covers : ∀ name ∈ matched, ∃ g ∈ grants.members, g.text = name
    ∧ ∃ r ∈ required.members, g.covers r = true
  complete : ∀ r ∈ required.members, (∃ g ∈ grants.members, g.covers r = true) →
    ∃ g ∈ grants.members, g.text ∈ matched ∧ g.covers r = true
  nonempty : mode = .any → matched ≠ []

/-- The required scopes that no grant covers, in the order of the required scopes. -/
def uncovered (required grants : ScopeSet) : List Scope :=
  required.members.filter fun r => decide (∀ g ∈ grants.members, ¬ g.covers r = true)

/-- The record of a success. -/
def successRecord (config : Audit.Config) (mode : GuardMode) (required : ScopeSet)
    (matched : List String) : Audit.Record :=
  ⟨"authz.success", .info, .benign,
    [("required_scopes", .texts required.texts), ("matched_scopes", .texts matched),
      ("mode", config.text mode.name)]⟩

/-- The record of a denial. Of the grants it tells only how many there are. -/
def denialRecord (config : Audit.Config) (mode : GuardMode) (required grants : ScopeSet) :
    Audit.Record :=
  ⟨"authz.failure", .warning, .escalation,
    [("required_scopes", .texts required.texts), ("granted_count", .count grants.size),
      ("missing_scopes", .texts ((uncovered required grants).map Scope.text)),
      ("mode", config.text mode.name)]⟩

variable {guard : Guard} {grants : ScopeSet}

/-! ### The three loops -/

/-- The missing scopes are the required ones that no grant covers, in their order. -/
theorem missing_eq_filter (guard : Guard) (grants : ScopeSet) :
    guard.missing grants = uncovered guard.required grants := by
  apply List.filter_congr
  intro r _
  rw [Bool.eq_iff_iff, Option.isNone_iff_eq_none, ScopeSet.resolve_eq_none_iff, decide_eq_true_iff]

/-- Nothing is missing exactly if some grant covers each required scope. -/
theorem missing_eq_nil_iff :
    guard.missing grants = []
      ↔ ∀ r ∈ guard.required.members, ∃ g ∈ grants.members, g.covers r = true := by
  rw [missing_eq_filter, uncovered, List.filter_eq_nil_iff]
  simp only [decide_eq_true_eq, Classical.not_forall, Classical.not_not, exists_prop]

/-- A hit is a grant that some required scope resolves to. -/
theorem mem_hits_iff {g : Scope} :
    g ∈ guard.hits grants ↔ ∃ r ∈ guard.required.members, grants.resolve r = some g := by
  rw [hits, List.mem_filterMap]

/-- The question about coverage and the list of hits agree. -/
theorem can_eq_true_iff_hits_ne_nil (guard : Guard) (grants : ScopeSet) :
    grants.can guard.required = true ↔ guard.hits grants ≠ [] := by
  rw [ScopeSet.can_eq_true_iff_exists_resolve]
  constructor
  · rintro ⟨r, hr, g, hresolve⟩
    exact List.ne_nil_of_mem (mem_hits_iff.mpr ⟨r, hr, hresolve⟩)
  · intro hne
    obtain ⟨g, hg⟩ := List.exists_mem_of_ne_nil _ hne
    obtain ⟨r, hr, hresolve⟩ := mem_hits_iff.mp hg
    exact ⟨r, hr, g, hresolve⟩

/-- The guard permits exactly the grants that suffice by coverage. -/
theorem permits_iff_suffices (guard : Guard) (grants : ScopeSet) :
    guard.permits grants = true ↔ Suffices guard.mode guard.required grants := by
  obtain ⟨required, mode⟩ := guard
  cases mode with
  | all => rw [permits, List.isEmpty_iff, missing_eq_nil_iff, Suffices]
  | any => rw [permits, ScopeSet.can_eq_true_iff, Suffices]

/-- The names of the hits are what a success has to name. Only the last point needs that the
caller is permitted. -/
theorem namesMatches_hits (h : guard.permits grants = true) :
    NamesMatches guard.mode guard.required grants
      (distinct ((guard.hits grants).map Scope.text)) where
  nodup := nodup_distinct _
  covers := by
    intro name hname
    obtain ⟨g, hg, rfl⟩ := List.mem_map.mp (mem_distinct.mp hname)
    obtain ⟨r, hr, hresolve⟩ := mem_hits_iff.mp hg
    exact ⟨g, ScopeSet.mem_of_resolve hresolve, rfl, r, hr, ScopeSet.covers_of_resolve hresolve⟩
  complete := by
    intro r hr hcovered
    obtain ⟨g, hresolve⟩ := ScopeSet.exists_resolve_of_covers hcovered
    refine ⟨g, ScopeSet.mem_of_resolve hresolve, ?_, ScopeSet.covers_of_resolve hresolve⟩
    exact mem_distinct.mpr (List.mem_map_of_mem (mem_hits_iff.mpr ⟨r, hr, hresolve⟩))
  nonempty := by
    intro hmode hnil
    -- In this mode the verdict comes from `can`, which needs a hit.
    have hcan : grants.can guard.required = true := by
      rwa [permits, hmode] at h
    have hne : guard.hits grants ≠ [] := (can_eq_true_iff_hits_ne_nil guard grants).mp hcan
    obtain ⟨g, hg⟩ := List.exists_mem_of_ne_nil _ hne
    have hname : g.text ∈ distinct ((guard.hits grants).map Scope.text) :=
      mem_distinct.mpr (List.mem_map_of_mem hg)
    rw [hnil] at hname
    exact absurd hname List.not_mem_nil

/-! ### The decision -/

/-- A guard is built from any values that mean a scope set. -/
theorem ofValues_eq_ok {required : List Value} {mode : GuardMode} {scopes : ScopeSet}
    (h : (Value.tuple required).collect = .ok scopes) :
    Guard.ofValues required mode = .ok ⟨scopes, mode⟩ := by
  rw [Guard.ofValues, h]
  rfl

/-- A guard that permits allows the grants, and records the hits once each. -/
theorem run_of_permits {aliases : Option AliasTable} {granted : Value}
    (hgrants : Guard.grants aliases granted = .ok grants) (h : guard.permits grants = true) :
    guard.run aliases granted = (.ok (.allowed grants),
      [.authorizationGranted guard.required.texts (distinct ((guard.hits grants).map Scope.text))
        guard.mode.name]) := by
  rw [Guard.run, hgrants]
  simp only [judge, h, if_true]

/-- A guard that does not permit names what it requires, and records what is missing. -/
theorem run_of_not_permits {aliases : Option AliasTable} {granted : Value}
    (hgrants : Guard.grants aliases granted = .ok grants) (h : ¬ guard.permits grants = true) :
    guard.run aliases granted = (.ok (.denied guard.required.texts),
      [.authorizationDenied guard.required.texts grants.size
        ((guard.missing grants).map Scope.text) guard.mode.name]) := by
  rw [Guard.run, hgrants]
  simp only [judge, h, if_false, Bool.false_eq_true]

/-- Callers are allowed exactly if the guard permits their grants. -/
theorem run_eq_allowed_iff {aliases : Option AliasTable} {granted : Value}
    (hgrants : Guard.grants aliases granted = .ok grants) :
    (guard.run aliases granted).1 = .ok (.allowed grants) ↔ guard.permits grants = true := by
  by_cases h : guard.permits grants = true
  · simp [run_of_permits hgrants h, h]
  · simp [run_of_not_permits hgrants h, h]

/-- Callers are denied exactly if the guard does not permit their grants. -/
theorem run_eq_denied_iff {aliases : Option AliasTable} {granted : Value}
    (hgrants : Guard.grants aliases granted = .ok grants) :
    (guard.run aliases granted).1 = .ok (.denied guard.required.texts)
      ↔ ¬ guard.permits grants = true := by
  by_cases h : guard.permits grants = true
  · simp [run_of_permits hgrants h, h]
  · simp [run_of_not_permits hgrants h, h]

/-- The decision of a guard. Let `required` be the set of the required scopes and `grants` the set
of the caller's scopes, replaced by their targets if there is an alias table.

1. The guard can be made, and it lets the caller in, with exactly `grants`, if and only if the
   grants suffice. Everybody else is denied and told the required scopes.
2. If records of level `info` are written, each decision leaves exactly one. A success names
   grants as `NamesMatches` says. A denial names the required scopes that no grant covers, in
   their order, and the number of grants.
3. `ScopeSet.can` holds exactly when there are hits. -/
theorem run_decides (written : List Value) (mode : GuardMode) (aliases : Option AliasTable)
    (granted : Value) {required grants : ScopeSet}
    (hrequired : (Value.tuple written).collect = .ok required)
    (hgrants : Guard.grants aliases granted = .ok grants) :
    ∃ guard, Guard.ofValues written mode = .ok guard
      ∧ ((guard.run aliases granted).1 = .ok (.allowed grants) ↔ Suffices mode required grants)
      ∧ ((guard.run aliases granted).1 = .ok (.denied required.texts)
          ↔ ¬ Suffices mode required grants)
      ∧ (∀ config : Audit.Config, config.writes .info = true →
          (Suffices mode required grants → ∃ matched,
            config.records (guard.run aliases granted).2
              = [successRecord config mode required matched]
            ∧ NamesMatches mode required grants matched)
          ∧ (¬ Suffices mode required grants →
            config.records (guard.run aliases granted).2
              = [denialRecord config mode required grants]))
      ∧ (grants.can required = true ↔ guard.hits grants ≠ []) := by
  refine ⟨⟨required, mode⟩, ofValues_eq_ok hrequired, ?_, ?_, ?_,
    can_eq_true_iff_hits_ne_nil ⟨required, mode⟩ grants⟩
  · rw [run_eq_allowed_iff hgrants, permits_iff_suffices]
  · rw [← permits_iff_suffices ⟨required, mode⟩ grants]
    exact run_eq_denied_iff hgrants
  · intro config hlevel
    rw [← permits_iff_suffices ⟨required, mode⟩ grants]
    constructor
    · intro h
      refine ⟨_, ?_, namesMatches_hits h⟩
      rw [run_of_permits hgrants h]
      simp [Audit.Config.records, Audit.Config.record, successRecord, hlevel]
    · intro h
      have hwarning : config.writes .warning = true :=
        Audit.Config.writes_of_rank_le (by decide) hlevel
      rw [run_of_not_permits hgrants h, missing_eq_filter]
      simp [Audit.Config.records, Audit.Config.record, denialRecord, hwarning]

/-- A caller who was granted the alias `admin` of `api.*` may do what requires `api.a.read` and
`api.b`. -/
theorem run_decides_admin :
    (Value.tuple [.text "api.a.read", .text "api.b"]).collect
        = .ok (.ofList [⟨["api", "a", "read"], by decide, by decide⟩,
          ⟨["api", "b"], by decide, by decide⟩])
      ∧ Guard.grants (some (.ofList [("admin", [⟨["api", "*"], by decide, by decide⟩])]))
          (.list [.text "admin"])
        = .ok (.ofList [⟨["api", "*"], by decide, by decide⟩])
      ∧ ∃ guard, Guard.ofValues [.text "api.a.read", .text "api.b"] .all = .ok guard
        ∧ (guard.run (some (.ofList [("admin", [⟨["api", "*"], by decide, by decide⟩])]))
            (.list [.text "admin"])).1
          = .ok (.allowed (.ofList [⟨["api", "*"], by decide, by decide⟩])) := by
  refine ⟨rfl, rfl, ?_⟩
  obtain ⟨guard, hguard, hallowed, -⟩ := run_decides [.text "api.a.read", .text "api.b"] .all
    (some (.ofList [("admin", [⟨["api", "*"], by decide, by decide⟩])])) (.list [.text "admin"])
    rfl rfl
  refine ⟨guard, hguard, hallowed.mpr ?_⟩
  intro r hr
  exact ⟨⟨["api", "*"], by decide, by decide⟩, by simp, by revert r; decide⟩

end AccessScopes.Guard
