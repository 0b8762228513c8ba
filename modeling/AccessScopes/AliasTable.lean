import AccessScopes.ScopeSet.Basic
import AccessScopes.Sequence.Keyed

/-!
# `AccessScopes.AliasTable`: names that stand for scopes

An alias table gives each registered name a list of target scopes. It answers two questions about
a list of names.

* `replace` replaces registered names by their targets and keeps all others as scopes.
* `expand` keeps the registered names, adds what they imply, and drops all others.

With `admin` standing for `api.me` and `api.products`, the names `admin, api.orders` become
`api.me, api.products, api.orders` and expand to `admin, api.me, api.products`.
-/

set_option autoImplicit false

namespace AccessScopes

/-- Registered names in the order of registration, each with its targets. -/
structure AliasTable where
  entries : List (String × List Scope)
  nodup_keys : (entries.map Prod.fst).Nodup

namespace AliasTable

/-- The table with the given entries. A later entry of the same name replaces the targets of an
earlier one, and each target is kept once. -/
def ofList (entries : List (String × List Scope)) : AliasTable where
  entries := putAll (entries.map fun entry => (entry.1, distinct entry.2))
  nodup_keys := nodup_keys_putAll _

/-- The table without entries. -/
def empty : AliasTable := ofList []

/-- The registered names. -/
def keys (table : AliasTable) : List String :=
  table.entries.map Prod.fst

/-- The targets of a name, if it is registered. -/
def targets? (table : AliasTable) (name : String) : Option (List Scope) :=
  table.entries.lookup name

/-- The targets of a name; a name that is not registered has none. -/
def targets (table : AliasTable) (name : String) : List Scope :=
  (table.targets? name).getD []

/-- Whether a name is registered. -/
def contains (table : AliasTable) (name : String) : Bool :=
  (table.targets? name).isSome

/-- What one name becomes: its targets, or the scope that it writes. -/
def replaceName (table : AliasTable) (name : String) : Except ArgumentError (List Scope) :=
  match table.targets? name with
  | some targets => .ok targets
  | none => (Scope.ofText name).map fun s => [s]

/-- Replaces registered names by their targets and reads all others as scopes. -/
def replace (table : AliasTable) (names : List String) : Except ArgumentError ScopeSet := do
  let scopes ← names.mapM table.replaceName
  return .ofList scopes.flatten

/-- The registered names, read as scopes, and all their targets. -/
def expand (table : AliasTable) (names : List String) : Except ArgumentError ScopeSet := do
  let registered := names.filter table.contains
  let scopes ← registered.mapM Scope.ofText
  return .ofList (scopes ++ registered.flatMap table.targets)

end AliasTable

end AccessScopes
