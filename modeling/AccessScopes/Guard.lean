import AccessScopes.Audit.Record
import AccessScopes.ScopeSet.Basic

/-!
# `AccessScopes.Guard`: protecting a route

A guard asks for a set of scopes and looks at the scopes that the caller was granted. In mode
`all` every required scope has to be covered by some grant. In mode `any` one of them is enough;
so a guard without required scopes lets everybody in by the first mode and nobody by the second.

A caller who is let in goes on with the granted scopes. Everybody else is told which scopes would
have been required. Either way the decision is an event for the audit.
-/

set_option autoImplicit false

namespace AccessScopes

/-- How many of the required scopes have to be covered. -/
inductive GuardMode where
  | all
  | any
deriving DecidableEq, Repr

/-- The name of a mode. -/
def GuardMode.name : GuardMode → String
  | .all => "all"
  | .any => "any"

/-- The mode of a name. -/
def GuardMode.ofName? : String → Option GuardMode
  | "all" => some .all
  | "any" => some .any
  | _ => none

/-- What a route requires. -/
structure Guard where
  required : ScopeSet
  mode : GuardMode

/-- The answer to a caller. -/
inductive Decision where
  | allowed (granted : ScopeSet)
  | denied (required : List String)

namespace Guard

/-- The required scopes that no grant covers. -/
def missing (guard : Guard) (granted : ScopeSet) : List Scope :=
  guard.required.members.filter fun s => (granted.resolve s).isNone

/-- For each required scope that is covered, the most general grant that covers it. -/
def hits (guard : Guard) (granted : ScopeSet) : List Scope :=
  guard.required.members.filterMap granted.resolve

/-- Whether the grants are enough. -/
def permits (guard : Guard) (granted : ScopeSet) : Bool :=
  match guard.mode with
  -- Each required scope may be covered by another grant.
  | .all => (guard.missing granted).isEmpty
  | .any => granted.can guard.required

/-- Decides about a caller and tells what to record. -/
def judge (guard : Guard) (granted : ScopeSet) : Decision × Audit.Event :=
  if guard.permits granted then
    (.allowed granted,
      .authorizationGranted guard.required.texts (distinct ((guard.hits granted).map Scope.text))
        guard.mode.name)
  else
    (.denied guard.required.texts,
      .authorizationDenied guard.required.texts granted.size
        ((guard.missing granted).map Scope.text) guard.mode.name)

end Guard

end AccessScopes
