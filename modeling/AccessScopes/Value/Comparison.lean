import AccessScopes.Value.Coercion
import AccessScopes.Value.Equality

/-!
# `AccessScopes.Value.Comparison`: comparing values by coverage

A scope is at least another (`>=`) if it covers it. One side of a comparison has to be a scope or
a scope set; the other is turned into the same. If the left side does not know how to compare
itself with the right one, the right side is asked with the comparison turned around. If it does
not know either, the comparison is a misuse.

A comparison is strict if the two sides are also different.
-/

set_option autoImplicit false

namespace AccessScopes

/-- Compares scopes. -/
def Comparison.onScopes : Comparison → Scope → Scope → Bool
  | .ge, a, b => a.covers b
  | .le, a, b => b.covers a
  | .gt, a, b => a.covers b && a != b
  | .lt, a, b => b.covers a && a != b

/-- Compares scope sets. -/
def Comparison.onScopeSets : Comparison → ScopeSet → ScopeSet → Bool
  | .ge, a, b => a.covers b
  | .le, a, b => b.covers a
  | .gt, a, b => a.covers b && !a.same b
  | .lt, a, b => b.covers a && !a.same b

namespace Value

/-- The scope to compare a scope with, if the value is of a kind that can be one. -/
def asScope? (v : Value) : Option (Except ArgumentError Scope) :=
  match v with
  | scope _ | text _ | cursor _ => some v.toScope
  | _ => none

/-- The scope set to compare a scope set with, if the value is of a kind that can be one. -/
def asScopeSet? (v : Value) : Option (Except ArgumentError ScopeSet) :=
  match v with
  | scopeSet _ | scope _ | text _ | list _ | tuple _ | set _ | cursor _ | provider _ =>
    some v.toScopeSet
  | _ => none

/-- What the left side says about a comparison, if it knows how. -/
def compareLeft? (comparison : Comparison) (a b : Value) : Option (Except ArgumentError Bool) :=
  match a with
  | scope s => b.asScope?.map fun t => t.map (comparison.onScopes s)
  | scopeSet s => b.asScopeSet?.map fun t => t.map (comparison.onScopeSets s)
  | _ => none

/-- Compares two values. -/
def compare (comparison : Comparison) (a b : Value) : Except Failure Bool :=
  match compareLeft? comparison a b with
  | some result => liftArgument result
  | none =>
    match compareLeft? comparison.flip b a with
    | some result => liftArgument result
    | none => .error (.misuse (.notComparable comparison a.kind b.kind))

/-- Whether two values are equal by what they say; values that say nothing are equal if they are
one and the same. -/
def equals (identical : Bool) (a b : Value) : Bool :=
  match a, b with
  | scopeSet s, provider (scopeSet t) => s.same t
  | provider (scopeSet s), scopeSet t => t.same s
  | a, b => a.same b || identical

/-- Whether a value covers another, where the first is a scope or a scope set. -/
def covers? (a b : Value) : Option (Except ArgumentError Bool) :=
  match a with
  | scope s => some (b.toScope.map s.covers)
  | scopeSet s => some (b.toScopeSet.map s.covers)
  | _ => none

end Value

end AccessScopes
