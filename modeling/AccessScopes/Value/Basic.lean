import AccessScopes.AliasTable
import AccessScopes.Cursor
import AccessScopes.Kind

/-!
# `AccessScopes.Value.Basic`: what callers hand in

Callers describe scopes in many ways: as text, as a list of segments, as a scope, as nested
collections of all these. `Value` is the type of what they hand in, whether it makes sense as a
scope or not.
-/

set_option autoImplicit false

namespace AccessScopes

/-- A value from a caller. -/
inductive Value where
  | null
  | bool (b : Bool)
  | int (n : Int)
  | text (s : String)
  | bytes (octets : List Nat)
  | list (items : List Value)
  | tuple (items : List Value)
  | set (items : List Value)
  | stream (items : List Value)
  | table (entries : List (Value × Value))
  | scope (s : Scope)
  | scopeSet (s : ScopeSet)
  | aliasTable (t : AliasTable)
  | grammar (g : Grammar)
  | cursor (c : Cursor)
  | pattern (p : Pattern)
  /-- A foreign object that answers a request for scopes with the given value. -/
  | provider (offer : Value)

namespace Value

/-- The kind of a value. -/
def kind : Value → Kind
  | null => .null
  | bool _ => .bool
  | int _ => .int
  | text _ => .text
  | bytes _ => .bytes
  | list _ => .list
  | tuple _ => .tuple
  | set _ => .set
  | stream _ => .stream
  | table _ => .table
  | scope _ => .scope
  | scopeSet _ => .scopeSet
  | aliasTable _ => .aliasTable
  | grammar _ => .grammar
  | cursor _ => .cursor
  | pattern _ => .pattern
  | provider _ => .provider

/-- The values that a value consists of, if it can be gone through. Bytes consist of numbers, a
table of its keys, a scope or a cursor of its segments. -/
def items? : Value → Option (List Value)
  | text s => some (s.toList.map fun c => text (String.singleton c))
  | bytes octets => some (octets.map fun (n : Nat) => int n)
  | list items | tuple items | set items | stream items => some items
  | table entries => some (entries.map Prod.fst)
  | scope s => some (s.segments.map text)
  | scopeSet s => some (s.members.map scope)
  | cursor c => some (c.segments.map text)
  | null | bool _ | int _ | aliasTable _ | grammar _ | pattern _ | provider _ => none

end Value

end AccessScopes
