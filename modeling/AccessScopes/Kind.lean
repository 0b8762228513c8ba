/-!
# `AccessScopes.Kind`: kinds of caller values

Callers hand in values of many kinds. Messages call a kind by its name.
-/

set_option autoImplicit false

namespace AccessScopes

/-- The kinds of values that a caller can hand in. -/
inductive Kind where
  | null
  | bool
  | int
  | text
  | bytes
  | list
  | tuple
  | set
  | table
  /-- A source of values that can be read once. -/
  | stream
  | scope
  | scopeSet
  | aliasTable
  | grammar
  | cursor
  | pattern
  /-- A foreign object that offers a scope set. -/
  | provider
deriving DecidableEq, Repr

/-- The name of a kind in messages. -/
def Kind.name : Kind → String
  | .null => "NoneType"
  | .bool => "bool"
  | .int => "int"
  | .text => "str"
  | .bytes => "bytes"
  | .list => "list"
  | .tuple => "tuple"
  | .set => "set"
  | .table => "dict"
  | .stream => "list_iterator"
  | .scope => "Scope"
  | .scopeSet => "Scopes"
  | .aliasTable => "AliasMap"
  | .grammar => "Tree"
  | .cursor => "Cursor"
  | .pattern => "Pattern"
  | .provider => "FakeScopes"

/-- The name of a kind in messages about what its values do not support. It tells where the kind
comes from if that is a library of its own. -/
def Kind.qualifiedName : Kind → String
  | .pattern => "re." ++ Kind.pattern.name
  | kind => kind.name

end AccessScopes
