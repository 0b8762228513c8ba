import AccessScopes.Grammar.Reading
import AccessScopes.Guard
import AccessScopes.Value.Text

/-!
# `AccessScopes.Value.Coercion`: values as scopes

Some values mean a single scope: a scope, a cursor, a text with dots, a list or tuple of segments
(`Value.toScope`). Almost any collection means a set of scopes (`Value.toScopeSet`): it is gone
through to any depth, and each text, scope or cursor inside is one member. So a list of texts is
one scope for the first question and several for the second.
-/

set_option autoImplicit false

namespace AccessScopes

namespace Value

/-- The items of a value that has to be gone through. -/
def items (v : Value) : Except Failure (List Value) :=
  match v.items? with
  | some items => .ok items
  | none => .error (.misuse (.notIterable v.kind))

/-- The scope with the items of a value as segments; a text is cut at its dots. -/
def segmentsToScope (v : Value) : Except Failure Scope :=
  match v with
  | text s => liftArgument (Scope.ofText s)
  | v => do
    let items ← v.items
    liftArgument (Scope.ofSegments (items.map plain))

/-- The scope that a value means. -/
def toScope : Value → Except ArgumentError Scope
  | scope s => .ok s
  | cursor c => c.toScope
  | text s => Scope.ofText s
  | list items | tuple items => Scope.ofSegments (items.map plain)
  | v => .error (.notAScope v.kind)

mutual

/-- The scopes in a value, from left to right. The first that fails decides the error. -/
def scopes : Value → Except ArgumentError (List Scope)
  | text s => (Scope.ofText s).map fun s => [s]
  | scope s => .ok [s]
  | cursor c => c.toScope.map fun s => [s]
  | scopeSet s => .ok s.members
  | list items | tuple items | set items | stream items => itemScopes items
  | table entries => keyScopes entries
  -- Octets are numbers, and a number is no scope; without octets there is nothing to refuse.
  | bytes octets => if octets.isEmpty then .ok [] else .error (.notScopes .int)
  | v => .error (.notScopes v.kind)

/-- The scopes in a list of values. -/
def itemScopes : List Value → Except ArgumentError (List Scope)
  | [] => .ok []
  | item :: rest => do
    let first ← item.scopes
    let others ← itemScopes rest
    return first ++ others

/-- The scopes in the keys of a table. -/
def keyScopes : List (Value × Value) → Except ArgumentError (List Scope)
  | [] => .ok []
  | (key, _) :: rest => do
    let first ← key.scopes
    let others ← keyScopes rest
    return first ++ others

end

/-- A new set of the scopes in a value. -/
def collect (v : Value) : Except ArgumentError ScopeSet :=
  v.scopes.map .ofList

/-- The set of scopes that a value means. A set stands for itself, and a provider is asked. -/
def toScopeSet : Value → Except ArgumentError ScopeSet
  | scopeSet s => .ok s
  | provider (scopeSet s) => .ok s
  | v => v.collect

/-- The set that can be merged into another: only from a set or from a provider of one. -/
def toMergeable : Value → Except ArgumentError ScopeSet
  | scopeSet s => .ok s
  | provider (scopeSet s) => .ok s
  | v => .error (.notMergeable v.kind)

/-- The replacements that a table means. -/
def substitution (entries : List (Value × Value)) : Scope.Substitution :=
  entries.map fun entry => (entry.1.plain, entry.2.plain)

/-- The targets of an alias: the scopes of a collection, or a single scope. -/
def aliasTargets (v : Value) : Except ArgumentError (List Scope) :=
  match v with
  | list items | tuple items | set items => items.mapM toScope
  | scopeSet s => .ok s.members
  | v => v.toScope.map fun s => [s]

/-- The alias table that a table of names with targets means. -/
def toAliasTable (entries : List (Value × Value)) : Except ArgumentError AliasTable := do
  let entries ← entries.mapM fun entry => do
    let targets ← entry.2.aliasTargets
    return (entry.1.plain, targets)
  return .ofList entries

/-- The names to look up in an alias table. -/
def names : Value → Except Failure (List String)
  | scopeSet s => .ok s.texts
  | text s => .ok [s]
  | scope s => .ok [s.text]
  | cursor c => .ok [c.text]
  | v => v.items.map fun items => items.map plain

/-- The texts of values for one segment. Lists and tuples are opened, but not those inside. -/
def segmentValues (values : List Value) : List String :=
  values.flatMap fun v =>
    match v with
    | list items | tuple items => items.map plain
    | v => [v.plain]

/-- The guard mode that a value means. -/
def toGuardMode : Value → Except Failure GuardMode
  | text s =>
    match GuardMode.ofName? s with
    | some mode => .ok mode
    | none => .error (.unknownMode (text s).shown)
  | v => .error (.unknownMode v.shown)

end Value

/-- Whether a value means a member. A value that means no scope is none. -/
def ScopeSet.containsValue (s : ScopeSet) (v : Value) : Bool :=
  match v.toScope with
  | .ok scope => s.contains scope
  | .error _ => false

/-- Replaces registered names among those that a value holds. -/
def AliasTable.replaceValue (t : AliasTable) (v : Value) : Except Failure ScopeSet := do
  let names ← v.names
  liftArgument (t.replace names)

/-- The registered names among those that a value holds, with their targets. -/
def AliasTable.expandValue (t : AliasTable) (v : Value) : Except Failure ScopeSet := do
  let names ← v.names
  liftArgument (t.expand names)

/-- Reads the scope that a value means. A value that means no scope leaves no record. -/
def Grammar.parseValue (g : Grammar) (v : Value) : Except Failure Scope × List Audit.Event :=
  match v.toScope with
  | .error e => (.error (.argument e), [])
  | .ok s => g.parse s

/-- The guard for values that mean required scopes. -/
def Guard.ofValues (required : List Value) (mode : GuardMode) : Except Failure Guard := do
  let required ← liftArgument (Value.collect (.tuple required))
  return ⟨required, mode⟩

/-- The scopes that a caller was granted: names are replaced if there is an alias table. -/
def Guard.grants (aliases : Option AliasTable) (granted : Value) : Except Failure ScopeSet :=
  match aliases with
  | some table => table.replaceValue granted
  | none => liftArgument granted.toScopeSet

/-- Decides about a caller with the given grants and tells what to record. -/
def Guard.run (guard : Guard) (aliases : Option AliasTable) (granted : Value) :
    Except Failure Decision × List Audit.Event :=
  match Guard.grants aliases granted with
  | .error e => (.error e, [])
  | .ok granted =>
    let (decision, event) := guard.judge granted
    (.ok decision, [event])

end AccessScopes
