import AccessScopes.Grammar.Node
import AccessScopes.Grammar.Token
import AccessScopes.Pattern.Basic
import AccessScopes.ScopeSet.Basic

/-!
# `AccessScopes.Grammar.Basic`: grammars of scopes

A grammar is a tree of segments under the name of its root. Every node has a declared path, which
begins with the name of the root and has a wildcard for each wild slot on the way. Declared paths
tell nodes apart, so a place in a grammar is a node together with its path.

While a grammar is being declared it is open. Sealing ends the declaration.
-/

set_option autoImplicit false

namespace AccessScopes

/-- A tree of segments with value patterns, under a root name. -/
structure Grammar where
  root : String
  node : Node Pattern
  isSealed : Bool

/-- A node and its declared path. -/
structure Place where
  path : List String
  node : Node Pattern

namespace Place

/-- The last key of the declared path. -/
def name (p : Place) : String :=
  p.path.getLastD ""

/-- The child of the given name. -/
def child? (p : Place) (key : String) : Option Place :=
  (p.node.children.lookup key).map fun n => ⟨p.path ++ [key], n⟩

/-- The subtree of the wild slot. -/
def subtree? (p : Place) : Option Place :=
  p.node.wild.map fun w => ⟨p.path ++ [wildcard], w.2⟩

/-- All children in the order of declaration. -/
def children (p : Place) : List Place :=
  p.node.children.map fun c => ⟨p.path ++ [c.1], c.2⟩

/-- Where a name leads: to the child of this name, or else to the subtree if the name is an alias
of the wild slot. -/
def named? (p : Place) (key : String) : Option Place :=
  match p.child? key with
  | some child => some child
  | none =>
    match p.node.wild with
    | some (slot, _) => if slot.aliases.contains key then p.subtree? else none
    | none => none

/-- The node in words. -/
def text (p : Place) : String :=
  "<GrammarNode " ++ Text.quote p.name ++ " children=" ++ quotedList p.node.names ++ ">"

end Place

/-- Whether a text may be used as a free value: it is a token that satisfies the pattern. -/
def Pattern.admitsValue (pattern : Pattern) (value : String) : Bool :=
  isToken value && pattern.accepts value

/-- Whether a text may be used as a free value of a slot. -/
def WildSlot.admitsValue (slot : WildSlot Pattern) (value : String) : Bool :=
  slot.constraint.any (·.admitsValue value)

namespace Grammar

/-- An open grammar with nothing but its root. -/
def ofRoot (root : String) : Except ArgumentError Grammar := do
  checkName root
  return ⟨root, .leaf, false⟩

/-- Ends the declaration. -/
def finish (g : Grammar) : Grammar :=
  { g with isSealed := true }

/-- The place of the root. -/
def rootPlace (g : Grammar) : Place :=
  ⟨[g.root], g.node⟩

/-- The place at an address. -/
def place? (g : Grammar) (address : List String) : Option Place :=
  (g.node.get? address).map fun n => ⟨g.root :: address, n⟩

/-- The declared paths of all nodes. -/
def paths (g : Grammar) : List (List String) :=
  g.node.paths [g.root]

/-- All places, each before those below it. -/
def walk (g : Grammar) : List Place :=
  (g.node.walk [g.root]).map fun p => ⟨p.1, p.2⟩

/-- The declared paths as a scope set. All names are tokens, so each path is a scope. -/
def declaredScopes (g : Grammar) : ScopeSet :=
  .ofList (g.paths.filterMap fun path => (Scope.ofSegments path).toOption)

/-- The grammar in words. -/
def text (g : Grammar) : String :=
  "<Tree " ++ Text.quote g.root ++ ">"

end Grammar

end AccessScopes
