import AccessScopes.AliasTable
import AccessScopes.Grammar.Declaration

/-!
# `AccessScopes.Description.Basic`: descriptions

A description says in plain data what a grammar or an alias table is. A grammar is described by
its root and a tree in which patterns are texts. `Grammar.describe` gives the description of a
grammar, and `Grammar.ofDescription` builds the grammar that is described.

A description has room for the text of a pattern only. So a grammar whose pattern was made to
match letters in any case is described without that.
-/

set_option autoImplicit false

namespace AccessScopes

/-- The description of a grammar. -/
structure GrammarDescription where
  root : String
  node : Node String

/-- The description of an alias table: names with written scopes. -/
abbrev AliasDescription := List (String × List String)

namespace Node

mutual

/-- Whether two trees of texts are the same, children in the same order. -/
def same : Node String → Node String → Bool
  | .mk children wild, .mk children' wild' => sameChildren children children' && sameWild wild wild'

/-- Whether two lists of children are the same. -/
def sameChildren : List (String × Node String) → List (String × Node String) → Bool
  | [], [] => true
  | (name, child) :: rest, (name', child') :: rest' =>
    name == name' && child.same child' && sameChildren rest rest'
  | _, _ => false

/-- Whether two wild slots are the same. -/
def sameWild :
    Option (WildSlot String × Node String) → Option (WildSlot String × Node String) → Bool
  | none, none => true
  | some (slot, subtree), some (slot', subtree') => decide (slot = slot') && subtree.same subtree'
  | _, _ => false

end

mutual

/-- The tree that a tree of texts describes. -/
def ofDescription : Node String → Except ArgumentError (Node Pattern)
  | .mk children wild => do
    let children ← childrenOfDescription children
    let wild ← wildOfDescription wild
    return .mk children wild

/-- The children that are described. -/
def childrenOfDescription :
    List (String × Node String) → Except ArgumentError (List (String × Node Pattern))
  | [] => .ok []
  | (name, child) :: rest => do
    checkName name
    let child ← ofDescription child
    let rest ← childrenOfDescription rest
    return (name, child) :: rest

/-- The wild slot that is described. -/
def wildOfDescription :
    Option (WildSlot String × Node String) →
      Except ArgumentError (Option (WildSlot Pattern × Node Pattern))
  | none => .ok none
  | some (slot, subtree) => do
    let slot ← WildSlot.declare slot.aliases (slot.constraint.map .written)
    let subtree ← ofDescription subtree
    return some (slot, subtree)

end

end Node

/-- Whether two descriptions are the same. -/
def GrammarDescription.same (a b : GrammarDescription) : Bool :=
  a.root == b.root && a.node.same b.node

/-- The description of a grammar. -/
def Grammar.describe (g : Grammar) : GrammarDescription :=
  ⟨g.root, g.node.mapConstraint Pattern.source⟩

/-- The sealed grammar that is described. -/
def Grammar.ofDescription (d : GrammarDescription) : Except ArgumentError Grammar := do
  checkName d.root
  let node ← Node.ofDescription d.node
  return ⟨d.root, node, true⟩

/-- The alias table that is described. -/
def AliasTable.ofDescription (d : AliasDescription) : Except ArgumentError AliasTable := do
  let entries ← d.mapM fun entry => do
    let targets ← entry.2.mapM Scope.ofText
    return (entry.1, targets)
  return .ofList entries

end AccessScopes
