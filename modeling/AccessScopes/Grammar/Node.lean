import AccessScopes.Error
import AccessScopes.Sequence.Distinct

/-!
# `AccessScopes.Grammar.Node`: trees of segments

A node says which segments may follow. It has children, each under a name, and it may have a wild
slot. The slot leads to one subtree, by any of its aliases, by the wildcard, or by a value that
satisfies its constraint. The type of constraints is left open: a grammar has tests there, and a
description the text of a pattern.

A node is addressed by the keys that lead to it: the name of a child, or the wildcard for the
subtree of the slot. `Node.get?` finds the node at an address and `Node.update` changes it.
`Node.paths` lists the addresses of all nodes, each node before those below it and the subtree of
a slot behind the children.
-/

set_option autoImplicit false

namespace AccessScopes

/-- What leads to the subtree of a wild slot besides the wildcard: aliases, and values that
satisfy the constraint. Without a constraint no value does. -/
structure WildSlot (π : Type) where
  aliases : List String
  constraint : Option π
deriving DecidableEq, Repr

/-- A position in a tree of segments. -/
inductive Node (π : Type) where
  | mk (children : List (String × Node π)) (wild : Option (WildSlot π × Node π))

namespace Node

variable {π ρ : Type}

/-- A node without anything below it. -/
def leaf : Node π := .mk [] none

/-- The children in the order of declaration. -/
def children : Node π → List (String × Node π)
  | .mk children _ => children

/-- The wild slot and its subtree. -/
def wild : Node π → Option (WildSlot π × Node π)
  | .mk _ wild => wild

/-- The names of the children. -/
def names (n : Node π) : List String :=
  n.children.map Prod.fst

/-- The node behind one key. -/
def link? (n : Node π) (key : String) : Option (Node π) :=
  if key = wildcard then n.wild.map Prod.snd else n.children.lookup key

/-- The node at an address. -/
def get? (n : Node π) : List String → Option (Node π)
  | [] => some n
  | key :: rest => (n.link? key).bind fun below => below.get? rest

/-- Changes the value of the first entry with the given name. -/
def updateEntry {α : Type} (name : String) (f : α → α) : List (String × α) → List (String × α)
  | [] => []
  | (k, v) :: rest => if k = name then (k, f v) :: rest else (k, v) :: updateEntry name f rest

/-- Changes the node at an address; without such a node nothing changes. -/
def update (f : Node π → Node π) : List String → Node π → Node π
  | [], n => f n
  | key :: rest, .mk children wild =>
    if key = wildcard then .mk children (wild.map fun w => (w.1, update f rest w.2))
    else .mk (updateEntry key (update f rest) children) wild

/-- Adds a child without anything below it behind the others. -/
def addChild (name : String) : Node π → Node π
  | .mk children wild => .mk (children ++ [(name, leaf)]) wild

/-- Gives the node a wild slot with an empty subtree. -/
def setWild (slot : WildSlot π) : Node π → Node π
  | .mk children _ => .mk children (some (slot, leaf))

mutual

/-- The addresses of a node and all nodes below it, where the node itself has the given one. -/
def paths (path : List String) : Node π → List (List String)
  | .mk children wild => path :: (childPaths path children ++ wildPaths path wild)

/-- The addresses below a list of children. -/
def childPaths (path : List String) : List (String × Node π) → List (List String)
  | [] => []
  | (name, child) :: rest => child.paths (path ++ [name]) ++ childPaths path rest

/-- The addresses below a wild slot. -/
def wildPaths (path : List String) : Option (WildSlot π × Node π) → List (List String)
  | none => []
  | some (_, subtree) => subtree.paths (path ++ [wildcard])

end

mutual

/-- A node and all nodes below it with their addresses: each node first, then the subtree of its
slot, then its children from the last to the first. -/
def walk (path : List String) : Node π → List (List String × Node π)
  | .mk children wild =>
    (path, .mk children wild) :: (walkWild path wild ++ walkChildren path children)

/-- The walk below a list of children. -/
def walkChildren (path : List String) : List (String × Node π) → List (List String × Node π)
  | [] => []
  | (name, child) :: rest => walkChildren path rest ++ child.walk (path ++ [name])

/-- The walk below a wild slot. -/
def walkWild (path : List String) :
    Option (WildSlot π × Node π) → List (List String × Node π)
  | none => []
  | some (_, subtree) => subtree.walk (path ++ [wildcard])

end

mutual

/-- The same tree with other constraints. -/
def mapConstraint (f : π → ρ) : Node π → Node ρ
  | .mk children wild => .mk (mapChildren f children) (mapWild f wild)

/-- The same children with other constraints. -/
def mapChildren (f : π → ρ) : List (String × Node π) → List (String × Node ρ)
  | [] => []
  | (name, child) :: rest => (name, child.mapConstraint f) :: mapChildren f rest

/-- The same wild slot with another constraint. -/
def mapWild (f : π → ρ) : Option (WildSlot π × Node π) → Option (WildSlot ρ × Node ρ)
  | none => none
  | some (slot, subtree) =>
    some (⟨slot.aliases, slot.constraint.map f⟩, subtree.mapConstraint f)

end

/-- Induction over a tree: what passes from all nodes one step below to a node holds of every
node. -/
theorem induction {P : Node π → Prop}
    (mk : ∀ children wild, (∀ child ∈ children, P child.2) → (∀ w, wild = some w → P w.2) →
      P (.mk children wild)) (n : Node π) : P n := by
  refine @Node.rec π P (fun cs => ∀ c ∈ cs, P c.2) (fun w => ∀ x, w = some x → P x.2)
    (fun c => P c.2) (fun w => P w.2) ?_ ?_ ?_ ?_ ?_ ?_ ?_ n
  · exact fun children wild hc hw => mk children wild hc hw
  · simp
  · intro c rest hc hrest x hx
    rcases List.mem_cons.mp hx with rfl | hx
    · exact hc
    · exact hrest x hx
  · simp
  · rintro w hw x ⟨⟩
    exact hw
  · exact fun _ _ h => h
  · exact fun _ _ h => h

/-- The paths below the children of a node, child by child in their order. -/
theorem childPaths_eq (path : List String) (children : List (String × Node π)) :
    childPaths path children = children.flatMap fun c => c.2.paths (path ++ [c.1]) := by
  induction children with
  | nil => rfl
  | cons c rest ih => simp [childPaths, ih]

end Node

end AccessScopes
