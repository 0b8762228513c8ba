import AccessScopes.Grammar.Basic

/-!
# `AccessScopes.Grammar.Declaration`: declaring a grammar

A grammar is declared step by step. Each step names the node it works on by the address that an
earlier step gave back; the root has the empty address. A step gives the grammar after it, and the
address of the node it declared or the reason why it failed.

A child that exists is returned and not declared again, even if the grammar is sealed. Every other
step on a sealed grammar fails. A step that fails leaves the grammar as it was, with one exception:
a chain of children keeps those declared before the failure.
-/

set_option autoImplicit false

namespace AccessScopes

/-- The keys that lead from the root to a node. -/
abbrev Address := List String

/-- How the values of a wild slot are constrained: by a pattern still to be read, or by one that
has been read already. -/
inductive Constraint where
  | written (source : String)
  | ready (pattern : Pattern)

/-- The pattern of a constraint. -/
def Constraint.pattern : Constraint → Except ArgumentError Pattern
  | .written source => (Pattern.ofText? source false).mapError (.invalidPattern source)
  | .ready pattern => .ok pattern

/-- The slot with the given aliases, each kept once, and the given constraint. -/
def WildSlot.declare (aliases : List String) (constraint : Option Constraint) :
    Except ArgumentError (WildSlot Pattern) := do
  aliases.forM checkName
  let pattern ← constraint.mapM Constraint.pattern
  return ⟨distinct aliases, pattern⟩

/-- A step of a declaration. -/
inductive Declaration where
  | child (name : String)
  | chain (path : String)
  | wild (aliases : List String) (constraint : Option Constraint)

namespace Grammar

/-- The name of the node at an address. -/
def nameAt (g : Grammar) (address : Address) : String :=
  (g.root :: address).getLastD ""

/-- The existing child of a node. -/
def childAt? (g : Grammar) (address : Address) (name : String) : Option (Node Pattern) :=
  (g.node.get? address).bind fun n => n.children.lookup name

/-- Declares a child, unless it exists. -/
def add (g : Grammar) (address : Address) (name : String) :
    Grammar × Except ArgumentError Address :=
  match checkName name with
  | .error e => (g, .error e)
  | .ok _ =>
    -- A child that exists is no change, so a sealed grammar gives it back too.
    if (g.childAt? address name).isSome then (g, .ok (address ++ [name]))
    else if g.isSealed then (g, .error (.sealed (g.nameAt address)))
    else
      ({ g with node := g.node.update (Node.addChild name) address }, .ok (address ++ [name]))

/-- Declares a chain of children, each below the one before. -/
def addChain (g : Grammar) (address : Address) : List String →
    Grammar × Except ArgumentError Address
  | [] => (g, .ok address)
  | name :: rest =>
    match g.add address name with
    | (g, .ok below) => g.addChain below rest
    | (g, .error e) => (g, .error e)

/-- Declares the chain that a text with dots names. -/
def addPath (g : Grammar) (address : Address) (path : String) :
    Grammar × Except ArgumentError Address :=
  g.addChain address (Text.split separator path)

/-- Declares the wild slot of a node. -/
def addWild (g : Grammar) (address : Address) (aliases : List String)
    (constraint : Option Constraint) : Grammar × Except ArgumentError Address :=
  if g.isSealed then (g, .error (.sealed (g.nameAt address)))
  else if ((g.node.get? address).bind Node.wild).isSome then
    (g, .error (.anyDeclared (g.nameAt address)))
  else
    match WildSlot.declare aliases constraint with
    | .error e => (g, .error e)
    | .ok slot =>
      ({ g with node := g.node.update (Node.setWild slot) address },
        .ok (address ++ [wildcard]))

/-- Declares something below a node. -/
def declare (g : Grammar) (address : Address) :
    Declaration → Grammar × Except ArgumentError Address
  | .child name => g.add address name
  | .chain path => g.addPath address path
  | .wild aliases constraint => g.addWild address aliases constraint

end Grammar

end AccessScopes
