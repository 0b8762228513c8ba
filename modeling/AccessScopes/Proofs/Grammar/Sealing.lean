import AccessScopes.Proofs.Grammar.Declaring
import AccessScopes.Proofs.Grammar.RoundTrip

/-!
# `AccessScopes.Proofs.Grammar.Sealing`: a sealed grammar is frozen

Sealing ends the declaration, but callers still hold the nodes that were handed out before. A late
call on such a node may give back a child that exists. It never declares anything.

* `Grammar.declare_of_sealed`: a late step changes nothing.
* `Grammar.addChain_of_sealed`: a late chain succeeds exactly if all of it is declared. The chain
  stops at the first name that is not, and nothing was added before it.
* `Grammar.declareMarked_eq`: one seal on the grammar has the effect of a seal on every node that
  the walk meets, because the walk meets all nodes that can be held.
* `Grammar.sealed_is_frozen`: the same for all histories of calls, before and after sealing.
-/

set_option autoImplicit false

namespace AccessScopes.Grammar

variable {g g' : Grammar} {address : Address} {held held' : List Address}

/-! ### Late steps -/

/-- Whether names lead from the node at an address to a node below it, each name to a child. -/
def HasChain (g : Grammar) (address : Address) (names : List String) : Prop :=
  (∀ name ∈ names, name ≠ wildcard) ∧ g.node.HasNode (address ++ names)

/-- A chain of names leads to the child of the first name and on from there. -/
theorem hasChain_cons {name : String} {rest : List String} :
    g.HasChain address (name :: rest)
      ↔ g.HasChain address [name] ∧ g.HasChain (address ++ [name]) rest := by
  have happend : address ++ name :: rest = (address ++ [name]) ++ rest := by simp
  unfold HasChain
  rw [List.forall_mem_cons, List.forall_mem_singleton, happend]
  constructor
  · intro h
    exact ⟨⟨h.1.1, h.2.front⟩, h.1.2, h.2⟩
  · intro h
    exact ⟨⟨h.1.1, h.2.1⟩, h.2.2⟩

/-- Names of children are tokens, so a chain of one name is a child of that name. -/
theorem hasChain_singleton_iff (hg : g.WellFormed) {name : String} :
    g.HasChain address [name]
      ↔ isToken name = true ∧ (g.childAt? address name).isSome = true := by
  rw [HasChain, List.forall_mem_singleton]
  constructor
  · intro h
    have hchild := (childAt?_isSome_iff h.1).mpr h.2
    refine ⟨?_, hchild⟩
    obtain ⟨below, hbelow⟩ := Option.isSome_iff_exists.mp hchild
    obtain ⟨m, hm, hlookup⟩ := Option.bind_eq_some_iff.mp hbelow
    have hwf : m.WellFormed := hg.node.of_get? hm
    exact hwf.names.names_token name (List.mem_map_of_mem (Node.mem_of_lookup hlookup))
  · intro h
    have hname : name ≠ wildcard := ne_wildcard_of_isToken h.1
    exact ⟨hname, (childAt?_isSome_iff hname).mp h.2⟩

/-- A late step for a child gives it back if it exists, and fails otherwise. -/
theorem add_of_sealed (hg : g.WellFormed) (hsealed : g.isSealed = true) (address : Address)
    (name : String) : (g.add address name).1 = g
      ∧ ∀ below, (g.add address name).2 = .ok below
        ↔ below = address ++ [name] ∧ g.HasChain address [name] := by
  rw [hasChain_singleton_iff hg]
  rcases g.add_cases address name with ⟨e, heq⟩ | ⟨htoken, hchild, heq⟩ | ⟨-, -, hopen, -⟩
  · -- A name that is a token and the name of a child would have been given back.
    have hnot : ¬ (isToken name = true ∧ (g.childAt? address name).isSome = true) := by
      intro h
      rw [add, checkName, if_pos h.1] at heq
      simp [h.2] at heq
    rw [heq]
    exact ⟨rfl, fun below => by simp [hnot]⟩
  · rw [heq]
    exact ⟨rfl, fun below => by simp [htoken, hchild, eq_comm]⟩
  · rw [hsealed] at hopen
    cases hopen

/-- A late chain is given back if all of it exists, and fails otherwise. It never gets to a name
that would have to be added. -/
theorem addChain_of_sealed (hg : g.WellFormed) (hsealed : g.isSealed = true)
    (h : g.node.HasNode address) (names : List String) : (g.addChain address names).1 = g
      ∧ ∀ below, (g.addChain address names).2 = .ok below
        ↔ below = address ++ names ∧ g.HasChain address names := by
  induction names generalizing address with
  | nil =>
    refine ⟨rfl, fun below => ?_⟩
    have hchain : g.HasChain address [] := ⟨by simp, by simpa using h⟩
    simp [addChain, hchain, eq_comm]
  | cons name rest ih =>
    obtain ⟨hsame, houtcome⟩ := add_of_sealed hg hsealed address name
    rw [addChain]
    split
    · -- The first name is declared, and the chain goes on below its node.
      next g' below heq =>
      rw [heq] at hsame houtcome
      obtain ⟨rfl, hfirst⟩ := (houtcome below).mp rfl
      obtain rfl : g' = g := hsame
      obtain ⟨hrestSame, hrest⟩ := ih hfirst.2
      refine ⟨hrestSame, fun last => ?_⟩
      rw [hrest, hasChain_cons, List.append_assoc, List.singleton_append]
      simp [hfirst]
    · -- The first name is refused, and the whole chain with it.
      next g' e heq =>
      rw [heq] at hsame houtcome
      refine ⟨hsame, fun last => ?_⟩
      have hnot : ¬ g.HasChain address [name] := by
        intro hfirst
        have hok := (houtcome (address ++ [name])).mpr ⟨rfl, hfirst⟩
        cases hok
      simp [hasChain_cons, hnot]

/-- A late slot is refused, whatever node it is for. -/
theorem addWild_of_sealed (hsealed : g.isSealed = true) (address : Address)
    (aliases : List String) (constraint : Option Constraint) :
    g.addWild address aliases constraint = (g, .error (.sealed (g.nameAt address))) := by
  rw [addWild, if_pos hsealed]

/-- A late step changes nothing, whatever it asks for and whether it fails or not. -/
theorem declare_of_sealed (hg : g.WellFormed) (hsealed : g.isSealed = true)
    (h : g.node.HasNode address) (d : Declaration) : (g.declare address d).1 = g := by
  cases d with
  | child name => exact (add_of_sealed hg hsealed address name).1
  | chain path => exact (addChain_of_sealed hg hsealed h _).1
  | wild aliases constraint =>
    rw [declare, addWild_of_sealed hsealed]

/-! ### Seals on nodes -/

/-- The addresses of the nodes that the walk meets. -/
def walkedAddresses (g : Grammar) : List Address :=
  g.walk.map fun p => p.path.tail

/-- The walk meets exactly the addresses at which there is a node. -/
theorem mem_walkedAddresses_iff (hg : g.WellFormed) :
    address ∈ g.walkedAddresses ↔ g.node.HasNode address := by
  rw [walkedAddresses, List.mem_map]
  constructor
  · rintro ⟨p, hp, rfl⟩
    obtain ⟨a, hplace⟩ := (mem_walk_iff hg).mp hp
    obtain ⟨hget, hpath⟩ := place?_eq_some_iff.mp hplace
    rw [hpath, List.tail_cons]
    exact ⟨p.node, hget⟩
  · rintro ⟨m, hm⟩
    exact ⟨⟨g.root :: address, m⟩,
      (mem_walk_iff hg).mpr ⟨address, place?_eq_some_iff.mpr ⟨hm, rfl⟩⟩, rfl⟩

/-- A step that looks for the seal at one node instead of the grammar. -/
def underSeal (marked : List Address) (address : Address)
    (step : Grammar → Grammar × Except ArgumentError Address) (g : Grammar) :
    Grammar × Except ArgumentError Address :=
  let result := step { g with isSealed := marked.contains address }
  ({ result.1 with isSealed := g.isSealed }, result.2)

/-- Declares a chain where each node has a seal of its own, and each step looks for the seal of the
node that it works on. -/
def addChainMarked (marked : List Address) (g : Grammar) (address : Address) :
    List String → Grammar × Except ArgumentError Address
  | [] => (g, .ok address)
  | name :: rest =>
    match underSeal marked address (·.add address name) g with
    | (g, .ok below) => addChainMarked marked g below rest
    | (g, .error e) => (g, .error e)

/-- Declares something below a node where each node has a seal of its own. -/
def declareMarked (marked : List Address) (g : Grammar) (address : Address) :
    Declaration → Grammar × Except ArgumentError Address
  | .child name => underSeal marked address (·.add address name) g
  | .chain path => addChainMarked marked g address (Text.split separator path)
  | .wild aliases constraint => underSeal marked address (·.addWild address aliases constraint) g

/-- At a node that was sealed, its own seal has the effect of the one on the grammar. -/
theorem underSeal_of_mem {marked : List Address} (hsealed : g.isSealed = true)
    (hmem : address ∈ marked) (step : Grammar → Grammar × Except ArgumentError Address)
    (hstep : (step g).1 = g) : underSeal marked address step g = step g := by
  have hsame : ({ g with isSealed := marked.contains address } : Grammar) = g := by
    rw [List.contains_iff_mem.mpr hmem, ← hsealed]
  rw [underSeal, hsame]
  show ({ (step g).1 with isSealed := g.isSealed }, (step g).2) = step g
  rw [hstep]
  exact Prod.ext hstep.symm rfl

/-- In a chain each node that is handed out on the way has its seal as well. -/
theorem addChainMarked_eq (hg : g.WellFormed) (hsealed : g.isSealed = true)
    (h : g.node.HasNode address) (names : List String) :
    addChainMarked g.walkedAddresses g address names = g.addChain address names := by
  induction names generalizing address with
  | nil => rfl
  | cons name rest ih =>
    obtain ⟨hsame, houtcome⟩ := add_of_sealed hg hsealed address name
    have hmem : address ∈ g.walkedAddresses := (mem_walkedAddresses_iff hg).mpr h
    rw [addChainMarked, addChain, underSeal_of_mem hsealed hmem (·.add address name) hsame]
    cases hresult : g.add address name with
    | mk g' outcome =>
      rw [hresult] at hsame houtcome
      obtain rfl : g' = g := hsame
      cases outcome with
      | error e => rfl
      | ok below =>
        -- What was handed out is a node of the grammar, so the walk meets it as well.
        obtain ⟨rfl, hchain⟩ := (houtcome below).mp rfl
        exact ih hchain.2

/-- Seals on all nodes that the walk meets have the effect of a seal on the grammar. -/
theorem declareMarked_eq (hg : g.WellFormed) (hsealed : g.isSealed = true)
    (h : g.node.HasNode address) (d : Declaration) :
    declareMarked g.walkedAddresses g address d = g.declare address d := by
  have hmem : address ∈ g.walkedAddresses := (mem_walkedAddresses_iff hg).mpr h
  cases d with
  | child name =>
    exact underSeal_of_mem hsealed hmem (·.add address name)
      (add_of_sealed hg hsealed address name).1
  | chain path => exact addChainMarked_eq hg hsealed h _
  | wild aliases constraint =>
    exact underSeal_of_mem hsealed hmem (·.addWild address aliases constraint)
      (by rw [addWild_of_sealed hsealed])

/-! ### Late histories -/

/-- Late calls change nothing, and what they hand out are nodes of the grammar. -/
theorem Calls.of_sealed (hcalls : Calls g held g' held') (hg : g.WellFormed)
    (hsealed : g.isSealed = true) (hheld : ∀ a ∈ held, g.node.HasNode a) :
    g' = g ∧ ∀ a ∈ held', g.node.HasNode a := by
  refine hcalls.preserves (P := fun g' held' => g' = g ∧ ∀ a ∈ held', g.node.HasNode a) ?_
    ⟨rfl, hheld⟩
  rintro after held address d ⟨rfl, hheld⟩ hmem
  have h : after.node.HasNode address := hheld address hmem
  have hsame : (after.declare address d).1 = after := declare_of_sealed hg hsealed h d
  refine ⟨hsame, ?_⟩
  have hkeeps := (Keeps.declare h d).hasNode_of_mem_handles hheld
  rwa [hsame] at hkeeps

/-- A sealed grammar is frozen. Take any history of declaration calls on nodes that were handed out,
in which the grammar is sealed at some point, and any calls after that. Then the grammar after them
is the sealed one. Every node that callers hold is one of those that the walk meets, so that a seal
on each of these has the same effect as the seal on the grammar. A late wild slot is refused. A late
child or chain is given back if it exists, and is refused otherwise. -/
theorem sealed_is_frozen (h : Held g held) (hsealed : g.isSealed = true)
    (hcalls : Calls g held g' held') :
    g' = g ∧ ∀ address ∈ held',
      (∃ p ∈ g.walk, p.path = g.root :: address)
        ∧ (∀ d, declareMarked g.walkedAddresses g address d = g.declare address d)
        ∧ (∀ aliases constraint, (g.declare address (.wild aliases constraint)).2
          = .error (.sealed (g.nameAt address)))
        ∧ (∀ name below, (g.declare address (.child name)).2 = .ok below
          ↔ below = address ++ [name] ∧ g.HasChain address [name])
        ∧ (∀ path below, (g.declare address (.chain path)).2 = .ok below
          ↔ below = address ++ Text.split separator path
            ∧ g.HasChain address (Text.split separator path)) := by
  have hg : g.WellFormed := h.built.wellFormed
  obtain ⟨hsame, hheld⟩ := hcalls.of_sealed hg hsealed h.hasNode
  refine ⟨hsame, fun address hmem => ?_⟩
  have hnode : g.node.HasNode address := hheld address hmem
  refine ⟨?_, declareMarked_eq hg hsealed hnode, fun aliases constraint => ?_,
    fun name => (add_of_sealed hg hsealed address name).2,
    fun path => (addChain_of_sealed hg hsealed hnode _).2⟩
  · obtain ⟨m, hm⟩ := hnode
    exact ⟨⟨g.root :: address, m⟩,
      (mem_walk_iff hg).mpr ⟨address, place?_eq_some_iff.mpr ⟨hm, rfl⟩⟩, rfl⟩
  · rw [declare, addWild_of_sealed hsealed]

/-- The overlapping grammar is declared by three calls and then sealed. A late call below its slot
gives `read` back; another slot there is refused, and so is a chain that goes on behind `read`. -/
theorem sealed_is_frozen_overlapping :
    ∃ held after held', Held overlapping held ∧ overlapping.isSealed = true
      ∧ Calls overlapping held after held' ∧ after = overlapping ∧ ["*"] ∈ held'
      ∧ (overlapping.declare ["*"] (.wild ["all"] none)).2 = .error (.sealed "*")
      ∧ (overlapping.declare ["*"] (.child "read")).2 = .ok ["*", "read"]
      ∧ ∀ below, (overlapping.declare ["*"] (.chain "read.more")).2 ≠ .ok below := by
  let start : Grammar := ⟨"api", .leaf, false⟩
  have hroot : ofRoot "api" = .ok start := rfl
  have hname := Calls.step (.refl start [[]]) (show ([] : Address) ∈ [[]] by decide)
    (.child "admin")
  have hslot := Calls.step hname (show ([] : Address) ∈ handles _ _ by decide +kernel)
    (.wild ["own"] (some (.written "^[a-z]+$")))
  have hbelow := Calls.step hslot (show ["*"] ∈ handles _ _ by decide +kernel) (.child "read")
  obtain ⟨held, hheld, hmem⟩ : ∃ held, Held overlapping held ∧ ["*"] ∈ held :=
    ⟨_, ((Held.root hroot).calls hbelow).finish, by decide +kernel⟩
  have hlate := Calls.step (.refl overlapping held) hmem (.child "read")
  obtain ⟨hsame, hframe⟩ := sealed_is_frozen hheld rfl hlate
  have hstays : ["*"] ∈ handles held (overlapping.declare ["*"] (.child "read")).2 :=
    mem_handles_of_mem hmem _
  obtain ⟨-, -, hwild, hchild, hchain⟩ := hframe ["*"] hstays
  have hread : overlapping.HasChain ["*"] ["read"] := by
    refine ⟨by decide, Option.isSome_iff_exists.mp ?_⟩
    decide +kernel
  refine ⟨held, _, _, hheld, rfl, hlate, hsame, hstays, hwild ["all"] none,
    (hchild "read" ["*", "read"]).mpr ⟨rfl, hread⟩, fun below hok => ?_⟩
  have hmore : overlapping.node.HasNode (["*"] ++ Text.split separator "read.more") :=
    ((hchain "read.more" below).mp hok).2.2
  have hnone : (overlapping.node.get? (["*"] ++ Text.split separator "read.more")).isSome
      = false := by
    decide +kernel
  rw [Option.isSome_iff_exists.mpr hmore] at hnone
  cases hnone

end AccessScopes.Grammar
