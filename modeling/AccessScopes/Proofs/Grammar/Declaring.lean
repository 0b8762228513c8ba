import AccessScopes.Proofs.Grammar.Places

/-!
# `AccessScopes.Proofs.Grammar.Declaring`: the nodes that declarations hand out

A step of a declaration works on a node that an earlier step handed out, and hands out a node
itself. Handles are addresses, so this needs that a node never loses its address: no step takes a
node away or moves it.

* `Node.GrowsInto` relates a tree to those that it may become: each node stays at its address with
  its children and its slot. `Node.GrowsInto.update` is about a change at one address.
* `Grammar.growsInto_declare`: a step lets the nodes grow.
* `Grammar.Keeps.declare`: a step keeps all nodes, and there is a node at the address it hands out.
* `Grammar.Held` collects everything that callers can hold, and `Grammar.Held.hasNode` is the
  invariant of all histories of calls.
-/

set_option autoImplicit false

namespace AccessScopes

/-! ### Addresses after a change -/

namespace Node

variable {π : Type} {n : Node π}

/-- A change under one name is found under this name and under no other. -/
theorem lookup_updateEntry {α : Type} (name key : String) (f : α → α)
    (entries : List (String × α)) : (updateEntry name f entries).lookup key
      = if key = name then (entries.lookup name).map f else entries.lookup key := by
  induction entries with
  | nil => simp [updateEntry]
  | cons first rest ih =>
    obtain ⟨k, v⟩ := first
    by_cases hk : k = name
    · subst hk
      by_cases hkey : key = k
      · simp [updateEntry, hkey]
      · simp [updateEntry, hkey, List.lookup_cons, beq_eq_false_iff_ne.mpr hkey]
    · have hname : (name == k) = false := beq_eq_false_iff_ne.mpr (Ne.symm hk)
      rw [updateEntry, if_neg hk, List.lookup_cons, List.lookup_cons, List.lookup_cons, ih, hname]
      by_cases hkey : key = k
      · simp [hkey, hk]
      · rw [beq_eq_false_iff_ne.mpr hkey]

/-- A change further below changes what stands behind the first key of its address only. -/
theorem link?_update_cons (f : Node π → Node π) (first : String) (rest : List String)
    (n : Node π) (key : String) : (n.update f (first :: rest)).link? key
      = if key = first then (n.link? first).map (update f rest) else n.link? key := by
  obtain ⟨children, wild⟩ := n
  by_cases hfirst : first = wildcard
  · by_cases hkey : key = wildcard
    · simp [update, link?, hfirst, hkey, Node.wild, Function.comp_def]
    · simp [update, link?, hfirst, hkey, Node.children]
  · by_cases hkey : key = wildcard
    · have hne : ¬ wildcard = first := fun h => hfirst h.symm
      simp [update, link?, hfirst, hkey, hne, Node.wild]
    · simp [update, link?, hfirst, hkey, Node.children, lookup_updateEntry]

/-- A new child stands behind the others, so no name leads elsewhere. -/
theorem link?_addChild (name : String) {key : String} {below : Node π}
    (h : n.link? key = some below) : (n.addChild name).link? key = some below := by
  obtain ⟨children, wild⟩ := n
  by_cases hkey : key = wildcard
  · simpa [Node.addChild, link?, hkey, Node.wild] using h
  · have hlookup : children.lookup key = some below := by
      simpa [link?, hkey, Node.children] using h
    simp [Node.addChild, link?, hkey, Node.children, List.lookup_append, hlookup]

/-- A new slot leaves the links that there were. The node has to be without a slot before. -/
theorem link?_setWild (hwild : n.wild = none) (slot : WildSlot π) {key : String} {below : Node π}
    (h : n.link? key = some below) : (n.setWild slot).link? key = some below := by
  obtain ⟨children, wild⟩ := n
  obtain rfl : wild = none := hwild
  by_cases hkey : key = wildcard
  · simp [link?, hkey, Node.wild] at h
  · simpa [Node.setWild, link?, hkey, Node.children] using h

/-- Whether there is a node at an address. -/
def HasNode (n : Node π) (address : List String) : Prop :=
  ∃ m, n.get? address = some m

/-- The root is always there. -/
theorem hasNode_nil (n : Node π) : n.HasNode [] :=
  ⟨n, rfl⟩

/-- There is a node at an address if the first key links to a node that has one at the rest. -/
theorem hasNode_cons {key : String} {rest : List String} :
    n.HasNode (key :: rest) ↔ ∃ below, n.link? key = some below ∧ below.HasNode rest := by
  constructor
  · rintro ⟨m, hm⟩
    obtain ⟨below, hbelow, hrest⟩ := get?_cons.mp hm
    exact ⟨below, hbelow, m, hrest⟩
  · rintro ⟨below, hbelow, m, hrest⟩
    exact ⟨m, get?_cons.mpr ⟨below, hbelow, hrest⟩⟩

/-- There is a node at an address if there is one at a front of it, and from there one at the rest.
-/
theorem hasNode_append {front back : List String} :
    n.HasNode (front ++ back) ↔ ∃ m, n.get? front = some m ∧ m.HasNode back := by
  unfold HasNode
  rw [get?_append]
  constructor
  · rintro ⟨m, hm⟩
    obtain ⟨middle, hfront, hback⟩ := Option.bind_eq_some_iff.mp hm
    exact ⟨middle, hfront, m, hback⟩
  · rintro ⟨middle, hfront, m, hback⟩
    exact ⟨m, Option.bind_eq_some_iff.mpr ⟨middle, hfront, hback⟩⟩

namespace HasNode

/-- If there is a node at an address, there is one at each front of it. -/
theorem front {front back : List String} (h : n.HasNode (front ++ back)) : n.HasNode front := by
  obtain ⟨m, hm, -⟩ := hasNode_append.mp h
  exact ⟨m, hm⟩

end HasNode

/-- After a child is added it is there. -/
theorem hasNode_addChild (n : Node π) {name : String} (hname : name ≠ wildcard) :
    (n.addChild name).HasNode [name] := by
  obtain ⟨children, wild⟩ := n
  rw [hasNode_cons]
  cases hlookup : children.lookup name with
  | some below =>
    exact ⟨below, by simp [addChild, link?, hname, Node.children, List.lookup_append, hlookup],
      hasNode_nil below⟩
  | none =>
    exact ⟨leaf, by simp [addChild, link?, hname, Node.children, List.lookup_append, hlookup],
      hasNode_nil leaf⟩

/-- After a slot is set its subtree is there. -/
theorem hasNode_setWild (n : Node π) (slot : WildSlot π) : (n.setWild slot).HasNode [wildcard] := by
  obtain ⟨children, wild⟩ := n
  exact hasNode_cons.mpr ⟨leaf, by simp [setWild, link?, Node.wild], hasNode_nil leaf⟩

/-- At the address of a change stands the changed node. -/
theorem get?_update_self {f : Node π → Node π} {address : List String} {m : Node π}
    (h : n.get? address = some m) : (n.update f address).get? address = some (f m) := by
  induction address generalizing n with
  | nil =>
    cases h
    rfl
  | cons key rest ih =>
    obtain ⟨below, hbelow, hrest⟩ := get?_cons.mp h
    refine get?_cons.mpr ⟨below.update f rest, ?_, ih hrest⟩
    rw [link?_update_cons, if_pos rfl, hbelow, Option.map_some]

/-- What a change puts below the node at its address is found there. -/
theorem hasNode_update_append {f : Node π → Node π} {address back : List String} {m : Node π}
    (h : n.get? address = some m) (hback : (f m).HasNode back) :
    (n.update f address).HasNode (address ++ back) :=
  hasNode_append.mpr ⟨f m, get?_update_self h, hback⟩

end Node

/-! ### Trees that grow -/

namespace Node

variable {π : Type} {n n' : Node π}

/-- What later declarations leave of a node: its children, in front of any others, and its slot,
above some subtree. -/
structure Kept (m m' : Node π) : Prop where
  names : m.names <+: m'.names
  wild : ∀ slot subtree, m.wild = some (slot, subtree) →
    ∃ subtree', m'.wild = some (slot, subtree')

namespace Kept

/-- A node that is left alone is kept. -/
theorem refl (m : Node π) : m.Kept m :=
  ⟨List.prefix_refl m.names, fun _ subtree hwild => ⟨subtree, hwild⟩⟩

/-- What is kept by one change and then by another is kept by both. -/
theorem trans {m m' m'' : Node π} (h : m.Kept m') (h' : m'.Kept m'') : m.Kept m'' := by
  refine ⟨h.names.trans h'.names, ?_⟩
  intro slot subtree hwild
  obtain ⟨subtree', hwild'⟩ := h.wild slot subtree hwild
  exact h'.wild slot subtree' hwild'

/-- A new child goes behind the others and leaves the slot. -/
theorem addChild (m : Node π) (name : String) : m.Kept (m.addChild name) := by
  obtain ⟨children, wild⟩ := m
  refine ⟨?_, fun _ subtree hwild => ⟨subtree, hwild⟩⟩
  show children.map Prod.fst <+: (children ++ [(name, leaf)]).map Prod.fst
  rw [List.map_append]
  exact List.prefix_append _ _

/-- A new slot leaves the children. -/
theorem setWild {m : Node π} (hwild : m.wild = none) (slot : WildSlot π) :
    m.Kept (m.setWild slot) := by
  obtain ⟨children, wild⟩ := m
  refine ⟨List.prefix_refl _, ?_⟩
  intro old subtree hold
  rw [hwild] at hold
  cases hold

/-- A change further below keeps the node: its names and its slot stay. -/
theorem update (f : Node π → Node π) (first : String) (rest : List String) (m : Node π) :
    m.Kept (m.update f (first :: rest)) := by
  obtain ⟨children, wild⟩ := m
  by_cases hfirst : first = wildcard
  · rw [Node.update, if_pos hfirst]
    refine ⟨List.prefix_refl _, ?_⟩
    intro slot subtree hwild
    refine ⟨subtree.update f rest, ?_⟩
    show wild.map _ = _
    rw [show wild = some (slot, subtree) from hwild, Option.map_some]
  · rw [Node.update, if_neg hfirst]
    refine ⟨?_, fun _ subtree hwild => ⟨subtree, hwild⟩⟩
    show children.map Prod.fst <+: (updateEntry first (Node.update f rest) children).map Prod.fst
    exact ⟨[], by rw [List.append_nil, map_fst_updateEntry]⟩

end Kept

/-- Whether every node of a tree is kept at its address in another tree. -/
def GrowsInto (n n' : Node π) : Prop :=
  ∀ address m, n.get? address = some m → ∃ m', n'.get? address = some m' ∧ m.Kept m'

namespace GrowsInto

/-- A tree that is left alone has grown into itself. -/
theorem refl (n : Node π) : n.GrowsInto n :=
  fun _ m hm => ⟨m, hm, .refl m⟩

/-- Growing twice is growing. -/
theorem trans {n'' : Node π} (h : n.GrowsInto n') (h' : n'.GrowsInto n'') : n.GrowsInto n'' := by
  intro address m hm
  obtain ⟨m', hm', hkept⟩ := h address m hm
  obtain ⟨m'', hm'', hkept'⟩ := h' address m' hm'
  exact ⟨m'', hm'', hkept.trans hkept'⟩

/-- A node that is kept with every link grows. -/
theorem of_links (hkept : n.Kept n')
    (hlinks : ∀ key below, n.link? key = some below → n'.link? key = some below) :
    n.GrowsInto n' := by
  intro address m hm
  cases address with
  | nil =>
    cases hm
    exact ⟨n', rfl, hkept⟩
  | cons key rest =>
    obtain ⟨below, hbelow, hrest⟩ := get?_cons.mp hm
    exact ⟨m, get?_cons.mpr ⟨below, hlinks key below hbelow, hrest⟩, .refl m⟩

/-- A new child lets a tree grow. -/
theorem addChild (n : Node π) (name : String) : n.GrowsInto (n.addChild name) :=
  .of_links (.addChild n name) fun _ _ => link?_addChild name

/-- A new slot lets a tree grow. -/
theorem setWild (hwild : n.wild = none) (slot : WildSlot π) : n.GrowsInto (n.setWild slot) :=
  .of_links (.setWild hwild slot) fun _ _ => link?_setWild hwild slot

/-- A tree grows if the node at one address grows. The induction is on this address: the nodes on
the way to it are kept, and those beside it do not change. -/
theorem update {f : Node π → Node π} {changed : List String}
    (hf : ∀ m, n.get? changed = some m → m.GrowsInto (f m)) :
    n.GrowsInto (n.update f changed) := by
  induction changed generalizing n with
  | nil => exact hf n rfl
  | cons first rest ih =>
    intro address m hm
    cases address with
    | nil =>
      cases hm
      exact ⟨_, rfl, .update f first rest n⟩
    | cons key tail =>
      obtain ⟨below, hbelow, htail⟩ := get?_cons.mp hm
      by_cases hkey : key = first
      · -- The change is below this key, and so is the node.
        subst hkey
        have hgrows : below.GrowsInto (below.update f rest) :=
          ih fun m hm => hf m (get?_cons.mpr ⟨below, hbelow, hm⟩)
        obtain ⟨m', hm', hkept⟩ := hgrows tail m htail
        refine ⟨m', get?_cons.mpr ⟨below.update f rest, ?_, hm'⟩, hkept⟩
        rw [link?_update_cons, if_pos rfl, hbelow, Option.map_some]
      · refine ⟨m, get?_cons.mpr ⟨below, ?_, htail⟩, .refl m⟩
        rw [link?_update_cons, if_neg hkey, hbelow]

/-- A node keeps its address while a tree grows. -/
theorem hasNode (h : n.GrowsInto n') {address : List String} (ha : n.HasNode address) :
    n'.HasNode address := by
  obtain ⟨m, hm⟩ := ha
  obtain ⟨m', hm', -⟩ := h address m hm
  exact ⟨m', hm'⟩

end GrowsInto

end Node

/-! ### Single steps -/

namespace Grammar

variable {g : Grammar} {address : Address}

/-- A child of a node is the node behind its name. -/
theorem childAt?_isSome_iff {name : String} (hname : name ≠ wildcard) :
    (g.childAt? address name).isSome = true ↔ g.node.HasNode (address ++ [name]) := by
  rw [Node.hasNode_append, childAt?, Option.isSome_iff_exists]
  simp only [Option.bind_eq_some_iff, Node.hasNode_cons, Node.link?, if_neg hname]
  constructor
  · rintro ⟨below, m, hm, hlookup⟩
    exact ⟨m, hm, below, hlookup, Node.hasNode_nil below⟩
  · rintro ⟨m, hm, below, hlookup, -⟩
    exact ⟨below, m, hm, hlookup⟩

/-- Declaring a name takes nothing away. -/
theorem growsInto_add (g : Grammar) (address : Address) (name : String) :
    g.node.GrowsInto (g.add address name).1.node := by
  rcases g.add_cases address name with ⟨e, heq⟩ | ⟨-, -, heq⟩ | ⟨-, -, -, heq⟩
  · rw [heq]
    exact .refl _
  · rw [heq]
    exact .refl _
  · rw [heq]
    exact .update fun m _ => .addChild m name

/-- Declaring a chain of names takes nothing away, also where it stops half-way. -/
theorem growsInto_addChain (g : Grammar) (address : Address) (names : List String) :
    g.node.GrowsInto (g.addChain address names).1.node :=
  addChain_preserves (P := fun g' => g.node.GrowsInto g'.node)
    (fun a n h => h.trans (growsInto_add _ a n)) (.refl _) address names

/-- A slot is added only to a node that had none, so no subtree is lost. -/
theorem growsInto_addWild (g : Grammar) (address : Address) (aliases : List String)
    (constraint : Option Constraint) :
    g.node.GrowsInto (g.addWild address aliases constraint).1.node := by
  rcases g.addWild_cases address aliases constraint with ⟨e, heq⟩ | ⟨slot, -, -, hwild, heq⟩
  · rw [heq]
    exact .refl _
  · rw [heq]
    refine .update fun m hm => .setWild ?_ slot
    rwa [hm, Option.bind_some] at hwild

/-- No declaration step takes anything away or puts anything else in its place. -/
theorem growsInto_declare (g : Grammar) (address : Address) (d : Declaration) :
    g.node.GrowsInto (g.declare address d).1.node := by
  cases d with
  | child name => exact growsInto_add g address name
  | chain path => exact growsInto_addChain g address _
  | wild aliases constraint => exact growsInto_addWild g address aliases constraint

/-- What every step leaves behind: the nodes that were there are there, and so is the node that the
step hands out. -/
structure Keeps (g : Grammar) (result : Grammar × Except ArgumentError Address) : Prop where
  hasNode : ∀ a, g.node.HasNode a → result.1.node.HasNode a
  handedOut : ∀ below, result.2 = .ok below → result.1.node.HasNode below

namespace Keeps

/-- Declaring a name keeps all nodes and hands out one that is there. -/
theorem add (h : g.node.HasNode address) (name : String) : g.Keeps (g.add address name) := by
  refine ⟨fun a => (growsInto_add g address name).hasNode, ?_⟩
  rcases g.add_cases address name with ⟨e, heq⟩ | ⟨htoken, hchild, heq⟩ | ⟨htoken, -, -, heq⟩
  · rw [heq]
    rintro below ⟨⟩
  · rw [heq]
    rintro below ⟨⟩
    exact (childAt?_isSome_iff (ne_wildcard_of_isToken htoken)).mp hchild
  · rw [heq]
    obtain ⟨m, hm⟩ := h
    rintro below ⟨⟩
    exact Node.hasNode_update_append hm (m.hasNode_addChild (ne_wildcard_of_isToken htoken))

/-- A chain is a run of single steps, each below the node that the one before handed out. -/
theorem addChain (h : g.node.HasNode address) (names : List String) :
    g.Keeps (g.addChain address names) := by
  refine ⟨fun a => (growsInto_addChain g address names).hasNode, ?_⟩
  induction names generalizing g address with
  | nil =>
    rintro below ⟨⟩
    exact h
  | cons name rest ih =>
    have hstep : g.Keeps (g.add address name) := add h name
    rw [Grammar.addChain]
    split
    · next g' below heq =>
      rw [heq] at hstep
      exact ih (hstep.handedOut below rfl)
    · next g' e heq => rintro below ⟨⟩

/-- Declaring a slot keeps all nodes and hands out one that is there. -/
theorem addWild (h : g.node.HasNode address) (aliases : List String)
    (constraint : Option Constraint) : g.Keeps (g.addWild address aliases constraint) := by
  refine ⟨fun a => (growsInto_addWild g address aliases constraint).hasNode, ?_⟩
  rcases g.addWild_cases address aliases constraint with ⟨e, heq⟩ | ⟨slot, -, -, -, heq⟩
  · rw [heq]
    rintro below ⟨⟩
  · rw [heq]
    obtain ⟨m, hm⟩ := h
    rintro below ⟨⟩
    exact Node.hasNode_update_append hm (m.hasNode_setWild slot)

/-- No step takes a node away, and each hands out a node that is there. -/
theorem declare (h : g.node.HasNode address) (d : Declaration) :
    g.Keeps (g.declare address d) := by
  cases d with
  | child name => exact add h name
  | chain path => exact addChain h _
  | wild aliases constraint => exact addWild h aliases constraint

end Keeps

/-! ### Histories of calls -/

/-- The nodes that callers hold after a step with the given outcome. -/
def handles (held : List Address) : Except ArgumentError Address → List Address
  | .ok below => held ++ [below]
  | .error _ => held

/-- A run of declaration calls. Each call works on a node that is held by then, and one that
succeeds hands out another. The run leads from the first grammar and what was held there to the
second. -/
inductive Calls : Grammar → List Address → Grammar → List Address → Prop
  | refl (g : Grammar) (held : List Address) : Calls g held g held
  | step {g g' : Grammar} {held held' : List Address} (h : Calls g held g' held')
    {address : Address} (hmem : address ∈ held') (d : Declaration) :
    Calls g held (g'.declare address d).1 (handles held' (g'.declare address d).2)

/-- A grammar and the nodes of it that callers hold: the root at first, and then whatever their
calls hand out, before the grammar is sealed and afterwards. -/
inductive Held : Grammar → List Address → Prop
  | root {name : String} {g : Grammar} (h : Grammar.ofRoot name = .ok g) : Held g [[]]
  | described {d : GrammarDescription} {g : Grammar} (hd : d.node.NamesDistinct)
    (h : Grammar.ofDescription d = .ok g) : Held g [[]]
  | calls {g g' : Grammar} {held held' : List Address} (h : Held g held)
    (hcalls : Calls g held g' held') : Held g' held'
  | finish {g : Grammar} {held : List Address} (h : Held g held) : Held g.finish held

variable {g' : Grammar} {held held' : List Address}

/-- A node that is held stays held. -/
theorem mem_handles_of_mem (h : address ∈ held) (outcome : Except ArgumentError Address) :
    address ∈ handles held outcome := by
  cases outcome with
  | error e => exact h
  | ok below => exact List.mem_append_left [below] h

/-- There is a node at every address that is held after a step. -/
theorem Keeps.hasNode_of_mem_handles {result : Grammar × Except ArgumentError Address}
    (h : g.Keeps result) (hheld : ∀ a ∈ held, g.node.HasNode a) :
    ∀ a ∈ handles held result.2, result.1.node.HasNode a := by
  intro a ha
  cases houtcome : result.2 with
  | error e =>
    rw [houtcome] at ha
    exact h.hasNode a (hheld a ha)
  | ok below =>
    rw [houtcome, handles, List.mem_append, List.mem_singleton] at ha
    rcases ha with ha | rfl
    · exact h.hasNode a (hheld a ha)
    · exact h.handedOut a houtcome

/-- What every step on a node that is held preserves, every run of calls preserves. -/
theorem Calls.preserves {P : Grammar → List Address → Prop}
    (hstep : ∀ {g held address} (d : Declaration), P g held → address ∈ held →
      P (g.declare address d).1 (handles held (g.declare address d).2))
    (hcalls : Calls g held g' held') (h : P g held) : P g' held' := by
  induction hcalls with
  | refl => exact h
  | step _ hmem d ih => exact hstep d (ih h) hmem

/-- A grammar that callers hold was built by declarations. -/
theorem Held.built (h : Held g held) : g.Built := by
  induction h with
  | root h => exact .root h
  | described hd h => exact .described hd h
  | calls _ hcalls ih =>
    exact hcalls.preserves (P := fun g _ => g.Built) (fun d hg _ => hg.declare _ d) ih
  | finish _ ih => exact ih.finish

/-- There is a node at every address that is held. -/
theorem Held.hasNode (h : Held g held) : ∀ address ∈ held, g.node.HasNode address := by
  induction h with
  | root | described =>
    intro address hmem
    rw [List.mem_singleton.mp hmem]
    exact Node.hasNode_nil _
  | calls _ hcalls ih =>
    refine hcalls.preserves (P := fun g held => ∀ address ∈ held, g.node.HasNode address) ?_ ih
    intro g held address d hheld hmem
    exact (Keeps.declare (hheld address hmem) d).hasNode_of_mem_handles hheld
  | finish _ ih => exact ih

end Grammar

end AccessScopes
