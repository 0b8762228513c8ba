import AccessScopes.Proofs.Cursor.Reach
import AccessScopes.Proofs.Grammar.Declaring
import Mathlib.Data.List.Induction

/-!
# `AccessScopes.Proofs.Grammar.Arrangement`: grammars while they are declared

Callers declare a grammar piece by piece. They work on any node that they hold, in any order, and
they may go on after a call that failed. Whatever they do, the grammar only grows, and its nodes
stay in order.

* `Grammar.Calls.growsInto`: no run of calls takes anything away.
* `Grammar.Chain` follows the links from the root. `Grammar.chain_iff` compares the chains with the
  addresses, and `Grammar.Arranged.of_wellFormed` draws the conclusions for the walk.
* `Grammar.addChain_eq_error` says where a chain fails and what it leaves behind: all that stands
  before the first name that is no token.
* `Grammar.InProgress` is the invariant of all runs of calls on an open root, and
  `Grammar.calls_keep_arranged` says what follows from it.
-/

set_option autoImplicit false

namespace AccessScopes

namespace Grammar

variable {g g' : Grammar} {address : Address} {held held' : List Address}

/-- No run of calls takes anything away. -/
theorem Calls.growsInto (hcalls : Calls g held g' held') : g.node.GrowsInto g'.node :=
  hcalls.preserves (P := fun g' _ => g.node.GrowsInto g'.node)
    (fun d h _ => h.trans (growsInto_declare _ _ d)) (.refl _)

/-! ### Chains of links -/

/-- The chains of links from the root, with the keys on the way and the place at the end. A link
leads to a child, under its name, or to the subtree of a slot. -/
inductive Chain (g : Grammar) : List String → Place → Prop
  | root : g.Chain [] g.rootPlace
  | child {keys : List String} {p q : Place} (h : g.Chain keys p) (hq : q ∈ p.children) :
    g.Chain (keys ++ [q.name]) q
  | subtree {keys : List String} {p q : Place} (h : g.Chain keys p) (hq : p.subtree? = some q) :
    g.Chain (keys ++ [wildcard]) q

/-- The place at a longer address is one key below the place at the shorter one. -/
theorem place?_concat (g : Grammar) (keys : List String) (key : String) :
    g.place? (keys ++ [key]) = (g.place? keys).bind (·.below? key) := by
  unfold place?
  rw [Node.get?_append]
  cases g.node.get? keys with
  | none => rfl
  | some n =>
    show (n.get? [key]).map _ = (n.link? key).map _
    cases hlink : n.link? key with
    | none => simp [Node.get?, hlink]
    | some below => simp [Node.get?, hlink]

/-- Every place of a well-formed grammar has a well-formed node. -/
theorem wellFormed_of_place? (hg : g.node.WellFormed) {keys : List String} {p : Place}
    (hp : g.place? keys = some p) : p.node.WellFormed :=
  hg.of_get? (place?_eq_some_iff.mp hp).1

/-- The keys of a chain are the address of its end. No node has two links under one key, so this is
the only chain with these keys. -/
theorem chain_iff (hg : g.node.WellFormed) {keys : List String} {p : Place} :
    g.Chain keys p ↔ g.place? keys = some p := by
  constructor
  · intro h
    induction h with
    | root => rfl
    | @child keys p q _ hq ih =>
      obtain ⟨key, -, hbelow⟩ := (Place.mem_children_iff (wellFormed_of_place? hg ih)).mp hq
      rw [place?_concat, ih, Option.bind_some, Place.name_of_below? hbelow, hbelow]
    | subtree _ hq ih => rw [place?_concat, ih, Option.bind_some, Place.below?_wildcard, hq]
  · intro h
    induction keys using List.reverseRecOn generalizing p with
    | nil =>
      cases h
      exact .root
    | append_singleton front key ih =>
      rw [place?_concat] at h
      obtain ⟨above, habove, hbelow⟩ := Option.bind_eq_some_iff.mp h
      -- The last link leads to the subtree of a slot or to a child.
      by_cases hkey : key = wildcard
      · subst hkey
        rw [Place.below?_wildcard] at hbelow
        exact .subtree (ih habove) hbelow
      · have hmem : p ∈ above.children :=
          (Place.mem_children_iff (wellFormed_of_place? hg habove)).mpr ⟨key, hkey, hbelow⟩
        rw [← Place.name_of_below? hbelow]
        exact .child (ih habove) hmem

/-- The walk visits the ends of all chains. -/
theorem mem_walk_iff_chain (hg : g.node.WellFormed) {p : Place} :
    p ∈ g.walk ↔ ∃ keys, g.Chain keys p := by
  simp only [chain_iff hg, place?_eq_some_iff]
  rw [walk, List.mem_map]
  constructor
  · rintro ⟨⟨path, n⟩, hmem, rfl⟩
    obtain ⟨keys, hget, rfl⟩ := (Node.mem_walk_iff hg).mp hmem
    exact ⟨keys, hget, rfl⟩
  · rintro ⟨keys, hget, hpath⟩
    exact ⟨(p.path, p.node), (Node.mem_walk_iff hg).mpr ⟨keys, hget, hpath⟩, rfl⟩

/-- What holds of the nodes of a grammar and the links between them:

- `one_chain`: exactly one chain of links leads to each node that the walk visits;
- `one_node`: a chain leads to a node that the walk visits, and to no other;
- `walk_once`: the walk visits no node twice;
- `children`: a child is found under its own name, which is a token;
- `slots`: the aliases of a slot are tokens, none of them twice, and its subtree is named by the
  wildcard. -/
structure Arranged (g : Grammar) : Prop where
  one_chain : ∀ p ∈ g.walk, ∃! keys, g.Chain keys p
  one_node : ∀ keys p, g.Chain keys p → p ∈ g.walk ∧ ∀ q, g.Chain keys q → q = p
  walk_once : (g.walk.map Place.path).Nodup
  children : ∀ p ∈ g.walk, ∀ q ∈ p.children, isToken q.name = true ∧ p.child? q.name = some q
  slots : ∀ p ∈ g.walk, ∀ slot subtree, p.node.wild = some (slot, subtree) →
    (∀ a ∈ slot.aliases, isToken a = true) ∧ slot.aliases.Nodup
      ∧ ∃ q, p.subtree? = some q ∧ q.node = subtree ∧ q.name = wildcard

/-- A grammar with a well-formed tree is arranged. -/
theorem Arranged.of_wellFormed (hg : g.node.WellFormed) : g.Arranged where
  one_chain := by
    intro p hp
    obtain ⟨keys, hkeys⟩ := (mem_walk_iff_chain hg).mp hp
    refine ⟨keys, hkeys, ?_⟩
    intro keys' hkeys'
    -- The path of the place holds the keys of every chain to it.
    have hpath := (place?_eq_some_iff.mp ((chain_iff hg).mp hkeys)).2
    have hpath' := (place?_eq_some_iff.mp ((chain_iff hg).mp hkeys')).2
    exact (List.cons.inj (hpath'.symm.trans hpath)).2
  one_node := by
    intro keys p hp
    refine ⟨(mem_walk_iff_chain hg).mpr ⟨keys, hp⟩, ?_⟩
    intro q hq
    exact Option.some.inj (((chain_iff hg).mp hq).symm.trans ((chain_iff hg).mp hp))
  walk_once := (perm_map_path_walk g).nodup_iff.mpr (Node.nodup_paths hg [g.root])
  children := by
    intro p hp q hq
    obtain ⟨keys, hkeys⟩ := (mem_walk_iff_chain hg).mp hp
    have hwf : p.node.WellFormed := wellFormed_of_place? hg ((chain_iff hg).mp hkeys)
    obtain ⟨key, hkey, hbelow⟩ := (Place.mem_children_iff hwf).mp hq
    rw [Place.name_of_below? hbelow]
    rw [Place.below?_of_ne_wildcard hkey] at hbelow
    refine ⟨?_, hbelow⟩
    obtain ⟨m, hlookup, -⟩ := Option.map_eq_some_iff.mp hbelow
    exact hwf.names.names_token key (List.mem_map_of_mem (Node.mem_of_lookup hlookup))
  slots := by
    intro p hp slot subtree hwild
    obtain ⟨keys, hkeys⟩ := (mem_walk_iff_chain hg).mp hp
    have hwf : p.node.WellFormed := wellFormed_of_place? hg ((chain_iff hg).mp hkeys)
    refine ⟨hwf.names.aliases_token _ hwild, hwf.names.aliases_nodup _ hwild,
      ⟨p.path ++ [wildcard], subtree⟩, Place.subtree?_of_wild hwild, rfl, ?_⟩
    rw [Place.name, List.getLastD_concat]

/-! ### Failing calls -/

/-- A child that is refused changes nothing. -/
theorem eq_of_add_eq_error {name : String} {e : ArgumentError}
    (h : g.add address name = (g', .error e)) : g' = g := by
  rcases g.add_cases address name with ⟨e', heq⟩ | ⟨-, -, heq⟩ | ⟨-, -, -, heq⟩
  · rw [heq] at h
    exact (Prod.ext_iff.mp h).1.symm
  · rw [heq] at h
    cases h
  · rw [heq] at h
    cases h

/-- A slot that is refused changes nothing, whichever of the checks refuses it. -/
theorem eq_of_addWild_eq_error {aliases : List String} {constraint : Option Constraint}
    {e : ArgumentError} (h : g.addWild address aliases constraint = (g', .error e)) : g' = g := by
  rcases g.addWild_cases address aliases constraint with ⟨e', heq⟩ | ⟨slot, -, -, -, heq⟩
  · rw [heq] at h
    exact (Prod.ext_iff.mp h).1.symm
  · rw [heq] at h
    cases h

/-- An open grammar takes every token for a child. -/
theorem add_of_token (hopen : g.isSealed = false) {name : String} (htoken : isToken name = true)
    (address : Address) : (g.add address name).2 = .ok (address ++ [name]) := by
  unfold add checkName
  simp only [htoken, if_true, hopen, Bool.false_eq_true, if_false]
  split <;> rfl

/-- No grammar takes anything else for a child. -/
theorem add_of_not_token {name : String} (htoken : isToken name = false) (g : Grammar)
    (address : Address) : g.add address name = (g, .error (.invalidName name)) := by
  simp [add, checkName, htoken]

/-- A chain of tokens can be declared in an open grammar. -/
theorem addChain_of_tokens (hopen : g.isSealed = false) {names : List String}
    (htoken : ∀ name ∈ names, isToken name = true) (address : Address) :
    (g.addChain address names).2 = .ok (address ++ names) := by
  induction names generalizing g address with
  | nil => rw [List.append_nil]; rfl
  | cons name rest ih =>
    obtain ⟨hname, hrest⟩ := List.forall_mem_cons.mp htoken
    have hok := add_of_token hopen hname address
    have hstays := (frame_add g address name).2
    -- The rest is declared in the grammar behind the first name, which is open too.
    rw [addChain]
    split
    · next g' below heq =>
      rw [heq] at hok hstays
      cases hok
      have hopen' : g'.isSealed = false := hstays.trans hopen
      rw [ih hopen' hrest, List.append_assoc, List.singleton_append]
    · next g' e heq =>
      rw [heq] at hok
      cases hok

/-- A chain that fails in an open grammar stops at the first name that is no token. The names before
it are declared. -/
theorem addChain_eq_error (hopen : g.isSealed = false) {names : List String} {e : ArgumentError}
    (h : g.addChain address names = (g', .error e)) :
    ∃ front bad rest, names = front ++ bad :: rest ∧ (∀ name ∈ front, isToken name = true)
      ∧ isToken bad = false ∧ e = .invalidName bad
      ∧ g.addChain address front = (g', .ok (address ++ front)) := by
  induction names generalizing g address with
  | nil => cases h
  | cons name rest ih =>
    rw [addChain] at h
    cases htoken : isToken name with
    | false =>
      -- The chain stops before its first name, so nothing is declared.
      rw [add_of_not_token htoken] at h
      cases h
      exact ⟨[], name, rest, rfl, by simp, htoken, rfl, by rw [List.append_nil]; rfl⟩
    | true =>
      have hok := add_of_token hopen htoken address
      have hstays := (frame_add g address name).2
      cases hstep : g.add address name with
      | mk g₁ outcome =>
        rw [hstep] at hok hstays h
        obtain rfl : outcome = .ok (address ++ [name]) := hok
        -- The chain goes on below the child, in a grammar that is still open.
        obtain ⟨front, bad, back, rfl, hfront, hbad, he, hleft⟩ := ih (hstays.trans hopen) h
        refine ⟨name :: front, bad, back, rfl, List.forall_mem_cons.mpr ⟨htoken, hfront⟩, hbad, he,
          ?_⟩
        rw [addChain, hstep]
        show g₁.addChain (address ++ [name]) front = _
        rw [hleft, List.append_assoc, List.singleton_append]

/-! ### Runs of calls -/

/-- A grammar that is being declared, and the nodes of it that callers hold. -/
structure InProgress (g : Grammar) (held : List Address) : Prop where
  isOpen : g.isSealed = false
  wellFormed : g.node.WellFormed
  hasNode : ∀ address ∈ held, g.node.HasNode address

/-- A grammar begins as a root alone, which callers hold. -/
theorem inProgress_root (root : String) : InProgress ⟨root, .leaf, false⟩ [[]] where
  isOpen := rfl
  wellFormed := .leaf
  hasNode := by
    intro address hmem
    rw [List.mem_singleton.mp hmem]
    exact Node.hasNode_nil _

namespace InProgress

/-- A step keeps a declaration in progress, whether it succeeds or fails. -/
theorem declare (h : InProgress g held) (hmem : address ∈ held) (d : Declaration) :
    InProgress (g.declare address d).1 (handles held (g.declare address d).2) where
  isOpen := (frame_declare g address d).2.trans h.isOpen
  wellFormed := wellFormed_declare h.wellFormed address d
  hasNode := (Keeps.declare (h.hasNode address hmem) d).hasNode_of_mem_handles h.hasNode

/-- A run of calls keeps a declaration in progress. -/
theorem calls (h : InProgress g held) (hcalls : Calls g held g' held') : InProgress g' held' :=
  hcalls.preserves (fun d h hmem => h.declare hmem d) h

end InProgress

/-- Whatever is called, a grammar stays in order. Take any run of declaration calls, successful or
not, on an open root and the nodes that the calls hand out. All nodes that are held are nodes of the
grammar, and these are arranged: one chain of links leads to each. Further calls keep every node
with its children and its slot. A child or a slot that is refused changes nothing. A chain that is
refused leaves what the names before the first one that is no token declare. -/
theorem calls_keep_arranged {root : String} (hcalls : Calls ⟨root, .leaf, false⟩ [[]] g held) :
    g.Arranged ∧ (∀ address ∈ held, ∃ p ∈ g.walk, g.Chain address p)
      ∧ (∀ g' held', Calls g held g' held' → g.node.GrowsInto g'.node)
      ∧ ∀ address ∈ held,
        (∀ name g' e, g.declare address (.child name) = (g', .error e) → g' = g)
        ∧ (∀ aliases constraint g' e,
          g.declare address (.wild aliases constraint) = (g', .error e) → g' = g)
        ∧ ∀ path g' e, g.declare address (.chain path) = (g', .error e) → ∃ front bad rest,
          Text.split separator path = front ++ bad :: rest
          ∧ (∀ name ∈ front, isToken name = true) ∧ isToken bad = false ∧ e = .invalidName bad
          ∧ g.addChain address front = (g', .ok (address ++ front)) := by
  have h : InProgress g held := (inProgress_root root).calls hcalls
  refine ⟨.of_wellFormed h.wellFormed, ?_, fun g' held' hmore => hmore.growsInto, ?_⟩
  · intro address hmem
    obtain ⟨m, hm⟩ := h.hasNode address hmem
    have hchain : g.Chain address ⟨g.root :: address, m⟩ :=
      (chain_iff h.wellFormed).mpr (place?_eq_some_iff.mpr ⟨hm, rfl⟩)
    exact ⟨_, (mem_walk_iff_chain h.wellFormed).mpr ⟨address, hchain⟩, hchain⟩
  · intro address _
    exact ⟨fun name g' e => eq_of_add_eq_error, fun aliases constraint g' e =>
      eq_of_addWild_eq_error, fun path g' e => addChain_eq_error h.isOpen⟩

/-- Below a slot of the root, the chain `read.(x).more` is refused at `(x)` and leaves `read`. -/
theorem calls_keep_arranged_half_way :
    ∃ g held g', Calls ⟨"api", .leaf, false⟩ [[]] g held ∧ ["*"] ∈ held ∧ g.Arranged
      ∧ g.declare ["*"] (.chain "read.(x).more") = (g', .error (.invalidName "(x)"))
      ∧ g.addChain ["*"] ["read"] = (g', .ok ["*", "read"]) ∧ g'.Arranged
      ∧ g.node.GrowsInto g'.node := by
  let start : Grammar := ⟨"api", .leaf, false⟩
  let slotted : Grammar := (start.declare [] (.wild ["own"] none)).1
  let left : Grammar := (slotted.declare ["*"] (.chain "read.(x).more")).1
  have hslot := Calls.step (.refl start [[]]) (show ([] : Address) ∈ [[]] by decide)
    (.wild ["own"] none)
  have hmem : ["*"] ∈ handles [[]] (start.declare [] (.wild ["own"] none)).2 := by
    decide +kernel
  have hchain := Calls.step hslot hmem (.chain "read.(x).more")
  have hrefused : slotted.declare ["*"] (.chain "read.(x).more")
      = (left, .error (.invalidName "(x)")) := by
    refine Prod.ext rfl ?_
    show (slotted.declare ["*"] (.chain "read.(x).more")).2 = .error (.invalidName "(x)")
    decide +kernel
  obtain ⟨harranged, -, hgrows, hfails⟩ := calls_keep_arranged hslot
  obtain ⟨front, bad, rest, hsplit, hfront, hbad, he, hleft⟩ :=
    (hfails ["*"] hmem).2.2 "read.(x).more" left _ hrefused
  obtain rfl : "(x)" = bad := by
    cases he
    rfl
  -- Only `read` stands before the name that is refused.
  have hnames : Text.split separator "read.(x).more" = ["read", "(x)", "more"] := by
    decide +kernel
  rw [hnames] at hsplit
  obtain rfl : front = ["read"] := by
    rcases front with - | ⟨first, - | ⟨second, front⟩⟩
    · simp at hsplit
    · obtain ⟨rfl, -⟩ := List.cons.inj hsplit
      rfl
    · obtain ⟨-, htail⟩ := List.cons.inj hsplit
      obtain ⟨rfl, -⟩ := List.cons.inj htail
      have htoken : isToken "(x)" = true := hfront "(x)" (by simp)
      rw [hbad] at htoken
      cases htoken
  exact ⟨slotted, _, left, hslot, hmem, harranged, hrefused, hleft,
    (calls_keep_arranged hchain).1, hgrows _ _ (.step (.refl _ _) hmem _)⟩

end Grammar

end AccessScopes
