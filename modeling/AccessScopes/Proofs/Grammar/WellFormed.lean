import AccessScopes.Description.Basic
import AccessScopes.Proofs.Grammar.Written
import AccessScopes.Proofs.Outcome

/-!
# `AccessScopes.Proofs.Grammar.WellFormed`: the grammars that can be built

A grammar comes from a root by declaration steps, or from a description. Neither way lets in a
name that is no token, and neither gives a node two children of one name. `WellFormed` says this
of a node and of all nodes below it.

* `Node.WellFormed.update`: changing one node keeps a tree well-formed if it keeps that node so.
* `Grammar.add_cases` and `Grammar.addWild_cases` say all that a single declaration step can do, and
  `Grammar.addChain_preserves` carries what single steps preserve over to chains.
* `Grammar.WellFormed.declare`: a declaration step keeps a grammar well-formed, whether it succeeds
  or fails.
* `Grammar.Built` collects both ways to build a grammar, and `Grammar.Built.wellFormed` is the
  invariant of all of them.
-/

set_option autoImplicit false

namespace AccessScopes

/-! ### Well-formed nodes -/

namespace Node

variable {π ρ : Type}

/-- What holds of the names and aliases at one node: all are tokens, and none stands twice. -/
structure NamesOk (n : Node π) : Prop where
  names_token : ∀ name ∈ n.names, isToken name = true
  names_nodup : n.names.Nodup
  aliases_token : ∀ w, n.wild = some w → ∀ a ∈ w.1.aliases, isToken a = true
  aliases_nodup : ∀ w, n.wild = some w → w.1.aliases.Nodup

/-- A node with proper names, above nodes of the same kind. -/
inductive WellFormed : Node π → Prop
  | mk {n : Node π} (names : n.NamesOk) (children : ∀ child ∈ n.children, child.2.WellFormed)
      (subtree : ∀ w, n.wild = some w → w.2.WellFormed) : n.WellFormed

namespace WellFormed

variable {n : Node π}

/-- The names at a well-formed node are in order. -/
theorem names (h : n.WellFormed) : n.NamesOk := by
  cases h with
  | mk names _ _ => exact names

/-- The children of a well-formed node are well-formed. -/
theorem child (h : n.WellFormed) {c : String × Node π} (hc : c ∈ n.children) :
    c.2.WellFormed := by
  cases h with
  | mk _ children _ => exact children c hc

/-- The subtree of the slot of a well-formed node is well-formed. -/
theorem subtree (h : n.WellFormed) {w : WildSlot π × Node π} (hw : n.wild = some w) :
    w.2.WellFormed := by
  cases h with
  | mk _ _ subtree => exact subtree w hw

/-- A leaf is well-formed. -/
theorem leaf : (Node.leaf : Node π).WellFormed := by
  refine ⟨⟨?_, ?_, ?_, ?_⟩, ?_, ?_⟩ <;>
    simp [Node.leaf, Node.names, Node.children, Node.wild]

/-- A new child under a token keeps a node well-formed. -/
theorem addChild (h : n.WellFormed) {name : String} (htoken : isToken name = true)
    (hnew : name ∉ n.names) : (n.addChild name).WellFormed := by
  obtain ⟨children, wild⟩ := n
  refine ⟨⟨?_, ?_, h.names.aliases_token, h.names.aliases_nodup⟩, ?_, fun w hw => h.subtree hw⟩
  · intro other hother
    simp only [Node.addChild, Node.names, Node.children, List.map_append, List.map_cons,
      List.map_nil, List.mem_append, List.mem_singleton] at hother
    rcases hother with hother | rfl
    · exact h.names.names_token other hother
    · exact htoken
  · simp only [Node.addChild, Node.names, Node.children, List.map_append, List.map_cons,
      List.map_nil]
    -- The new name stands behind the others, and is none of them.
    refine List.nodup_append.mpr ⟨h.names.names_nodup, by simp, ?_⟩
    intro other hother last hlast heq
    rw [List.mem_singleton] at hlast
    exact hnew (hlast ▸ heq ▸ hother)
  · intro c hc
    simp only [Node.addChild, Node.children, List.mem_append, List.mem_singleton] at hc
    rcases hc with hc | rfl
    · exact h.child hc
    · exact leaf

/-- A wild slot with proper aliases keeps a node well-formed. -/
theorem setWild (h : n.WellFormed) {slot : WildSlot π}
    (htoken : ∀ a ∈ slot.aliases, isToken a = true) (hnodup : slot.aliases.Nodup) :
    (n.setWild slot).WellFormed := by
  obtain ⟨children, wild⟩ := n
  refine ⟨⟨h.names.names_token, h.names.names_nodup, ?_, ?_⟩, fun c hc => h.child hc, ?_⟩
  · rintro w ⟨⟩
    exact htoken
  · rintro w ⟨⟩
    exact hnodup
  · rintro w ⟨⟩
    exact leaf

end WellFormed

/-! ### Changing one node -/

/-- A change of an entry keeps all names in their places. -/
theorem map_fst_updateEntry {α : Type} (name : String) (f : α → α) (entries : List (String × α)) :
    (updateEntry name f entries).map Prod.fst = entries.map Prod.fst := by
  induction entries with
  | nil => rfl
  | cons entry rest ih =>
    obtain ⟨k, v⟩ := entry
    by_cases h : k = name
    · simp [updateEntry, h]
    · simp [updateEntry, h, ih]

/-- An entry after a change was there before, or it is the one that was changed. -/
theorem mem_updateEntry {α : Type} {name : String} {f : α → α} {entries : List (String × α)}
    {entry : String × α} (h : entry ∈ updateEntry name f entries) :
    entry ∈ entries ∨ ∃ v, entries.lookup name = some v ∧ entry.2 = f v := by
  induction entries with
  | nil => exact absurd h List.not_mem_nil
  | cons first rest ih =>
    obtain ⟨k, v⟩ := first
    by_cases hk : k = name
    · -- Only the first entry of the name changes, which is the one that is looked up.
      subst hk
      simp only [updateEntry, if_true, List.mem_cons] at h
      rcases h with rfl | h
      · exact Or.inr ⟨v, by simp, rfl⟩
      · exact Or.inl (List.mem_cons_of_mem _ h)
    · have hlookup : ((k, v) :: rest).lookup name = rest.lookup name := by
        have hb : (name == k) = false := by simpa using fun e => hk e.symm
        rw [List.lookup_cons, hb]
      simp only [updateEntry, hk, if_false, List.mem_cons] at h
      rcases h with rfl | h
      · exact Or.inl List.mem_cons_self
      · rw [hlookup]
        exact (ih h).imp_left (List.mem_cons_of_mem _)

/-- A value that is found under a name stands with it. -/
theorem mem_of_lookup {α : Type} {name : String} {entries : List (String × α)} {v : α}
    (h : entries.lookup name = some v) : (name, v) ∈ entries := by
  induction entries with
  | nil => simp at h
  | cons first rest ih =>
    obtain ⟨k, u⟩ := first
    rw [List.lookup_cons] at h
    split at h
    · next hb =>
      cases h
      rw [beq_iff_eq.mp hb]
      exact List.mem_cons_self
    · exact List.mem_cons_of_mem _ (ih h)

/-- Where no name stands twice, each value is found under its name. -/
theorem lookup_of_mem {α : Type} {name : String} {entries : List (String × α)} {v : α}
    (hnodup : (entries.map Prod.fst).Nodup) (h : (name, v) ∈ entries) :
    entries.lookup name = some v := by
  induction entries with
  | nil => exact absurd h List.not_mem_nil
  | cons first rest ih =>
    obtain ⟨k, u⟩ := first
    rw [List.map_cons, List.nodup_cons] at hnodup
    rcases List.mem_cons.mp h with heq | hmem
    · cases heq
      simp
    · -- The name stands further behind, so the first entry has another one.
      have hne : (name == k) = false := by
        rw [beq_eq_false_iff_ne]
        rintro rfl
        exact hnodup.1 (List.mem_map.mpr ⟨_, hmem, rfl⟩)
      rw [List.lookup_cons, hne]
      exact ih hnodup.2 hmem

/-- A change at an address keeps a tree well-formed if it keeps the node there well-formed. The
induction is on the address: on the way to it only one entry of each node changes. -/
theorem WellFormed.update {f : Node π → Node π} {address : List String} {n : Node π}
    (h : n.WellFormed) (hf : ∀ m, n.get? address = some m → m.WellFormed → (f m).WellFormed) :
    (n.update f address).WellFormed := by
  induction address generalizing n with
  | nil => exact hf n rfl h
  | cons key rest ih =>
    obtain ⟨children, wild⟩ := n
    by_cases hkey : key = wildcard
    · -- The change is below the slot, whose aliases stay.
      simp only [Node.update, hkey, if_true]
      refine ⟨⟨h.names.names_token, h.names.names_nodup, ?_, ?_⟩, fun c hc => h.child hc, ?_⟩
      · intro w hw
        obtain ⟨old, hold, rfl⟩ := Option.map_eq_some_iff.mp hw
        exact h.names.aliases_token old hold
      · intro w hw
        obtain ⟨old, hold, rfl⟩ := Option.map_eq_some_iff.mp hw
        exact h.names.aliases_nodup old hold
      · intro w hw
        obtain ⟨old, hold, rfl⟩ := Option.map_eq_some_iff.mp hw
        refine ih (h.subtree hold) fun m hm => hf m ?_
        simp only [get?, link?, hkey, if_true, Node.wild, hold, Option.map_some,
          Option.bind_some, hm]
    · -- The change is below a child, and all names stay.
      simp only [Node.update, hkey, if_false]
      refine ⟨⟨?_, ?_, h.names.aliases_token, h.names.aliases_nodup⟩, ?_,
        fun w hw => h.subtree hw⟩
      · simpa only [Node.names, Node.children, map_fst_updateEntry] using h.names.names_token
      · simpa only [Node.names, Node.children, map_fst_updateEntry] using h.names.names_nodup
      · intro c hc
        rcases mem_updateEntry hc with hc | ⟨below, hlookup, hc⟩
        · exact h.child hc
        · rw [hc]
          refine ih (h.child (mem_of_lookup hlookup)) fun m hm => hf m ?_
          simp only [get?, link?, hkey, if_false, Node.children, hlookup, Option.bind_some, hm]

end Node

/-! ### Declaration steps -/

/-- The aliases of a slot that was declared are different tokens. -/
theorem WildSlot.aliases_of_declare {aliases : List String} {constraint : Option Constraint}
    {slot : WildSlot Pattern} (h : WildSlot.declare aliases constraint = .ok slot) :
    (∀ a ∈ slot.aliases, isToken a = true) ∧ slot.aliases.Nodup := by
  unfold WildSlot.declare at h
  obtain ⟨_, hcheck, h⟩ := bind_eq_ok_iff.mp h
  obtain ⟨pattern, -, h⟩ := bind_eq_ok_iff.mp h
  obtain rfl : ⟨distinct aliases, pattern⟩ = slot := Except.ok.inj h
  refine ⟨fun a ha => ?_, nodup_distinct aliases⟩
  exact checkName_eq_ok_iff.mp (forM_eq_ok_iff.mp hcheck a (mem_distinct.mp ha))

namespace Grammar

variable {g : Grammar}

/-- All that a step which declares a child can do: it fails, or it gives back a child that exists,
or it adds one. -/
theorem add_cases (g : Grammar) (address : Address) (name : String) :
    (∃ e, g.add address name = (g, .error e))
      ∨ (isToken name = true ∧ (g.childAt? address name).isSome = true
        ∧ g.add address name = (g, .ok (address ++ [name])))
      ∨ (isToken name = true ∧ g.childAt? address name = none ∧ g.isSealed = false
        ∧ g.add address name = ({ g with node := g.node.update (Node.addChild name) address },
          .ok (address ++ [name]))) := by
  unfold add
  split
  · next e _ => exact Or.inl ⟨e, rfl⟩
  · next hcheck =>
    have htoken : isToken name = true := checkName_eq_ok_iff.mp hcheck
    split
    · next hchild => exact Or.inr (Or.inl ⟨htoken, hchild, rfl⟩)
    · next hchild =>
      split
      · exact Or.inl ⟨_, rfl⟩
      · next hopen => exact Or.inr (Or.inr ⟨htoken, by simpa using hchild, by simpa using hopen, rfl⟩)

/-- All that a step which declares a wild slot can do: it fails, or it adds the slot to a node that
has none. -/
theorem addWild_cases (g : Grammar) (address : Address) (aliases : List String)
    (constraint : Option Constraint) :
    (∃ e, g.addWild address aliases constraint = (g, .error e))
      ∨ ∃ slot, WildSlot.declare aliases constraint = .ok slot ∧ g.isSealed = false
        ∧ (g.node.get? address).bind Node.wild = none
        ∧ g.addWild address aliases constraint
          = ({ g with node := g.node.update (Node.setWild slot) address },
            .ok (address ++ [wildcard])) := by
  unfold addWild
  split
  · exact Or.inl ⟨_, rfl⟩
  · next hopen =>
    split
    · exact Or.inl ⟨_, rfl⟩
    · next hwild =>
      split
      · next e _ => exact Or.inl ⟨e, rfl⟩
      · next slot hslot =>
        exact Or.inr ⟨slot, hslot, by simpa using hopen, by simpa using hwild, rfl⟩

/-- What every single step below a node preserves, a chain of them preserves, wherever it stops. -/
theorem addChain_preserves {P : Grammar → Prop}
    (hstep : ∀ {g : Grammar} (address : Address) (name : String), P g → P (g.add address name).1)
    (h : P g) (address : Address) (names : List String) : P (g.addChain address names).1 := by
  induction names generalizing g address with
  | nil => exact h
  | cons name rest ih =>
    have hadd : P (g.add address name).1 := hstep address name h
    rw [addChain]
    split
    · next g' below heq =>
      rw [heq] at hadd
      exact ih hadd below
    · next g' e heq =>
      rw [heq] at hadd
      exact hadd

/-- Declaring a name keeps a tree well-formed, whether it succeeds or fails. -/
theorem wellFormed_add (h : g.node.WellFormed) (address : Address) (name : String) :
    (g.add address name).1.node.WellFormed := by
  rcases g.add_cases address name with ⟨e, heq⟩ | ⟨-, -, heq⟩ | ⟨htoken, hchild, -, heq⟩
  · rw [heq]
    exact h
  · rw [heq]
    exact h
  · rw [heq]
    refine h.update fun m hm hwf => hwf.addChild htoken fun hmem => ?_
    -- The step adds a child only where none of that name exists.
    rw [childAt?, hm, Option.bind_some, List.lookup_eq_none_iff] at hchild
    obtain ⟨c, hc, hname⟩ := List.mem_map.mp hmem
    simpa [hname] using hchild c hc

/-- Declaring a chain of names keeps a tree well-formed, also where it stops half-way. -/
theorem wellFormed_addChain (h : g.node.WellFormed) (address : Address) (names : List String) :
    (g.addChain address names).1.node.WellFormed :=
  addChain_preserves (P := fun g => g.node.WellFormed) (fun a n h => wellFormed_add h a n) h
    address names

/-- Declaring a slot keeps a tree well-formed, whether it succeeds or fails. -/
theorem wellFormed_addWild (h : g.node.WellFormed) (address : Address) (aliases : List String)
    (constraint : Option Constraint) :
    (g.addWild address aliases constraint).1.node.WellFormed := by
  rcases g.addWild_cases address aliases constraint with ⟨e, heq⟩ | ⟨slot, hslot, -, -, heq⟩
  · rw [heq]
    exact h
  · rw [heq]
    obtain ⟨htoken, hnodup⟩ := WildSlot.aliases_of_declare hslot
    exact h.update fun m _ hwf => hwf.setWild htoken hnodup

/-- A declaration step keeps all nodes well-formed, also where it fails. -/
theorem wellFormed_declare (h : g.node.WellFormed) (address : Address) (d : Declaration) :
    (g.declare address d).1.node.WellFormed := by
  cases d with
  | child name => exact wellFormed_add h address name
  | chain path => exact wellFormed_addChain h address _
  | wild aliases constraint => exact wellFormed_addWild h address aliases constraint

/-- A single step changes the nodes only. -/
theorem frame_add (g : Grammar) (address : Address) (name : String) :
    (g.add address name).1.root = g.root ∧ (g.add address name).1.isSealed = g.isSealed := by
  rcases g.add_cases address name with ⟨e, heq⟩ | ⟨-, -, heq⟩ | ⟨-, -, -, heq⟩ <;> rw [heq] <;>
    exact ⟨rfl, rfl⟩

/-- Declaring a chain of names touches neither the root nor the seal. -/
theorem frame_addChain (g : Grammar) (address : Address) (names : List String) :
    (g.addChain address names).1.root = g.root
      ∧ (g.addChain address names).1.isSealed = g.isSealed := by
  refine addChain_preserves (P := fun g' => g'.root = g.root ∧ g'.isSealed = g.isSealed) ?_
    ⟨rfl, rfl⟩ address names
  intro g' a name h
  obtain ⟨hroot, hsealed⟩ := frame_add g' a name
  exact ⟨hroot.trans h.1, hsealed.trans h.2⟩

/-- No declaration step changes the root or seals the grammar. -/
theorem frame_declare (g : Grammar) (address : Address) (d : Declaration) :
    (g.declare address d).1.root = g.root ∧ (g.declare address d).1.isSealed = g.isSealed := by
  cases d with
  | child name => exact frame_add g address name
  | chain path => exact frame_addChain g address _
  | wild aliases constraint =>
    rw [declare]
    rcases g.addWild_cases address aliases constraint with ⟨e, heq⟩ | ⟨slot, -, -, -, heq⟩ <;>
      rw [heq] <;> exact ⟨rfl, rfl⟩

/-- A grammar under a token whose nodes are all well-formed. -/
structure WellFormed (g : Grammar) : Prop where
  root_token : isToken g.root = true
  node : g.node.WellFormed

/-- A declaration step keeps a grammar well-formed. -/
theorem WellFormed.declare (h : g.WellFormed) (address : Address) (d : Declaration) :
    (g.declare address d).1.WellFormed := by
  refine ⟨?_, wellFormed_declare h.node address d⟩
  rw [(g.frame_declare address d).1]
  exact h.root_token

end Grammar

/-! ### Descriptions -/

/-- A tree in which no node has two children of one name. Tables of a description have no name
twice, so all described trees are of this kind. -/
inductive Node.NamesDistinct {π : Type} : Node π → Prop
  | mk {n : Node π} (names : n.names.Nodup)
      (children : ∀ child ∈ n.children, child.2.NamesDistinct)
      (subtree : ∀ w, n.wild = some w → w.2.NamesDistinct) : n.NamesDistinct

/-- The children that are described have the described names, all of them tokens. -/
theorem Node.names_of_childrenOfDescription {children : List (String × Node String)}
    {described : List (String × Node Pattern)}
    (h : childrenOfDescription children = .ok described) :
    described.map Prod.fst = children.map Prod.fst
      ∧ (∀ name ∈ described.map Prod.fst, isToken name = true)
      ∧ ∀ c ∈ described, ∃ d ∈ children, Node.ofDescription d.2 = .ok c.2 := by
  induction children generalizing described with
  | nil =>
    obtain rfl : [] = described := Except.ok.inj h
    simp
  | cons first rest ih =>
    obtain ⟨name, child⟩ := first
    -- Three things may fail, in this order: the name, the tree below it, the other children.
    rw [childrenOfDescription] at h
    obtain ⟨_, hname, h⟩ := bind_eq_ok_iff.mp h
    obtain ⟨below, hbelow, h⟩ := bind_eq_ok_iff.mp h
    obtain ⟨others, hothers, h⟩ := bind_eq_ok_iff.mp h
    obtain rfl : (name, below) :: others = described := Except.ok.inj h
    obtain ⟨hnames, htoken, hchildren⟩ := ih hothers
    refine ⟨by rw [List.map_cons, List.map_cons, hnames], ?_, ?_⟩
    · rw [List.map_cons, List.forall_mem_cons]
      exact ⟨checkName_eq_ok_iff.mp hname, htoken⟩
    · intro c hc
      rcases List.mem_cons.mp hc with rfl | hc
      · exact ⟨(name, child), List.mem_cons_self, hbelow⟩
      · obtain ⟨d, hd, hdescribed⟩ := hchildren c hc
        exact ⟨d, List.mem_cons_of_mem _ hd, hdescribed⟩

/-- The slot that is described has proper aliases, above the described subtree. -/
theorem Node.aliases_of_wildOfDescription {wild : Option (WildSlot String × Node String)}
    {described : Option (WildSlot Pattern × Node Pattern)}
    (h : wildOfDescription wild = .ok described) :
    ∀ w, described = some w → (∀ a ∈ w.1.aliases, isToken a = true) ∧ w.1.aliases.Nodup
      ∧ ∃ d, wild = some d ∧ Node.ofDescription d.2 = .ok w.2 := by
  intro w hw
  subst hw
  cases wild with
  | none => cases h
  | some d =>
    obtain ⟨slot, subtree⟩ := d
    rw [wildOfDescription] at h
    obtain ⟨declared, hdeclared, h⟩ := bind_eq_ok_iff.mp h
    obtain ⟨below, hbelow, h⟩ := bind_eq_ok_iff.mp h
    obtain rfl : (declared, below) = w := Option.some.inj (Except.ok.inj h)
    obtain ⟨htoken, hnodup⟩ := WildSlot.aliases_of_declare hdeclared
    exact ⟨htoken, hnodup, (slot, subtree), rfl, hbelow⟩

/-- A tree that is built from a description is well-formed, if no node is described with two
children of one name. -/
theorem Node.WellFormed.ofDescription {d : Node String} {n : Node Pattern}
    (hd : d.NamesDistinct) (h : Node.ofDescription d = .ok n) : n.WellFormed := by
  induction d using Node.induction generalizing n with
  | mk children wild ihChildren ihWild =>
    obtain ⟨hnodup, hchildren, hsubtree⟩ := hd
    rw [Node.ofDescription] at h
    obtain ⟨described, hdescribed, h⟩ := bind_eq_ok_iff.mp h
    obtain ⟨slot, hslot, h⟩ := bind_eq_ok_iff.mp h
    obtain rfl : Node.mk described slot = n := Except.ok.inj h
    obtain ⟨hnames, htoken, hbelow⟩ := Node.names_of_childrenOfDescription hdescribed
    have hwild := Node.aliases_of_wildOfDescription hslot
    refine ⟨⟨htoken, ?_, fun w hw => (hwild w hw).1, fun w hw => (hwild w hw).2.1⟩, ?_, ?_⟩
    -- No check looks for a name that is there twice; the table that is described has none.
    · show (described.map Prod.fst).Nodup
      rw [hnames]
      exact hnodup
    · intro c hc
      obtain ⟨child, hchild, hok⟩ := hbelow c hc
      exact ihChildren child hchild (hchildren child hchild) hok
    · intro w hw
      obtain ⟨_, _, below, hbelow, hok⟩ := hwild w hw
      exact ihWild below hbelow (hsubtree below hbelow) hok

/-! ### All grammars -/

/-- The grammars that can be built: from a root by any steps, those that fail included, or from a
description. -/
inductive Grammar.Built : Grammar → Prop
  | root {name : String} {g : Grammar} (h : Grammar.ofRoot name = .ok g) : g.Built
  | declare {g : Grammar} (h : g.Built) (address : Address) (d : Declaration) :
    (g.declare address d).1.Built
  | finish {g : Grammar} (h : g.Built) : g.finish.Built
  | described {d : GrammarDescription} {g : Grammar} (hd : d.node.NamesDistinct)
    (h : Grammar.ofDescription d = .ok g) : g.Built

/-- Every grammar that can be built is well-formed. -/
theorem Grammar.Built.wellFormed {g : Grammar} (h : g.Built) : g.WellFormed := by
  induction h with
  | root h =>
    obtain ⟨_, hname, h⟩ := bind_eq_ok_iff.mp h
    cases h
    exact ⟨checkName_eq_ok_iff.mp hname, Node.WellFormed.leaf⟩
  | declare _ address d ih => exact ih.declare address d
  | finish _ ih => exact ⟨ih.root_token, ih.node⟩
  | described hd h =>
    obtain ⟨_, hname, h⟩ := bind_eq_ok_iff.mp h
    obtain ⟨node, hnode, h⟩ := bind_eq_ok_iff.mp h
    cases h
    exact ⟨checkName_eq_ok_iff.mp hname, Node.WellFormed.ofDescription hd hnode⟩

end AccessScopes
