import AccessScopes.Proofs.Description.Checks

/-!
# `AccessScopes.Proofs.Description.Describable`: descriptions that are accepted

A tree of texts is written down as a value and checked again. The check gives back the same tree,
if it accepts the value at all: the limits of a description are tighter than those of a grammar, in
which names may be of any length.

* `Node.Describable`: the names, aliases and patterns of a tree keep within the limits.
* `checkNode_nodeValue_iff` and `checkGrammar_toValue_iff`: what is written is accepted exactly if
  it is describable, and what is read is what was written.
* `Grammar.ofDescription_of_describable`: a grammar can be built from every describable tree in
  which no node has two children of one name.
-/

set_option autoImplicit false

namespace AccessScopes

open Description

/-- Whether a text can be a name in a description: a token within the bounds for names. -/
def Description.IsName (s : String) : Prop :=
  isToken s = true ∧ nameBounds.Admit s

/-- Whether the aliases and the pattern of a slot keep within the limits. -/
structure WildSlot.Describable (slot : WildSlot String) : Prop where
  aliases_name : ∀ a ∈ slot.aliases, IsName a
  aliases_nodup : slot.aliases.Nodup
  aliases_few : slot.aliases.length ≤ aliasLimit
  pattern : ∀ source, slot.constraint = some source →
    patternBounds.Admit source ∧ Pattern.Readable source

namespace Node

/-- A tree of texts that keeps within the limits. -/
inductive Describable : Node String → Prop
  | mk {n : Node String} (names : ∀ name ∈ n.names, IsName name)
      (slot : ∀ w, n.wild = some w → w.1.Describable)
      (children : ∀ child ∈ n.children, child.2.Describable)
      (subtree : ∀ w, n.wild = some w → w.2.Describable) : n.Describable

variable {n : Node String}

/-- A describable tree in which no node has two children of one name is well-formed. -/
theorem Describable.wellFormed (h : n.Describable) (hdistinct : n.NamesDistinct) :
    n.WellFormed := by
  induction n using Node.induction with
  | mk children wild ihChildren ihWild =>
    obtain ⟨hnames, hslot, hchildren, hsubtree⟩ := h
    obtain ⟨hnodup, hchildDistinct, hsubtreeDistinct⟩ := hdistinct
    exact ⟨⟨fun name hname => (hnames name hname).1, hnodup,
      fun w hw a ha => ((hslot w hw).aliases_name a ha).1, fun w hw => (hslot w hw).aliases_nodup⟩,
      fun c hc => ihChildren c hc (hchildren c hc) (hchildDistinct c hc),
      fun w hw => ihWild w hw (hsubtree w hw) (hsubtreeDistinct w hw)⟩

/-- All patterns of a describable tree can be read. -/
theorem Describable.readable (h : n.Describable) : n.AllConstraints Pattern.Readable := by
  induction n using Node.induction with
  | mk children wild ihChildren ihWild =>
    obtain ⟨-, hslot, hchildren, hsubtree⟩ := h
    exact ⟨fun w x hw hx => ((hslot w hw).pattern x hx).2,
      fun c hc => ihChildren c hc (hchildren c hc), fun w hw => ihWild w hw (hsubtree w hw)⟩

end Node

namespace Description

/-! ### Contents of fields -/

/-- Aliases are a list of different names, and not too many of them. -/
theorem refine_refuseAliases_eq_ok_iff {v : Value} {aliases : List String} :
    (checkTexts nameBounds (some aliasLimit) v).refine refuseAliases = .ok aliases
      ↔ (v = .list (aliases.map .text) ∨ v = .tuple (aliases.map .text))
        ∧ aliases.length ≤ aliasLimit ∧ (∀ a ∈ aliases, IsName a) ∧ aliases.Nodup := by
  rw [Checked.refine_eq_ok, checkTexts_eq_ok_iff, refuseAliases_eq_none_iff]
  simp only [Option.some.injEq, forall_eq', IsName]
  constructor
  · rintro ⟨⟨hv, hfew, hbounds⟩, htoken, hnodup⟩
    exact ⟨hv, hfew, fun a ha => ⟨htoken a ha, hbounds a ha⟩, hnodup⟩
  · rintro ⟨hv, hfew, hname, hnodup⟩
    exact ⟨⟨hv, hfew, fun a ha => (hname a ha).2⟩, fun a ha => (hname a ha).1, hnodup⟩

/-! ### What is written -/

variable {n : Node String} {slot : WildSlot String}

/-- Children are written as entries of a table, in their order. -/
theorem childValues_eq (children : List (String × Node String)) :
    childValues children
      = children.map fun c => (Value.text c.1, Value.table (nodeValue c.2)) := by
  induction children with
  | nil => rw [childValues, List.map_nil]
  | cons c rest ih => rw [childValues, List.map_cons, ih]

/-- The fields that describe a slot besides those of its subtree. -/
def slotFields (slot : WildSlot String) : List (Value × Value) :=
  [(.text "aliases", .list (slot.aliases.map .text)),
    (.text "pattern", (slot.constraint.map Value.text).getD .null)]

/-- A node is written as its children and, if it has one, its slot. -/
theorem nodeValue_eq (n : Node String) :
    nodeValue n = (.text "children", .table (childValues n.children)) :: (n.wild.map fun w =>
      (Value.text "any", Value.table (nodeValue w.2 ++ slotFields w.1))).toList := by
  obtain ⟨children, wild⟩ := n
  cases wild with
  | none => rw [nodeValue, wildValue]; rfl
  | some w => rw [nodeValue, wildValue]; rfl

/-- A node is written with the fields of a node. -/
theorem known_nodeValue (n : Node String) :
    ∀ f ∈ nodeValue n, ∃ key ∈ nodeFields, f.1 = .text key := by
  rw [nodeValue_eq]
  cases n.wild with
  | none => simp [nodeFields]
  | some w => simp [nodeFields]

/-- The fields of a slot that is written are known ones. -/
theorem known_slotFields (n : Node String) (slot : WildSlot String) :
    ∀ f ∈ nodeValue n ++ slotFields slot, ∃ key ∈ wildFields, f.1 = .text key := by
  intro f hf
  rcases List.mem_append.mp hf with hf | hf
  · obtain ⟨key, hkey, heq⟩ := known_nodeValue n f hf
    exact ⟨key, List.mem_append_left _ hkey, heq⟩
  · rcases List.mem_pair.mp hf with rfl | rfl
    · exact ⟨"aliases", by decide, rfl⟩
    · exact ⟨"pattern", by decide, rfl⟩

/-- The value of a field is found in front, or else behind. -/
theorem field?_append (name : String) (front back : List (Value × Value)) :
    field? name (front ++ back) = (field? name front).or (field? name back) := by
  induction front with
  | nil => rfl
  | cons first rest ih =>
    obtain ⟨key, value⟩ := first
    cases key with
    | text k =>
      rw [List.cons_append, field?, field?, ih]
      split
      · rfl
      · rfl
    | _ => exact ih

/-- The children of a node are found where they were written. -/
theorem field?_children_nodeValue (n : Node String) :
    field? "children" (nodeValue n) = some (.table (childValues n.children)) := by
  rw [nodeValue_eq, field?, if_pos rfl]

/-- The slot of a node is found where it was written. -/
theorem field?_any_nodeValue (n : Node String) :
    field? "any" (nodeValue n)
      = n.wild.map fun w => .table (nodeValue w.2 ++ slotFields w.1) := by
  rw [nodeValue_eq, field?, if_neg (by decide)]
  cases n.wild with
  | none => rfl
  | some w => simp [field?]

/-- A node has no other fields than those of a node. So those of a slot do not clash with them. -/
theorem field?_slot_nodeValue {name : String} (h : name ∉ nodeFields) (n : Node String) :
    field? name (nodeValue n) = none := by
  simp only [nodeFields, List.mem_cons, List.not_mem_nil, or_false, not_or] at h
  rw [nodeValue_eq, field?, if_neg (Ne.symm h.1)]
  cases n.wild with
  | none => rfl
  | some w => simp [field?, Ne.symm h.2]

/-- The aliases and the pattern of a slot are read as they are written, within the limits. -/
theorem checkSlot_slotFields_iff {slot' : WildSlot String} :
    (checkAliases (nodeValue n ++ slotFields slot) = .ok slot'.aliases
        ∧ checkPattern (nodeValue n ++ slotFields slot) = .ok slot'.constraint)
      ↔ slot.Describable ∧ slot' = slot := by
  have haliases : field? "aliases" (nodeValue n ++ slotFields slot)
      = some (.list (slot.aliases.map .text)) := by
    rw [field?_append, field?_slot_nodeValue (by decide)]
    simp [slotFields, field?]
  have hpattern : field? "pattern" (nodeValue n ++ slotFields slot)
      = some ((slot.constraint.map Value.text).getD .null) := by
    rw [field?_append, field?_slot_nodeValue (by decide)]
    simp [slotFields, field?]
  -- A pattern that is left out is written as the missing value, which no text is.
  have hsame : ∀ a b : Option String,
      (a.map Value.text).getD .null = (b.map Value.text).getD .null ↔ a = b := by
    intro a b
    cases a <;> cases b <;> simp
  obtain ⟨aliases', constraint'⟩ := slot'
  obtain ⟨aliases, constraint⟩ := slot
  simp only [checkAliases, checkPattern, optionalField, haliases, hpattern, Checked.under_eq_ok,
    refine_refuseAliases_eq_ok_iff, checkPatternValue_eq_ok_iff, hsame, Value.list.injEq,
    reduceCtorEq, or_false, WildSlot.mk.injEq]
  have hmap : aliases.map Value.text = aliases'.map Value.text ↔ aliases = aliases' :=
    List.map_inj_right fun a b h => Value.text.inj h
  rw [hmap]
  constructor
  · rintro ⟨⟨rfl, hfew, hname, hnodup⟩, rfl, hread⟩
    exact ⟨⟨hname, hnodup, hfew, hread⟩, rfl, rfl⟩
  · rintro ⟨hslot, rfl, rfl⟩
    exact ⟨⟨rfl, hslot.aliases_few, hslot.aliases_name, hslot.aliases_nodup⟩, rfl, hslot.pattern⟩

/-- The entries of written children are read as they were, one by one. -/
theorem childEntries_childValues_iff {children children' : List (String × Node String)}
    (h : ∀ c ∈ children, ∀ m, checkNode (.table (nodeValue c.2)) = .ok m
      ↔ c.2.Describable ∧ m = c.2) :
    List.Forall₂ (fun (e : Value × Value) (c : String × Node String) =>
        e.1 = .text c.1 ∧ nameBounds.Admit c.1 ∧ checkNode e.2 = .ok c.2)
      (childValues children) children'
        ↔ (∀ c ∈ children, nameBounds.Admit c.1 ∧ c.2.Describable) ∧ children' = children := by
  rw [childValues_eq]
  induction children generalizing children' with
  | nil => simp
  | cons c rest ih =>
    obtain ⟨hc, hrest⟩ := List.forall_mem_cons.mp h
    rw [List.map_cons, List.forall₂_cons_left_iff, List.forall_mem_cons]
    constructor
    · rintro ⟨⟨name, child⟩, others, ⟨hname, hbounds, hchild⟩, hothers, rfl⟩
      obtain ⟨hdescribable, rfl⟩ := (hc child).mp hchild
      obtain ⟨hall, rfl⟩ := (ih hrest).mp hothers
      cases hname
      exact ⟨⟨⟨hbounds, hdescribable⟩, hall⟩, rfl⟩
    · rintro ⟨⟨⟨hbounds, hdescribable⟩, hall⟩, rfl⟩
      exact ⟨c, rest, ⟨rfl, hbounds, (hc c.2).mpr ⟨hdescribable, rfl⟩⟩,
        (ih hrest).mpr ⟨hall, rfl⟩, rfl⟩

/-- Written children are accepted exactly if their names are names and the children themselves are
accepted. -/
theorem checkChildTable_childValues_iff {children children' : List (String × Node String)}
    (h : ∀ c ∈ children, ∀ m, checkNode (.table (nodeValue c.2)) = .ok m
      ↔ c.2.Describable ∧ m = c.2) :
    checkChildTable (.table (childValues children)) = .ok children'
      ↔ (∀ c ∈ children, IsName c.1 ∧ c.2.Describable) ∧ children' = children := by
  rw [checkChildTable_eq_ok_iff]
  simp only [Value.table.injEq, exists_eq_left', childEntries_childValues_iff h]
  -- Whether the names are tokens is checked in the result, which is the list of children itself.
  constructor
  · rintro ⟨⟨hall, rfl⟩, htoken⟩
    exact ⟨fun c hc => ⟨⟨htoken c hc, (hall c hc).1⟩, (hall c hc).2⟩, rfl⟩
  · rintro ⟨hall, rfl⟩
    exact ⟨⟨fun c hc => ⟨(hall c hc).1.2, (hall c hc).2⟩, rfl⟩, fun c hc => (hall c hc).1.1⟩

/-- A node is read as it is written, if its parts are. -/
theorem checkNode_nodeValue_of_parts
    (h : ∀ children' wild',
      (optionalField "children" [] checkChildTable (nodeValue n) = .ok children'
        ∧ optionalField "any" none checkAnyValue (nodeValue n) = .ok wild')
      ↔ n.Describable ∧ children' = n.children ∧ wild' = n.wild) (n' : Node String) :
    checkNode (.table (nodeValue n)) = .ok n' ↔ n.Describable ∧ n' = n := by
  obtain ⟨children, wild⟩ := n
  obtain ⟨children', wild'⟩ := n'
  rw [checkNode_eq_ok_iff]
  simp only [Value.table.injEq, exists_eq_left', Node.mk.injEq]
  constructor
  · rintro ⟨hchildren, hwild, -⟩
    exact (h children' wild').mp ⟨hchildren, hwild⟩
  · intro hsame
    obtain ⟨hchildren, hwild⟩ := (h children' wild').mpr hsame
    exact ⟨hchildren, hwild, known_nodeValue _⟩

/-- A slot is read as it is written above its subtree, if the parts of the subtree are. -/
theorem checkWild_nodeValue_of_parts
    (h : ∀ children' wild',
      (optionalField "children" [] checkChildTable (nodeValue n ++ slotFields slot) = .ok children'
        ∧ optionalField "any" none checkAnyValue (nodeValue n ++ slotFields slot) = .ok wild')
      ↔ n.Describable ∧ children' = n.children ∧ wild' = n.wild)
    (w' : WildSlot String × Node String) :
    checkWild (.table (nodeValue n ++ slotFields slot)) = .ok w'
      ↔ (slot.Describable ∧ n.Describable) ∧ w' = (slot, n) := by
  obtain ⟨slot', ⟨children', wild'⟩⟩ := w'
  obtain ⟨children, wild⟩ := n
  rw [checkWild_eq_ok_iff]
  simp only [Value.table.injEq, exists_eq_left', Prod.mk.injEq, Node.mk.injEq]
  constructor
  · rintro ⟨hchildren, hwild, haliases, hpattern, -⟩
    obtain ⟨hnode, hsame⟩ := (h children' wild').mp ⟨hchildren, hwild⟩
    obtain ⟨hslot, rfl⟩ := checkSlot_slotFields_iff.mp ⟨haliases, hpattern⟩
    exact ⟨⟨hslot, hnode⟩, rfl, hsame⟩
  · rintro ⟨⟨hslot, hnode⟩, rfl, hsame⟩
    obtain ⟨hchildren, hwild⟩ := (h children' wild').mpr ⟨hnode, hsame⟩
    obtain ⟨haliases, hpattern⟩ := checkSlot_slotFields_iff.mpr ⟨hslot, rfl⟩
    exact ⟨hchildren, hwild, haliases, hpattern, known_slotFields _ slot'⟩

/-- The parts of a node are read as they are written, whatever other fields follow. The induction
is on the tree; below a slot the fields of the slot follow. -/
theorem checkParts_nodeValue_iff (extra : List (Value × Value))
    (hextra : field? "any" extra = none) (children' : List (String × Node String))
    (wild' : Option (WildSlot String × Node String)) :
    (optionalField "children" [] checkChildTable (nodeValue n ++ extra) = .ok children'
        ∧ optionalField "any" none checkAnyValue (nodeValue n ++ extra) = .ok wild')
      ↔ n.Describable ∧ children' = n.children ∧ wild' = n.wild := by
  induction n using Node.induction generalizing extra children' wild' with
  | mk children wild ihChildren ihWild =>
    have hchildren : optionalField "children" [] checkChildTable
        (nodeValue (.mk children wild) ++ extra) = .ok children'
          ↔ (∀ c ∈ children, IsName c.1 ∧ c.2.Describable) ∧ children' = children := by
      rw [optionalField, field?_append, field?_children_nodeValue, Option.some_or]
      show Checked.under _ _ = _ ↔ _
      rw [Checked.under_eq_ok]
      refine checkChildTable_childValues_iff fun c hc => checkNode_nodeValue_of_parts ?_
      simpa using ihChildren c hc [] rfl
    have hwild : optionalField "any" none checkAnyValue (nodeValue (.mk children wild) ++ extra)
        = .ok wild' ↔ (∀ w, wild = some w → w.1.Describable ∧ w.2.Describable)
          ∧ wild' = wild := by
      rw [optionalField, field?_append, field?_any_nodeValue, hextra, Option.or_none]
      cases wild with
      | none => simp [Node.wild, eq_comm]
      | some w =>
        obtain ⟨slot, subtree⟩ := w
        -- The fields of the slot hold no `any`, so that of its subtree is found.
        have hslot := checkWild_nodeValue_of_parts
          (ihWild _ rfl (slotFields slot) (by simp [slotFields, field?]))
        simp only [Node.wild, Option.map_some, Checked.under_eq_ok, checkAnyValue_eq_ok_iff,
          reduceCtorEq, false_and, false_or, hslot, Option.some.injEq, forall_eq']
        constructor
        · rintro ⟨w', rfl, hdescribable, rfl⟩
          exact ⟨hdescribable, rfl⟩
        · rintro ⟨hdescribable, rfl⟩
          exact ⟨_, rfl, hdescribable, rfl⟩
    rw [hchildren, hwild]
    constructor
    · rintro ⟨⟨hchild, rfl⟩, hslot, rfl⟩
      refine ⟨⟨?_, fun w hw => (hslot w hw).1, fun c hc => (hchild c hc).2,
        fun w hw => (hslot w hw).2⟩, rfl, rfl⟩
      intro name hname
      obtain ⟨c, hc, rfl⟩ := List.mem_map.mp hname
      exact (hchild c hc).1
    · rintro ⟨⟨hnames, hslot, hchild, hsubtree⟩, rfl, rfl⟩
      exact ⟨⟨fun c hc => ⟨hnames c.1 (List.mem_map_of_mem hc), hchild c hc⟩, rfl⟩,
        fun w hw => ⟨hslot w hw, hsubtree w hw⟩, rfl⟩

/-- A tree that is written down is accepted exactly if it is describable, and read as it was. -/
theorem checkNode_nodeValue_iff {n' : Node String} :
    checkNode (.table (nodeValue n)) = .ok n' ↔ n.Describable ∧ n' = n :=
  checkNode_nodeValue_of_parts (by simpa using checkParts_nodeValue_iff (n := n) [] rfl) n'

/-- A description that is written is accepted exactly if it is describable, and then read as it
was. -/
theorem checkGrammar_toValue_iff {d d' : GrammarDescription} :
    checkGrammar d.toValue = .ok d' ↔ (IsName d.root ∧ d.node.Describable) ∧ d' = d := by
  obtain ⟨root, node⟩ := d
  obtain ⟨root', node'⟩ := d'
  let fields : List (Value × Value) :=
    [(.text "root", .text root), (.text "grammar", .table (nodeValue node))]
  have hroot : field? "root" fields = some (.text root) := by simp [fields, field?]
  have hgrammar : field? "grammar" fields = some (.table (nodeValue node)) := by
    simp [fields, field?]
  have hnode : optionalField "grammar" .leaf checkNode fields = .ok node'
      ↔ node.Describable ∧ node' = node := by
    rw [optionalField, hgrammar]
    exact Checked.under_eq_ok.trans checkNode_nodeValue_iff
  have hknown : ∀ f ∈ fields, ∃ key ∈ ["root", "grammar"], f.1 = .text key := by
    simp [fields]
  rw [checkGrammar_eq_ok_iff]
  constructor
  · rintro ⟨_, hfields, hname, hbounds, htoken, hdescribed, -⟩
    obtain rfl : fields = _ := Value.table.inj hfields
    obtain ⟨hdescribable, rfl⟩ := hnode.mp hdescribed
    obtain rfl : root = root' := Value.text.inj (Option.some.inj (hroot.symm.trans hname))
    exact ⟨⟨⟨htoken, hbounds⟩, hdescribable⟩, rfl⟩
  · rintro ⟨⟨⟨htoken, hbounds⟩, hdescribable⟩, hsame⟩
    cases hsame
    exact ⟨fields, rfl, hroot, hbounds, htoken, hnode.mpr ⟨hdescribable, rfl⟩, hknown⟩

end Description

namespace Grammar

variable {d : GrammarDescription} {g : Grammar}

/-- A grammar is built from a value by checking it and then building what is described. -/
theorem ofValue_eq_ok_iff {v : Value} :
    Grammar.ofValue v = .ok g ↔ ∃ d, checkGrammar v = .ok d ∧ ofDescription d = .ok g := by
  rw [ofValue, bind_eq_ok_iff]
  simp only [liftChecked, liftArgument, mapError_eq_ok_iff]

/-- Every describable tree in which no node has two children of one name describes a grammar. -/
theorem ofDescription_of_describable (hroot : IsName d.root) (hnode : d.node.Describable)
    (hdistinct : d.node.NamesDistinct) :
    ofDescription d = .ok ⟨d.root, d.node.mapConstraint Pattern.reading, true⟩ :=
  (ofDescription_eq_ok_iff (hnode.wellFormed hdistinct)).mpr ⟨hroot.1, hnode.readable, rfl⟩

end Grammar

end AccessScopes
