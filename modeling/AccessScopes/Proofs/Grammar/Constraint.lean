import AccessScopes.Proofs.Grammar.Places

/-!
# `AccessScopes.Proofs.Grammar.Constraint`: trees with other constraints

`Node.mapConstraint` exchanges the constraints of a tree and nothing else. That is all that lies
between a grammar and its description: one has patterns where the other has their texts.

* `Node.children_mapConstraint`, `Node.wild_mapConstraint` and `Node.paths_mapConstraint`: names,
  aliases and paths stay.
* `Node.AllConstraints` says something of every constraint in a tree.
* `Node.ofDescription_eq_ok_iff`: the tree that is described has, in place of each text, the
  pattern that is read from it. There is such a tree exactly if all texts can be read.
* `Grammar.describe_of_ofDescription`: the grammar that is described has this description.
-/

set_option autoImplicit false

namespace AccessScopes

namespace Node

variable {π ρ σ : Type} {n : Node π} {f : π → ρ}

/-! ### What stays -/

/-- Children keep their names and their order under other constraints. -/
theorem mapChildren_eq (f : π → ρ) (children : List (String × Node π)) :
    mapChildren f children = children.map fun c => (c.1, c.2.mapConstraint f) := by
  induction children with
  | nil => rfl
  | cons c rest ih => rw [mapChildren, List.map_cons, ih]

/-- A slot keeps its aliases under other constraints. -/
theorem mapWild_eq (f : π → ρ) (wild : Option (WildSlot π × Node π)) :
    mapWild f wild
      = wild.map fun w => (⟨w.1.aliases, w.1.constraint.map f⟩, w.2.mapConstraint f) := by
  cases wild with
  | none => rfl
  | some w => rfl

/-- The children of a node under other constraints. -/
@[simp] theorem children_mapConstraint (f : π → ρ) (n : Node π) :
    (n.mapConstraint f).children = n.children.map fun c => (c.1, c.2.mapConstraint f) := by
  obtain ⟨children, wild⟩ := n
  exact mapChildren_eq f children

/-- The slot of a node under other constraints. -/
@[simp] theorem wild_mapConstraint (f : π → ρ) (n : Node π) :
    (n.mapConstraint f).wild
      = n.wild.map fun w => (⟨w.1.aliases, w.1.constraint.map f⟩, w.2.mapConstraint f) := by
  obtain ⟨children, wild⟩ := n
  exact mapWild_eq f wild

/-- The same for a slot that is known to be there. -/
theorem wild_mapConstraint_of_wild (f : π → ρ) {w : WildSlot π × Node π} (hw : n.wild = some w) :
    (n.mapConstraint f).wild
      = some (⟨w.1.aliases, w.1.constraint.map f⟩, w.2.mapConstraint f) := by
  rw [wild_mapConstraint, hw, Option.map_some]

/-- A node keeps the names of its children. -/
@[simp] theorem names_mapConstraint (f : π → ρ) (n : Node π) :
    (n.mapConstraint f).names = n.names := by
  simp [names, Function.comp_def]

/-- Looking up a name and changing the value may be done in either order. -/
theorem lookup_map {α β : Type} (f : α → β) (name : String) (entries : List (String × α)) :
    (entries.map fun c => (c.1, f c.2)).lookup name = (entries.lookup name).map f := by
  induction entries with
  | nil => rfl
  | cons entry rest ih =>
    rw [List.map_cons, List.lookup_cons, List.lookup_cons]
    split
    · rfl
    · exact ih

/-- Exchanging constraints twice is exchanging them once. -/
theorem mapConstraint_mapConstraint (f : π → ρ) (f' : ρ → σ) (n : Node π) :
    (n.mapConstraint f).mapConstraint f' = n.mapConstraint (f' ∘ f) := by
  induction n using Node.induction with
  | mk children wild ihChildren ihWild =>
    simp only [mapConstraint, mapChildren_eq, mapWild_eq, List.map_map, Option.map_map]
    congr 1
    · refine List.map_congr_left fun c hc => ?_
      rw [Function.comp_apply, ihChildren c hc]
    · refine Option.map_congr fun w hw => ?_
      rw [Function.comp_apply, ihWild w hw, Option.map_map]

/-- Each node stays at its address. -/
theorem get?_mapConstraint (f : π → ρ) (n : Node π) (address : List String) :
    (n.mapConstraint f).get? address = (n.get? address).map (mapConstraint f) := by
  induction address generalizing n with
  | nil => rfl
  | cons key rest ih =>
    have hlink : (n.mapConstraint f).link? key = (n.link? key).map (mapConstraint f) := by
      rw [link?, link?, wild_mapConstraint, children_mapConstraint, lookup_map, Option.map_map,
        apply_ite (Option.map (mapConstraint f)), Option.map_map]
      rfl
    rw [get?, get?, hlink, Option.bind_map, Option.map_bind]
    exact congrArg _ (funext fun below => ih below)

/-- A tree keeps its paths. -/
theorem paths_mapConstraint (f : π → ρ) (n : Node π) (path : List String) :
    (n.mapConstraint f).paths path = n.paths path := by
  induction n using Node.induction generalizing path with
  | mk children wild ihChildren ihWild =>
    rw [mapConstraint, paths, paths, childPaths_eq, childPaths_eq, mapChildren_eq]
    have hchildren : (children.map fun c => (c.1, c.2.mapConstraint f)).flatMap
        (fun c => c.2.paths (path ++ [c.1])) = children.flatMap
        fun c => c.2.paths (path ++ [c.1]) := by
      rw [List.flatMap_map]
      exact List.flatMap_congr fun c hc => ihChildren c hc _
    have hwild : wildPaths path (mapWild f wild) = wildPaths path wild := by
      cases wild with
      | none => rfl
      | some w => exact ihWild w rfl _
    rw [hchildren, hwild]

/-- A tree stays well-formed, as this is no matter of constraints. -/
theorem WellFormed.mapConstraint (h : n.WellFormed) (f : π → ρ) :
    (n.mapConstraint f).WellFormed := by
  induction n using Node.induction with
  | mk children wild ihChildren ihWild =>
    -- Names and aliases are the old ones; what is below was exchanged too.
    refine ⟨⟨?_, ?_, ?_, ?_⟩, ?_, ?_⟩
    · rw [names_mapConstraint]
      exact h.names.names_token
    · rw [names_mapConstraint]
      exact h.names.names_nodup
    · rw [wild_mapConstraint]
      intro w hw
      obtain ⟨old, hold, rfl⟩ := Option.map_eq_some_iff.mp hw
      exact h.names.aliases_token old hold
    · rw [wild_mapConstraint]
      intro w hw
      obtain ⟨old, hold, rfl⟩ := Option.map_eq_some_iff.mp hw
      exact h.names.aliases_nodup old hold
    · rw [children_mapConstraint]
      intro c hc
      obtain ⟨old, hold, rfl⟩ := List.mem_map.mp hc
      exact ihChildren old hold (h.child hold)
    · rw [wild_mapConstraint]
      intro w hw
      obtain ⟨old, hold, rfl⟩ := Option.map_eq_some_iff.mp hw
      exact ihWild old hold (h.subtree hold)

/-! ### All constraints of a tree -/

/-- A tree in which every constraint has a property. -/
inductive AllConstraints (P : π → Prop) : Node π → Prop
  | mk {n : Node π}
      (constraint : ∀ w x, n.wild = some w → w.1.constraint = some x → P x)
      (children : ∀ child ∈ n.children, child.2.AllConstraints P)
      (subtree : ∀ w, n.wild = some w → w.2.AllConstraints P) : n.AllConstraints P

namespace AllConstraints

variable {P : π → Prop}

/-- What is true of all constraints is true of the one at the root. -/
theorem constraint (h : n.AllConstraints P) {w : WildSlot π × Node π} {x : π}
    (hw : n.wild = some w) (hx : w.1.constraint = some x) : P x := by
  cases h with
  | mk constraint _ _ => exact constraint w x hw hx

/-- What is true of all constraints is true of those below a child. -/
theorem child (h : n.AllConstraints P) {c : String × Node π} (hc : c ∈ n.children) :
    c.2.AllConstraints P := by
  cases h with
  | mk _ children _ => exact children c hc

/-- What is true of all constraints is true of those below a slot. -/
theorem subtree (h : n.AllConstraints P) {w : WildSlot π × Node π} (hw : n.wild = some w) :
    w.2.AllConstraints P := by
  cases h with
  | mk _ _ subtree => exact subtree w hw

/-- What is true of all constraints stays true when less is said. -/
theorem mono {Q : π → Prop} (h : n.AllConstraints P) (hPQ : ∀ x, P x → Q x) :
    n.AllConstraints Q := by
  induction n using Node.induction with
  | mk children wild ihChildren ihWild =>
    exact ⟨fun w x hw hx => hPQ x (h.constraint hw hx),
      fun c hc => ihChildren c hc (h.child hc), fun w hw => ihWild w hw (h.subtree hw)⟩

/-- Two things may be said of all constraints at once. -/
theorem and {Q : π → Prop} (hP : n.AllConstraints P) (hQ : n.AllConstraints Q) :
    n.AllConstraints fun x => P x ∧ Q x := by
  induction n using Node.induction with
  | mk children wild ihChildren ihWild =>
    exact ⟨fun w x hw hx => ⟨hP.constraint hw hx, hQ.constraint hw hx⟩,
      fun c hc => ihChildren c hc (hP.child hc) (hQ.child hc),
      fun w hw => ihWild w hw (hP.subtree hw) (hQ.subtree hw)⟩

/-- What is true of any constraint is true of all in a tree. -/
theorem of_forall (h : ∀ x, P x) (n : Node π) : n.AllConstraints P := by
  induction n using Node.induction with
  | mk children wild ihChildren ihWild =>
    exact ⟨fun w x _ _ => h x, ihChildren, ihWild⟩

/-- Every constraint of a tree stands at some address. -/
theorem of_forall_get? (hn : n.WellFormed)
    (h : ∀ address m w x, n.get? address = some m → m.wild = some w → w.1.constraint = some x →
      P x) : n.AllConstraints P := by
  induction n using Node.induction with
  | mk children wild ihChildren ihWild =>
    refine ⟨fun w x hw hx => h [] _ w x rfl hw hx, fun c hc => ?_, fun w hw => ?_⟩
    · refine ihChildren c hc (hn.child hc) fun address m w x hm => h (c.1 :: address) m w x ?_
      exact get?_cons.mpr ⟨c.2, hn.names.link?_eq_some_iff.mpr (Or.inl hc), hm⟩
    · refine ihWild w hw (hn.subtree hw) fun address m w' x hm => h (wildcard :: address) m w' x ?_
      exact get?_cons.mpr
        ⟨w.2, hn.names.link?_eq_some_iff.mpr (Or.inr ⟨rfl, w.1, hw⟩), hm⟩

/-- What is true of all constraints is true of those one link below. -/
theorem of_link? (h : n.AllConstraints P) {key : String} {below : Node π}
    (hbelow : n.link? key = some below) : below.AllConstraints P := by
  rw [link?] at hbelow
  split at hbelow
  · obtain ⟨w, hw, rfl⟩ := Option.map_eq_some_iff.mp hbelow
    exact h.subtree hw
  · exact h.child (mem_of_lookup hbelow)

/-- What is true of all constraints is true of those at any address. -/
theorem of_get? (h : n.AllConstraints P) {address : List String} {m : Node π}
    (hm : n.get? address = some m) : m.AllConstraints P :=
  get?_preserves (fun h hbelow => h.of_link? hbelow) h hm

/-- A new child brings in no constraint. -/
theorem addChild (h : n.AllConstraints P) (name : String) : (n.addChild name).AllConstraints P := by
  obtain ⟨children, wild⟩ := n
  refine ⟨fun w x hw hx => h.constraint hw hx, fun c hc => ?_, fun w hw => h.subtree hw⟩
  rcases List.mem_append.mp hc with hc | hc
  · exact h.child hc
  · rw [List.mem_singleton.mp hc]
    exact ⟨nofun, nofun, nofun⟩

/-- A new slot brings in its own constraint alone. -/
theorem setWild (h : n.AllConstraints P) {slot : WildSlot π}
    (hslot : ∀ x, slot.constraint = some x → P x) : (n.setWild slot).AllConstraints P := by
  obtain ⟨children, wild⟩ := n
  refine ⟨?_, fun c hc => h.child hc, ?_⟩
  · rintro w x ⟨⟩ hx
    exact hslot x hx
  · rintro w ⟨⟩
    exact ⟨nofun, nofun, nofun⟩

/-- A change at an address keeps what holds of all constraints, if it does so for the node there. -/
theorem update {f : Node π → Node π} (h : n.AllConstraints P)
    (hf : ∀ m : Node π, m.AllConstraints P → (f m).AllConstraints P) (address : List String) :
    (n.update f address).AllConstraints P := by
  induction address generalizing n with
  | nil => exact hf n h
  | cons key rest ih =>
    obtain ⟨children, wild⟩ := n
    by_cases hkey : key = wildcard
    · simp only [Node.update, hkey, if_true]
      refine ⟨fun w x hw hx => ?_, fun c hc => h.child hc, fun w hw => ?_⟩
      · obtain ⟨old, hold, rfl⟩ := Option.map_eq_some_iff.mp hw
        exact h.constraint hold hx
      · obtain ⟨old, hold, rfl⟩ := Option.map_eq_some_iff.mp hw
        exact ih (h.subtree hold)
    · simp only [Node.update, hkey, if_false]
      refine ⟨fun w x hw hx => h.constraint hw hx, fun c hc => ?_, fun w hw => h.subtree hw⟩
      rcases mem_updateEntry hc with hc | ⟨below, hlookup, hc⟩
      · exact h.child hc
      · rw [hc]
        exact ih (h.child (mem_of_lookup hlookup))

end AllConstraints

/-- A change that keeps every constraint of a tree keeps the tree. -/
theorem mapConstraint_eq_self {f : π → π} (h : n.AllConstraints fun x => f x = x) :
    n.mapConstraint f = n := by
  induction n using Node.induction with
  | mk children wild ihChildren ihWild =>
    have hchildren : children.map (fun c => (c.1, c.2.mapConstraint f)) = children.map id :=
      List.map_congr_left fun c hc => by rw [ihChildren c hc (h.child hc), id]
    have hwild : wild.map (fun w => (⟨w.1.aliases, w.1.constraint.map f⟩, w.2.mapConstraint f))
        = wild.map id := by
      refine Option.map_congr fun w hw => ?_
      obtain ⟨⟨aliases, constraint⟩, subtree⟩ := w
      have hconstraint : constraint.map f = constraint := by
        cases constraint with
        | none => rfl
        | some x => exact congrArg some (h.constraint hw rfl)
      rw [ihWild _ hw (h.subtree hw), hconstraint, id]
    rw [mapConstraint, mapChildren_eq, mapWild_eq, hchildren, hwild, List.map_id, Option.map_id,
      id]

/-- The constraints after a change are the changed ones. -/
theorem allConstraints_mapConstraint_iff {P : ρ → Prop} :
    (n.mapConstraint f).AllConstraints P ↔ n.AllConstraints (P ∘ f) := by
  induction n using Node.induction with
  | mk children wild ihChildren ihWild =>
    constructor
    · intro h
      refine ⟨fun w x hw hx => ?_, fun c hc => ?_, fun w hw => ?_⟩
      · exact h.constraint (wild_mapConstraint_of_wild f hw) (by rw [hx, Option.map_some])
      · refine (ihChildren c hc).mp (h.child (c := (c.1, c.2.mapConstraint f)) ?_)
        rw [children_mapConstraint]
        exact List.mem_map_of_mem hc
      · exact (ihWild w hw).mp (h.subtree (wild_mapConstraint_of_wild f hw))
    · -- Every part of the tree after the exchange comes from a part before it.
      intro h
      refine ⟨fun w y hw hy => ?_, fun c hc => ?_, fun w hw => ?_⟩
      · rw [wild_mapConstraint] at hw
        obtain ⟨old, hold, rfl⟩ := Option.map_eq_some_iff.mp hw
        obtain ⟨x, hx, rfl⟩ := Option.map_eq_some_iff.mp hy
        exact h.constraint hold hx
      · rw [children_mapConstraint] at hc
        obtain ⟨old, hold, rfl⟩ := List.mem_map.mp hc
        exact (ihChildren old hold).mpr (h.child hold)
      · rw [wild_mapConstraint] at hw
        obtain ⟨old, hold, rfl⟩ := Option.map_eq_some_iff.mp hw
        exact (ihWild old hold).mpr (h.subtree hold)

end Node

/-- What holds of all constraints of a grammar holds of those at and below each of its places. -/
theorem Grammar.allConstraints_of_mem_walk {g : Grammar} {P : Pattern → Prop} (hg : g.WellFormed)
    (h : g.node.AllConstraints P) {p : Place} (hp : p ∈ g.walk) : p.node.AllConstraints P := by
  obtain ⟨address, hplace⟩ := (mem_walk_iff hg).mp hp
  exact h.of_get? (place?_eq_some_iff.mp hplace).1

/-! ### Descriptions -/

/-- Whether a text can be read as a pattern. -/
def Pattern.Readable (source : String) : Prop :=
  ∃ p, Pattern.ofText? source false = .ok p

/-- The pattern that is read from a text. A text that cannot be read admits nothing. -/
def Pattern.reading (source : String) : Pattern :=
  match Pattern.ofText? source false with
  | .ok p => p
  | .error _ => ⟨source, [], fun _ => false⟩

/-- A pattern that is read keeps the text that it was read from. -/
theorem Pattern.source_of_ofText? {source : String} {anyCase : Bool} {p : Pattern}
    (h : Pattern.ofText? source anyCase = .ok p) : p.source = source := by
  obtain ⟨⟨expr, flags⟩, -, h⟩ := bind_eq_ok_iff.mp h
  cases h
  rfl

/-- A text is read as the pattern `Pattern.reading`, if it can be read at all. -/
theorem Pattern.ofText?_eq_ok_iff {source : String} {p : Pattern} :
    Pattern.ofText? source false = .ok p ↔ Pattern.Readable source ∧ p = Pattern.reading source := by
  unfold Pattern.Readable Pattern.reading
  cases h : Pattern.ofText? source false with
  | ok q => simp [eq_comm]
  | error fault => simp

/-- The pattern that a text is read as has this text. -/
@[simp] theorem Pattern.source_reading (source : String) :
    (Pattern.reading source).source = source := by
  unfold Pattern.reading
  split
  · next p h => exact Pattern.source_of_ofText? h
  · rfl

/-- A constraint that may be left out is declared by a text that can be read, if there is one. -/
theorem Constraint.mapM_pattern_written_eq_ok_iff {constraint : Option String}
    {pattern : Option Pattern} :
    (constraint.map Constraint.written).mapM Constraint.pattern = .ok pattern
      ↔ (∀ source, constraint = some source → Pattern.Readable source)
        ∧ pattern = constraint.map Pattern.reading := by
  cases constraint with
  | none => simp [pure, Except.pure, eq_comm]
  | some source =>
    -- A fault is only told in other words, so this succeeds where the reading does.
    show Except.map some ((Pattern.ofText? source false).mapError _) = .ok pattern ↔ _
    rw [map_eq_ok_iff]
    simp only [mapError_eq_ok_iff, Pattern.ofText?_eq_ok_iff, Option.map_some,
      Option.some.injEq, forall_eq']
    constructor
    · rintro ⟨p, ⟨hread, rfl⟩, hp⟩
      exact ⟨hread, hp.symm⟩
    · rintro ⟨hread, rfl⟩
      exact ⟨_, ⟨hread, rfl⟩, rfl⟩

/-- A slot is described by different tokens and by a text that can be read, or by none. -/
theorem WildSlot.declare_written_eq_ok_iff {aliases : List String} {constraint : Option String}
    {slot : WildSlot Pattern} :
    WildSlot.declare aliases (constraint.map .written) = .ok slot
      ↔ (∀ a ∈ aliases, isToken a = true)
        ∧ (∀ source, constraint = some source → Pattern.Readable source)
        ∧ slot = ⟨distinct aliases, constraint.map Pattern.reading⟩ := by
  have htokens : aliases.forM checkName = .ok () ↔ ∀ a ∈ aliases, isToken a = true := by
    rw [forM_eq_ok_iff]
    exact forall₂_congr fun a _ => checkName_eq_ok_iff
  unfold WildSlot.declare
  simp only [bind_eq_ok_iff, Constraint.mapM_pattern_written_eq_ok_iff]
  constructor
  · rintro ⟨_, htoken, pattern, ⟨hread, rfl⟩, hslot⟩
    exact ⟨htokens.mp htoken, hread, (Except.ok.inj hslot).symm⟩
  · rintro ⟨htoken, hread, rfl⟩
    exact ⟨(), htokens.mpr htoken, _, ⟨hread, rfl⟩, rfl⟩

namespace Node

/-- A list of children is described exactly if every child is. -/
theorem childrenOfDescription_eq_ok_iff {children : List (String × Node String)}
    (htoken : ∀ c ∈ children, isToken c.1 = true)
    (hchild : ∀ c ∈ children, ∀ m, ofDescription c.2 = .ok m
      ↔ c.2.AllConstraints Pattern.Readable ∧ m = c.2.mapConstraint Pattern.reading)
    (described : List (String × Node Pattern)) :
    childrenOfDescription children = .ok described
      ↔ (∀ c ∈ children, c.2.AllConstraints Pattern.Readable)
        ∧ described = mapChildren Pattern.reading children := by
  induction children generalizing described with
  | nil =>
    rw [childrenOfDescription, mapChildren, Except.ok.injEq]
    simp [eq_comm]
  | cons c rest ih =>
    obtain ⟨hfirst, hrest⟩ := List.forall_mem_cons.mp hchild
    obtain ⟨hname, hnames⟩ := List.forall_mem_cons.mp htoken
    rw [childrenOfDescription, List.forall_mem_cons, mapChildren]
    simp only [bind_eq_ok_iff, checkName_eq_ok_iff, hfirst, ih hnames hrest]
    constructor
    · rintro ⟨_, -, child, ⟨hall, rfl⟩, others, ⟨halls, rfl⟩, hdescribed⟩
      exact ⟨⟨hall, halls⟩, (Except.ok.inj hdescribed).symm⟩
    · rintro ⟨⟨hall, halls⟩, rfl⟩
      exact ⟨(), hname, _, ⟨hall, rfl⟩, _, ⟨halls, rfl⟩, rfl⟩

/-- A slot is built from its description with the patterns that its texts are read as. -/
theorem wildOfDescription_eq_ok_iff {wild : Option (WildSlot String × Node String)}
    (haliases : ∀ w, wild = some w → (∀ a ∈ w.1.aliases, isToken a = true) ∧ w.1.aliases.Nodup)
    (hsubtree : ∀ w, wild = some w → ∀ m, ofDescription w.2 = .ok m
      ↔ w.2.AllConstraints Pattern.Readable ∧ m = w.2.mapConstraint Pattern.reading)
    (described : Option (WildSlot Pattern × Node Pattern)) :
    wildOfDescription wild = .ok described
      ↔ (∀ w, wild = some w →
          (∀ source, w.1.constraint = some source → Pattern.Readable source)
            ∧ w.2.AllConstraints Pattern.Readable)
        ∧ described = mapWild Pattern.reading wild := by
  cases wild with
  | none =>
    rw [wildOfDescription, mapWild, Except.ok.injEq]
    simp [eq_comm]
  | some w =>
    obtain ⟨slot, subtree⟩ := w
    obtain ⟨htoken, hnodup⟩ := haliases _ rfl
    -- Aliases are declared once each, and here none is there twice.
    have hdistinct : distinct slot.aliases = slot.aliases :=
      distinctBy_eq_self (by simpa using hnodup)
    simp only [wildOfDescription, bind_eq_ok_iff, WildSlot.declare_written_eq_ok_iff,
      hsubtree _ rfl, hdistinct, mapWild, Option.some.injEq, forall_eq']
    constructor
    · rintro ⟨_, ⟨-, hread, rfl⟩, _, ⟨hall, rfl⟩, hdescribed⟩
      exact ⟨⟨hread, hall⟩, (Except.ok.inj hdescribed).symm⟩
    · rintro ⟨⟨hread, hall⟩, rfl⟩
      exact ⟨_, ⟨htoken, hread, rfl⟩, _, ⟨hall, rfl⟩, rfl⟩

/-- The tree that is described has the patterns that are read from its texts. -/
theorem ofDescription_eq_ok_iff {d : Node String} {n : Node Pattern} (hd : d.WellFormed) :
    ofDescription d = .ok n
      ↔ d.AllConstraints Pattern.Readable ∧ n = d.mapConstraint Pattern.reading := by
  induction d using Node.induction generalizing n with
  | mk children wild ihChildren ihWild =>
    have hchildren : ∀ cs, childrenOfDescription children = .ok cs ↔ _ :=
      childrenOfDescription_eq_ok_iff
      (fun c hc => hd.names.names_token c.1 (List.mem_map_of_mem hc))
      (fun c hc m => ihChildren c hc (hd.child hc))
    have hwild : ∀ w, wildOfDescription wild = .ok w ↔ _ := wildOfDescription_eq_ok_iff
      (fun w hw => ⟨hd.names.aliases_token w hw, hd.names.aliases_nodup w hw⟩)
      (fun w hw m => ihWild w hw (hd.subtree hw))
    simp only [ofDescription, bind_eq_ok_iff, hchildren, hwild, mapConstraint]
    constructor
    · rintro ⟨_, ⟨hchild, rfl⟩, _, ⟨hslot, rfl⟩, hn⟩
      exact ⟨⟨fun w x hw hx => (hslot w hw).1 x hx, hchild, fun w hw => (hslot w hw).2⟩,
        (Except.ok.inj hn).symm⟩
    · rintro ⟨hall, rfl⟩
      exact ⟨_, ⟨fun c hc => hall.child hc, rfl⟩, _,
        ⟨fun w hw => ⟨fun x hx => hall.constraint hw hx, hall.subtree hw⟩, rfl⟩, rfl⟩

end Node

namespace Grammar

variable {d : GrammarDescription} {g : Grammar}

/-- A grammar is described by proper names and texts that can be read. It has the patterns that are
read from them, and it is sealed. -/
theorem ofDescription_eq_ok_iff (hd : d.node.WellFormed) :
    ofDescription d = .ok g ↔ isToken d.root = true ∧ d.node.AllConstraints Pattern.Readable
      ∧ g = ⟨d.root, d.node.mapConstraint Pattern.reading, true⟩ := by
  simp only [ofDescription, bind_eq_ok_iff, checkName_eq_ok_iff, Node.ofDescription_eq_ok_iff hd]
  constructor
  · rintro ⟨_, hroot, _, ⟨hall, rfl⟩, hg⟩
    exact ⟨hroot, hall, (Except.ok.inj hg).symm⟩
  · rintro ⟨hroot, hall, rfl⟩
    exact ⟨(), hroot, _, ⟨hall, rfl⟩, rfl⟩

/-- The grammar that is described has this description. -/
theorem describe_of_ofDescription (hd : d.node.WellFormed) (h : ofDescription d = .ok g) :
    g.describe = d := by
  obtain ⟨-, -, rfl⟩ := (ofDescription_eq_ok_iff hd).mp h
  have hsame : d.node.mapConstraint (Pattern.source ∘ Pattern.reading) = d.node :=
    Node.mapConstraint_eq_self (.of_forall Pattern.source_reading d.node)
  rw [describe, Node.mapConstraint_mapConstraint, hsame]

end Grammar

end AccessScopes
