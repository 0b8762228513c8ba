import AccessScopes.Proofs.Cursor.Move
import AccessScopes.Proofs.Grammar.Places

/-!
# `AccessScopes.Proofs.Cursor.Reach`: where moves lead in a grammar

A move leads one key down from every place it starts at, so a cursor never leaves the grammar.
Which key it is depends on the place: a name leads to the child of this name, an alias and a value
lead to the subtree of the slot, and the wildcard leads to that or to all children.

* `Move.below_of_mem_successors`: the key under which a successor stands agrees with what the move
  writes, up to wildcards on either side.
* `Cursor.Within` keeps a cursor in a grammar, and `Cursor.Within.run` does so along a run.
* `Cursor.Within.mem_places_of_move_iff`: in a grammar, the places behind a move are exactly the
  successors. None is lost, because the declared path determines the place.
-/

set_option autoImplicit false

namespace AccessScopes

namespace Place

variable {p q : Place}

/-- The subtree of a slot stands below its place under the wildcard. -/
theorem subtree?_of_wild {w : WildSlot Pattern × Node Pattern} (h : p.node.wild = some w) :
    p.subtree? = some ⟨p.path ++ [wildcard], w.2⟩ := by
  rw [subtree?, h, Option.map_some]

/-- A place without a slot has no subtree of one. -/
theorem subtree?_eq_none (h : p.node.wild = none) : p.subtree? = none := by
  rw [subtree?, h, Option.map_none]

/-- Under the wildcard stands the subtree of the slot. -/
theorem below?_wildcard (p : Place) : p.below? wildcard = p.subtree? := by
  rw [below?, subtree?, Node.link?, if_pos rfl, Option.map_map]
  rfl

/-- Under any other key stands the child of this name. -/
theorem below?_of_ne_wildcard {key : String} (hkey : key ≠ wildcard) :
    p.below? key = p.child? key := by
  rw [below?, child?, Node.link?, if_neg hkey]

/-- A name leads to the child below it or, as an alias, to the subtree of the slot. -/
theorem below_of_named? {key : String} (hp : p.node.WellFormed) (h : p.named? key = some q) :
    p.below? key = some q ∨ p.below? wildcard = some q := by
  have hkey : key ≠ wildcard := ne_wildcard_of_isToken (isToken_of_named? hp h)
  rcases named?_eq_some h with ⟨n, hn, rfl⟩ | ⟨w, hw, -, rfl⟩
  · refine Or.inl ?_
    rw [below?_of_ne_wildcard hkey, child?, hn, Option.map_some]
  · refine Or.inr ?_
    rw [below?_wildcard, subtree?_of_wild hw]

/-- The child below a name is where the name leads, before any alias. -/
theorem named?_of_below {key : String} (hkey : key ≠ wildcard) (h : p.below? key = some q) :
    p.named? key = some q := by
  rw [below?_of_ne_wildcard hkey] at h
  rw [named?, h]

/-- The children of a place are what stands below it under other keys than the wildcard. -/
theorem mem_children_iff (hp : p.node.WellFormed) :
    q ∈ p.children ↔ ∃ key, key ≠ wildcard ∧ p.below? key = some q := by
  rw [children, List.mem_map]
  constructor
  · -- The wildcard is no name, so a child never stands below it.
    rintro ⟨c, hc, rfl⟩
    have hname : c.1 ≠ wildcard :=
      ne_wildcard_of_isToken (hp.names.names_token c.1 (List.mem_map_of_mem hc))
    refine ⟨c.1, hname, below?_eq_some_iff.mpr ⟨c.2, ?_, rfl⟩⟩
    exact hp.names.link?_eq_some_iff.mpr (Or.inl hc)
  · rintro ⟨key, hkey, h⟩
    obtain ⟨n, hn, rfl⟩ := below?_eq_some_iff.mp h
    rcases hp.names.link?_eq_some_iff.mp hn with hmem | ⟨rfl, -⟩
    · exact ⟨(key, n), hmem, rfl⟩
    · exact absurd rfl hkey

end Place

namespace Move

variable {m : Move} {p q : Place}

/-- Each successor stands one key below. The key is what the move writes, unless one of the two is
the wildcard. -/
theorem below_of_mem_successors (hp : p.node.WellFormed) {successors : List Place}
    (h : m.successors? p = some successors) (hq : q ∈ successors) :
    ∃ key, p.below? key = some q ∧ (key = m.written ∨ key = wildcard ∨ m.written = wildcard) := by
  cases successors?_eq_some_iff.mp h with
  | subtree hsubtree =>
    rw [List.mem_singleton.mp hq]
    exact ⟨wildcard, by rw [Place.below?_wildcard, hsubtree], Or.inr (Or.inl rfl)⟩
  | children =>
    -- The wildcard may lead to any key.
    obtain ⟨name, -, hname⟩ := (Place.mem_children_iff hp).mp hq
    exact ⟨name, hname, Or.inr (Or.inr rfl)⟩
  | @named key _ _ hnamed =>
    rw [List.mem_singleton.mp hq]
    rcases Place.below_of_named? hp hnamed with hbelow | hbelow
    · exact ⟨key, hbelow, Or.inl rfl⟩
    · exact ⟨wildcard, hbelow, Or.inr (Or.inl rfl)⟩
  | admitted hwild =>
    rw [List.mem_singleton.mp hq]
    refine ⟨wildcard, ?_, Or.inr (Or.inl rfl)⟩
    rw [Place.below?_wildcard, Place.subtree?_of_wild hwild]

/-- A step by a key of the grammar leads to what stands below this key. -/
theorem successors?_of_below {key : String} (h : p.below? key = some q) :
    (step key).successors? p = some [q] := by
  rw [successors?_eq_some_iff]
  by_cases hkey : key = wildcard
  · subst hkey
    rw [Place.below?_wildcard] at h
    exact .subtree h
  · exact .named hkey (Place.named?_of_below hkey h)

end Move

namespace Cursor

variable {g : Grammar} {c next last : Cursor} {q : Place}

/-- Whether all places of a cursor are places of the grammar. -/
def Within (c : Cursor) (g : Grammar) : Prop :=
  ∀ p ∈ c.places, p ∈ g.walk

/-- The cursor at the root is in the grammar. -/
theorem within_ofGrammar (hg : g.WellFormed) : (ofGrammar g).Within g := by
  intro p hp
  rw [List.mem_singleton.mp hp]
  exact Grammar.rootPlace_mem_walk hg

/-- A successor of a place in the grammar is in the grammar. -/
theorem Within.mem_walk_of_mem_successors (hg : g.WellFormed) (hc : c.Within g) {p : Place}
    (hp : p ∈ c.places) {m : Move} {successors : List Place}
    (h : m.successors? p = some successors) (hq : q ∈ successors) : q ∈ g.walk := by
  have hwf : p.node.WellFormed := Grammar.wellFormed_of_mem_walk hg (hc p hp)
  obtain ⟨key, hbelow, -⟩ := Move.below_of_mem_successors hwf h hq
  exact Grammar.mem_walk_of_below hg (hc p hp) hbelow

/-- A move does not leave the grammar. -/
theorem Within.move (hg : g.WellFormed) (hc : c.Within g) {m : Move}
    (h : c.move m = .ok next) : next.Within g := by
  intro q hq
  obtain ⟨p, hp, successors, hsuccessors, hmem⟩ := exists_successors_of_mem h hq
  exact hc.mem_walk_of_mem_successors hg hp hsuccessors hmem

/-- A run does not leave the grammar. -/
theorem Within.run (hg : g.WellFormed) (hc : c.Within g) {ms : List Move}
    (h : c.run ms = .ok last) : last.Within g :=
  preserved_of_run (fun hc h => Within.move hg hc h) hc h

/-- The places behind a move are the successors of the places before it. -/
theorem Within.mem_places_of_move_iff (hg : g.WellFormed) (hc : c.Within g) {m : Move}
    (h : c.move m = .ok next) : q ∈ next.places
      ↔ ∃ p ∈ c.places, ∃ successors, m.successors? p = some successors ∧ q ∈ successors := by
  constructor
  · exact exists_successors_of_mem h
  · rintro ⟨p, hp, successors, hsuccessors, hmem⟩
    obtain ⟨-, lists, hlists, -, hplaces⟩ := move_eq_ok_iff.mp h
    have hflatten : q ∈ lists.flatten := by
      have hsome : some successors ∈ lists.map some := by
        rw [← hlists, ← hsuccessors]
        exact List.mem_map_of_mem hp
      obtain ⟨list, hlist, heq⟩ := List.mem_map.mp hsome
      exact List.mem_flatten.mpr ⟨list, hlist, Option.some.inj heq ▸ hmem⟩
    -- What is kept in the place of a successor has the same path, so it is the same place.
    obtain ⟨q', hq', hpath⟩ : ∃ q' ∈ distinctBy Place.path lists.flatten, q'.path = q.path :=
      exists_mem_distinctBy hflatten
    rw [← hplaces] at hq'
    have heq : q' = q := Grammar.eq_of_path_eq hg (hc.move hg h q' hq')
      (hc.mem_walk_of_mem_successors hg hp hsuccessors hmem) hpath
    exact heq ▸ hq'

/-- No place stands twice behind a move. -/
theorem nodup_path_of_move {m : Move} (h : c.move m = .ok next) :
    (next.places.map Place.path).Nodup := by
  obtain ⟨-, lists, -, -, hplaces⟩ := move_eq_ok_iff.mp h
  rw [hplaces]
  exact nodup_map_distinctBy Place.path lists.flatten

/-- A run ends at places of different paths, if it starts at such places. -/
theorem nodup_path_of_run {ms : List Move} (hc : (c.places.map Place.path).Nodup)
    (h : c.run ms = .ok last) : (last.places.map Place.path).Nodup :=
  preserved_of_run (P := fun c => (c.places.map Place.path).Nodup)
    (fun _ hmove => nodup_path_of_move hmove) hc h

end Cursor

end AccessScopes
