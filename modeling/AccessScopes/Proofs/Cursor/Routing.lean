import AccessScopes.Proofs.Cursor.Reach
import AccessScopes.Proofs.Grammar.RoundTrip

/-!
# `AccessScopes.Proofs.Cursor.Routing`: the routes to the subtree of a slot

The subtree of a wild slot is reached by the wildcard, by values and by the aliases of the slot.
Names of children come first: an alias that is also the name of a child leads to the child.

* `Move.successors?_wildcard`, `Move.successors?_value` and `Move.successors?_alias`: each of the
  routes, from one place.
* `Grammar.routes_to_subtree`: all routes lead to the same place, except for aliases that are
  names of children; those lead to the child.
* `Grammar.routes_part_at_name`: a grammar in which an alias is the name of a child, so that the
  alias and the wildcard lead to different places.
-/

set_option autoImplicit false

namespace AccessScopes

namespace Move

variable {p q shared : Place}

/-- The wildcard leads to the subtree of the slot, whatever children there are. -/
theorem successors?_wildcard (h : p.subtree? = some shared) :
    (step wildcard).successors? p = some [shared] :=
  successors?_eq_some_iff.mpr (.subtree h)

/-- Values that are admitted lead to the subtree of the slot. -/
theorem successors?_value (h : p.subtree? = some shared) {values : List String}
    {successors : List Place} (hvalues : (value values).successors? p = some successors) :
    successors = [shared] := by
  cases successors?_eq_some_iff.mp hvalues with
  | admitted hwild => rw [Option.some.inj ((Place.subtree?_of_wild hwild).symm.trans h)]

/-- An alias that is no name of a child leads to the subtree of the slot. -/
theorem successors?_alias (h : p.subtree? = some shared) {slot : WildSlot Pattern}
    {subtree : Node Pattern} (hwild : p.node.wild = some (slot, subtree)) {key : String}
    (hkey : key ≠ wildcard) (halias : key ∈ slot.aliases) (hname : key ∉ p.node.names) :
    (step key).successors? p = some [shared] := by
  -- The aliases are asked only where the children give nothing.
  have hchild : p.child? key = none := by
    rw [Place.child?, Option.map_eq_none_iff, List.lookup_eq_none_iff]
    intro c hc
    rw [bne_iff_ne]
    rintro rfl
    exact hname (List.mem_map_of_mem hc)
  have hnamed : p.named? key = some shared := by
    have hcontains : slot.aliases.contains key = true := List.contains_iff_mem.mpr halias
    simp only [Place.named?, hchild, hwild, hcontains, if_true, h]
  exact successors?_eq_some_iff.mpr (.named hkey hnamed)

end Move

namespace Grammar

variable {g : Grammar}

/-- All routes lead to the subtree of the slot. For every grammar that can be built, every node of
it with a wild slot, and every cursor whose only place is this node: the wildcard, all accepted
values and every alias that is no name of a child lead to the same single place, the subtree of
the slot. A name of a child leads to the child, also if it is an alias. -/
theorem routes_to_subtree (hg : g.Built) {p : Place} (hp : p ∈ g.walk) {slot : WildSlot Pattern}
    {subtree : Node Pattern} (hwild : p.node.wild = some (slot, subtree)) {c : Cursor}
    (hc : c.places = [p]) :
    ∃ shared ∈ g.walk, p.subtree? = some shared ∧ shared.node = subtree
      ∧ (∃ next, c.step wildcard = .ok next ∧ next.places = [shared])
      ∧ (∀ values next, c.value values = .ok next → next.places = [shared])
      ∧ (∀ key ∈ slot.aliases, key ∉ p.node.names →
          ∃ next, c.step key = .ok next ∧ next.places = [shared])
      ∧ ∀ key ∈ p.node.names, ∃ child ∈ p.children, child.name = key
          ∧ ∃ next, c.step key = .ok next ∧ next.places = [child] := by
  have hwf : p.node.WellFormed := wellFormed_of_mem_walk hg.wellFormed hp
  obtain ⟨shared, hshared, hnode⟩ : ∃ shared, p.subtree? = some shared ∧ shared.node = subtree :=
    ⟨_, Place.subtree?_of_wild hwild, rfl⟩
  have hwalk : shared ∈ g.walk :=
    mem_walk_of_below hg.wellFormed hp ((Place.below?_wildcard p).trans hshared)
  -- A step with a single successor leads there and nowhere else.
  have hstep : ∀ key q, (Move.step key).successors? p = some [q] →
      ∃ next, c.step key = .ok next ∧ next.places = [q] := by
    intro key q hq
    obtain ⟨next, hmove, -, hplaces⟩ := Cursor.move_of_singleton hc (by simp) hq
    exact ⟨next, hmove, hplaces⟩
  refine ⟨shared, hwalk, hshared, hnode, hstep wildcard shared (Move.successors?_wildcard hshared),
    ?_, ?_, ?_⟩
  · intro values next hvalue
    obtain ⟨successors, hsuccessors, hplaces⟩ :=
      Cursor.places_of_move_singleton (m := .value values) hc hvalue
    rw [hplaces, Move.successors?_value hshared hsuccessors]
    rfl
  · -- An alias is a token, so the step by it is not the step by the wildcard.
    intro key halias hname
    have hkey : key ≠ wildcard :=
      ne_wildcard_of_isToken (hwf.names.aliases_token _ hwild key halias)
    exact hstep key shared (Move.successors?_alias hshared hwild hkey halias hname)
  · intro key hname
    obtain ⟨⟨name, n⟩, hmem, rfl⟩ := List.mem_map.mp hname
    have hbelow : p.below? name = some ⟨p.path ++ [name], n⟩ :=
      Place.below?_eq_some_iff.mpr ⟨n, hwf.names.link?_eq_some_iff.mpr (Or.inl hmem), rfl⟩
    refine ⟨⟨p.path ++ [name], n⟩, List.mem_map.mpr ⟨_, hmem, rfl⟩, ?_,
      hstep name _ (Move.successors?_of_below hbelow)⟩
    rw [Place.name, List.getLastD_concat]

/-- In the overlapping grammar the alias `own`, the wildcard and the value `alice` all lead from the
root to the subtree of the slot. -/
theorem routes_to_subtree_overlapping :
    ∃ shared, overlapping.rootPlace.subtree? = some shared
      ∧ (∃ next, (Cursor.ofGrammar overlapping).step "own" = .ok next ∧ next.places = [shared])
      ∧ (∃ next, (Cursor.ofGrammar overlapping).step "*" = .ok next ∧ next.places = [shared])
      ∧ ∃ next, (Cursor.ofGrammar overlapping).value ["alice"] = .ok next
        ∧ next.places = [shared] := by
  have hroot : overlapping.rootPlace ∈ overlapping.walk :=
    rootPlace_mem_walk overlapping_built.wellFormed
  have haliases : (overlapping.rootPlace.node.wild.map fun w => w.1.aliases) = some ["own"] := by
    decide +kernel
  have hnot : "own" ∉ overlapping.rootPlace.node.names := by
    decide +kernel
  obtain ⟨⟨slot, subtree⟩, hwild, hslot⟩ := Option.map_eq_some_iff.mp haliases
  obtain ⟨shared, -, hshared, -, hany, hvalues, halias, -⟩ :=
    routes_to_subtree overlapping_built hroot hwild (c := Cursor.ofGrammar overlapping) rfl
  have hown : "own" ∈ slot.aliases := by
    rw [hslot]
    exact List.mem_singleton.mpr rfl
  refine ⟨shared, hshared, halias "own" hown hnot, hany, ?_⟩
  cases hvalue : (Cursor.ofGrammar overlapping).value ["alice"] with
  | ok next => exact ⟨next, rfl, hvalues _ next hvalue⟩
  | error r =>
    have hok : ((Cursor.ofGrammar overlapping).value ["alice"]).isOk = true := by
      decide +kernel
    rw [hvalue] at hok
    cases hok

/-- A grammar in which an alias of the slot is the name of a child too. -/
def shadowed : Grammar :=
  let empty : Grammar := ⟨"api", .leaf, false⟩
  let named := (empty.declare [] (.child "own")).1
  (named.declare [] (.wild ["own"] none)).1.finish

/-- The grammar of the example is built by declarations. -/
theorem shadowed_built : shadowed.Built := by
  have hroot : ofRoot "api" = .ok ⟨"api", .leaf, false⟩ := rfl
  exact (((Built.root hroot).declare _ _).declare _ _).finish

/-- From the root of this grammar the alias leads to the child, and the wildcard to the subtree of
the slot: the two routes part. -/
theorem routes_part_at_name :
    shadowed.Built ∧ shadowed.rootPlace ∈ shadowed.walk
      ∧ (Cursor.ofGrammar shadowed).places = [shadowed.rootPlace]
      ∧ ∃ slot subtree named any, shadowed.rootPlace.node.wild = some (slot, subtree)
        ∧ "own" ∈ slot.aliases
        ∧ (Cursor.ofGrammar shadowed).step "own" = .ok named
        ∧ (Cursor.ofGrammar shadowed).step "*" = .ok any
        ∧ named.places.map Place.path = [["api", "own"]]
        ∧ any.places.map Place.path = [["api", "*"]] := by
  refine ⟨shadowed_built, rootPlace_mem_walk shadowed_built.wellFormed, rfl, ⟨["own"], none⟩, .leaf,
    ⟨["api", "own"], [⟨["api", "own"], .leaf⟩], by simp⟩, ⟨["api", "*"], [⟨["api", "*"], .leaf⟩],
    by simp⟩, rfl, List.mem_singleton.mpr rfl, rfl, rfl, rfl, rfl⟩

end Grammar

end AccessScopes
