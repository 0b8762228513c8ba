import AccessScopes.Proofs.Cursor.Routing
import AccessScopes.Proofs.Grammar.Literal

/-!
# `AccessScopes.Proofs.Cursor.Narrowing`: what a wildcard promises

A move has to be possible from every place of a cursor. So a cursor with fewer places allows more
runs, and a scope that is accepted with a wildcard stays accepted when the wildcard is replaced by
a move that it stands for.

* `Move.exists_successorsAny`: from one place, the wildcard leads to everything that a value or a
  name leads to. Names of children beside a slot are the exception, as the wildcard leads to the
  subtree of the slot there.
* `Cursor.Within.run_of_subset`: what is possible from more places is possible from fewer, and ends
  at fewer. The two cursors make the moves together, and each move keeps the one inside the other.
* `Grammar.wildcard_run_narrows` puts both together: a run behind the wildcard is also a run behind
  the move, and its scope covers the scope of that run.
-/

set_option autoImplicit false

namespace AccessScopes

/-! ### The wildcard in the place of a move -/

namespace Move

variable {m : Move} {p : Place}

/-- Whether a move is no step by the name of a child that stands beside a slot. -/
def AvoidsRivals (m : Move) (p : Place) : Prop :=
  ∀ key, m = .step key → p.node.wild.isSome = true → key ∉ p.node.names

/-- Beside a slot all other moves lead to the subtree of the slot, as the wildcard does. -/
theorem successors?_beside_slot {w : WildSlot Pattern × Node Pattern}
    (hwild : p.node.wild = some w) (hrivals : m.AvoidsRivals p) {successors : List Place}
    (h : m.successors? p = some successors) : successors = [⟨p.path ++ [wildcard], w.2⟩] := by
  have hsubtree := Place.subtree?_of_wild hwild
  cases successors?_eq_some_iff.mp h with
  | subtree hq => rw [Option.some.inj (hq.symm.trans hsubtree)]
  | children hnone =>
    rw [hnone] at hsubtree
    cases hsubtree
  | @named key q _ hq =>
    rcases Place.named?_eq_some hq with ⟨n, hn, -⟩ | ⟨w', hwild', -, rfl⟩
    · -- A child of that name would be a rival of the slot.
      have hsome : p.node.wild.isSome = true := by rw [hwild, Option.isSome_some]
      exact absurd (List.mem_map_of_mem (Node.mem_of_lookup hn)) (hrivals key rfl hsome)
    · rw [hwild] at hwild'
      rw [Option.some.inj hwild']
  | admitted hwild' =>
    rw [hwild'] at hwild
    rw [← Option.some.inj hwild]

/-- Without a slot only steps are possible, and all of them lead to children. -/
theorem mem_children_of_successors? (hp : p.node.WellFormed) (hwild : p.node.wild = none)
    {successors : List Place} (h : m.successors? p = some successors) :
    ∀ q ∈ successors, q ∈ p.children := by
  intro q hq
  cases m with
  | value values =>
    cases successors?_eq_some_iff.mp h with
    | admitted hsome => simp [hwild] at hsome
  | step key =>
    obtain ⟨name, hbelow, -⟩ := (mem_successors_literal_iff hp hwild h).mp hq
    have hname : name ≠ wildcard := Place.ne_wildcard_of_below hwild hbelow
    exact (Place.mem_children_iff hp).mpr ⟨name, hname, hbelow⟩

/-- From one place the wildcard leads to everything that the move leads to. -/
theorem exists_successorsAny (hp : p.node.WellFormed) (hrivals : m.AvoidsRivals p)
    {successors : List Place} (h : m.successors? p = some successors) :
    ∃ all, (step wildcard).successors? p = some all ∧ successors ⊆ all := by
  cases hwild : p.node.wild with
  | some w =>
    refine ⟨successors, ?_, List.Subset.refl _⟩
    rw [successors?_beside_slot hwild hrivals h]
    exact successors?_wildcard (Place.subtree?_of_wild hwild)
  | none =>
    have hchildren := mem_children_of_successors? hp hwild h
    refine ⟨p.children, ?_, hchildren⟩
    -- The move leads somewhere, so there are children for the wildcard to lead to.
    have hne : p.children ≠ [] := by
      obtain ⟨q, hq⟩ := List.exists_mem_of_ne_nil _ (successors?_ne_nil h)
      exact List.ne_nil_of_mem (hchildren q hq)
    exact successors?_eq_some_iff.mpr (.children (Place.subtree?_eq_none hwild) hne)

end Move

/-! ### Runs from fewer places -/

namespace Cursor

variable {g : Grammar} {c d next : Cursor}

/-- A move that is possible from more places is possible from fewer. -/
theorem exists_move_of_subset (hsub : c.places ⊆ d.places) {m : Move} (h : d.move m = .ok next) :
    ∃ next', c.move m = .ok next' := by
  have hd := exists_move_iff.mp ⟨next, h⟩
  exact exists_move_iff.mpr ⟨hd.1, fun p hp => hd.2 p (hsub hp)⟩

namespace Within

/-- If from each place of one cursor a move leads nowhere but where another move leads from there,
then it leads to no other places than this move from a cursor with more places. -/
theorem places_subset_of_move (hg : g.WellFormed) (hd : d.Within g) (hsub : c.places ⊆ d.places)
    {m m' : Move} {narrow wide : Cursor} (hnarrow : c.move m = .ok narrow)
    (hwide : d.move m' = .ok wide)
    (hsuccessors : ∀ p ∈ c.places, ∀ successors, m.successors? p = some successors →
      ∃ all, m'.successors? p = some all ∧ successors ⊆ all) : narrow.places ⊆ wide.places := by
  intro q hq
  obtain ⟨p, hp, successors, hm, hmem⟩ := exists_successors_of_mem hnarrow hq
  obtain ⟨all, hall, hsubset⟩ := hsuccessors p hp successors hm
  exact (hd.mem_places_of_move_iff hg hwide).mpr ⟨p, hsub hp, all, hall, hsubset hmem⟩

/-- What is possible from more places is possible from fewer, and ends at fewer. The induction is
on the run: each move keeps the places of the one cursor among those of the other. -/
theorem run_of_subset (hg : g.WellFormed) (hd : d.Within g) (hsub : c.places ⊆ d.places)
    {ms : List Move} {wide : Cursor} (hrun : d.run ms = .ok wide) :
    ∃ narrow, c.run ms = .ok narrow ∧ narrow.places ⊆ wide.places := by
  induction ms generalizing c d with
  | nil =>
    cases hrun
    exact ⟨c, rfl, hsub⟩
  | cons m rest ih =>
    obtain ⟨dnext, hdmove, hdrest⟩ := run_cons.mp hrun
    obtain ⟨cnext, hcmove⟩ := exists_move_of_subset hsub hdmove
    have hnext : cnext.places ⊆ dnext.places := by
      refine hd.places_subset_of_move hg hsub hcmove hdmove fun p _ successors h => ?_
      exact ⟨successors, h, List.Subset.refl _⟩
    obtain ⟨narrow, hcrest, hplaces⟩ := ih (hd.move hg hdmove) hnext hdrest
    exact ⟨narrow, run_cons.mpr ⟨cnext, hcmove, hcrest⟩, hplaces⟩

/-- Where a move is possible, the wildcard is possible and leads at least as far. -/
theorem exists_step_wildcard (hg : g.WellFormed) (hc : c.Within g) {m : Move}
    (hrivals : ∀ p ∈ c.places, m.AvoidsRivals p) {narrow : Cursor} (h : c.move m = .ok narrow) :
    ∃ wide, c.step wildcard = .ok wide ∧ narrow.places ⊆ wide.places := by
  have hsuccessors : ∀ p ∈ c.places, ∀ successors, m.successors? p = some successors →
      ∃ all, (Move.step wildcard).successors? p = some all ∧ successors ⊆ all := by
    intro p hp successors hm
    have hwf : p.node.WellFormed := Grammar.wellFormed_of_mem_walk hg (hc p hp)
    exact Move.exists_successorsAny hwf (hrivals p hp) hm
  have hpossible : ∀ p ∈ c.places, ∃ all, (Move.step wildcard).successors? p = some all := by
    intro p hp
    obtain ⟨successors, hm⟩ := exists_successors_of_move h hp
    obtain ⟨all, hall, -⟩ := hsuccessors p hp successors hm
    exact ⟨all, hall⟩
  obtain ⟨wide, hwide⟩ := exists_move_iff.mpr ⟨by simp, hpossible⟩
  exact ⟨wide, hwide,
    hc.places_subset_of_move hg (List.Subset.refl _) h hwide hsuccessors⟩

end Within

end Cursor

/-! ### Scopes with a wildcard -/

/-- With a wildcard in the place of one segment, the segments cover what they were before. -/
theorem Scope.segmentsCover_wildcard_inside (front : List String) (segment : String)
    (back : List String) :
    segmentsCover (front ++ wildcard :: back) (front ++ segment :: back) = true := by
  rw [segmentsCover_append rfl, segmentsCover_cons_cons]
  exact ⟨segmentsCover_refl front, Or.inr rfl, segmentsCover_refl back⟩

namespace Grammar

variable {g : Grammar}

/-- What a wildcard promises. Take a grammar that can be built, a cursor that a run reaches in it,
and a move that succeeds there and is no step by the name of a child beside a slot. Then the
wildcard succeeds too and leads to all the places that the move leads to. Every run that succeeds
behind the wildcard succeeds behind the move and ends at some of the same places, and the scope with
the wildcard covers the scope with the move. -/
theorem wildcard_run_narrows (hg : g.Built) {front : List Move} {c : Cursor}
    (hc : (Cursor.ofGrammar g).run front = .ok c) {m : Move} {narrow : Cursor}
    (hm : c.move m = .ok narrow) (hrivals : ∀ p ∈ c.places, m.AvoidsRivals p) :
    ∃ wide, c.step wildcard = .ok wide ∧ narrow.places ⊆ wide.places
      ∧ ∀ rest wideLast, wide.run rest = .ok wideLast →
        ∃ narrowLast, narrow.run rest = .ok narrowLast
          ∧ narrowLast.places ⊆ wideLast.places
          ∧ ∃ s t, wideLast.toScope = .ok s ∧ narrowLast.toScope = .ok t ∧ s.covers t = true := by
  have hwf : g.WellFormed := hg.wellFormed
  have hwithin : c.Within g := (Cursor.within_ofGrammar hwf).run hwf hc
  obtain ⟨wide, hwide, hsub⟩ := hwithin.exists_step_wildcard hwf hrivals hm
  have hmove : c.move (.step wildcard) = .ok wide := hwide
  refine ⟨wide, hwide, hsub, fun rest wideLast hrun => ?_⟩
  obtain ⟨narrowLast, hnarrow, hlast⟩ := (hwithin.move hwf hmove).run_of_subset hwf hsub hrun
  refine ⟨narrowLast, hnarrow, hlast, ?_⟩
  -- Both cursors are reached from the root, so their segments are those of scopes.
  have hreach : ∀ {m next last}, c.move m = .ok next → next.run rest = .ok last →
      (Cursor.ofGrammar g).run (front ++ m :: rest) = .ok last := by
    intro m next last hnext hlast
    rw [Cursor.run_append, hc]
    exact Cursor.run_cons.mpr ⟨next, hnext, hlast⟩
  obtain ⟨s, hs, hssegments⟩ := toScope_of_run hwf (hreach hmove hrun)
  obtain ⟨t, ht, htsegments⟩ := toScope_of_run hwf (hreach hm hnarrow)
  refine ⟨s, t, hs, ht, ?_⟩
  rw [Scope.covers, hssegments, htsegments, Cursor.segments_of_run hrun,
    Cursor.segments_of_run hnarrow, Cursor.segments_of_move hmove, Cursor.segments_of_move hm,
    List.append_assoc, List.append_assoc]
  exact Scope.segmentsCover_wildcard_inside c.segments m.written (rest.map Move.written)

/-- In the branching grammar `own` is a name below the root and no slot stands beside it. So what
`api.*` allows, `api.own` allows: `api.*.read` ends at two places and covers `api.own.read`, which
ends at one of them. -/
theorem wildcard_run_narrows_branching :
    ∃ narrow wide wideLast narrowLast s t,
      (Cursor.ofGrammar branching).move (.step "own") = .ok narrow
        ∧ (Cursor.ofGrammar branching).step wildcard = .ok wide
        ∧ wide.run [.step "read"] = .ok wideLast ∧ narrow.run [.step "read"] = .ok narrowLast
        ∧ narrowLast.places ⊆ wideLast.places
        ∧ wideLast.toScope = .ok s ∧ narrowLast.toScope = .ok t ∧ s.covers t = true := by
  have hrivals : ∀ p ∈ (Cursor.ofGrammar branching).places, (Move.step "own").AvoidsRivals p := by
    intro p hp key _ hwild
    have hwalk := Cursor.within_ofGrammar branching_built.wellFormed p hp
    rw [branching_isLiteral p hwalk] at hwild
    cases hwild
  obtain ⟨narrow, hm⟩ : ∃ narrow, (Cursor.ofGrammar branching).move (.step "own") = .ok narrow :=
    exists_eq_ok_of_isOk (by decide +kernel)
  have hroot : (Cursor.ofGrammar branching).run [] = .ok (Cursor.ofGrammar branching) := rfl
  obtain ⟨wide, hwide, -, hruns⟩ := wildcard_run_narrows branching_built hroot hm hrivals
  obtain ⟨wideLast, hlast⟩ : ∃ wideLast, wide.run [.step "read"] = .ok wideLast := by
    have hboth : ((Cursor.ofGrammar branching).run [.step wildcard, .step "read"]).isOk = true := by
      decide +kernel
    obtain ⟨last, hrun⟩ := exists_eq_ok_of_isOk hboth
    obtain ⟨wide', hwide', hlast⟩ := Cursor.run_cons.mp hrun
    obtain rfl : wide' = wide := Except.ok.inj (hwide'.symm.trans hwide)
    exact ⟨last, hlast⟩
  obtain ⟨narrowLast, hnarrow, hplaces, s, t, hs, ht, hcovers⟩ := hruns _ wideLast hlast
  exact ⟨narrow, wide, wideLast, narrowLast, s, t, hm, hwide, hlast, hnarrow, hplaces, hs, ht,
    hcovers⟩

end Grammar

end AccessScopes
