import AccessScopes.Proofs.Cursor.Reach
import AccessScopes.Proofs.Grammar.RoundTrip
import AccessScopes.Proofs.Scope.Coverage

/-!
# `AccessScopes.Proofs.Grammar.Declared`: declared paths and readings

The declared paths of a grammar are listed from its tree, without any cursor. Read as scopes they
lead back to the nodes that they were listed for, and no reading ends at a node whose declared path
says something else than what was read.

* `Grammar.navigate_path`: the reading of a declared path ends at its place alone.
* `PathAgrees` compares a declared path with what a cursor has written, and
  `Cursor.PlacesAgree.run` is the invariant of all runs: every place agrees.
* `Grammar.declared_paths_and_readings` states both for the declared scopes of a grammar.
-/

set_option autoImplicit false

namespace AccessScopes

/-! ### Reading a declared path -/

namespace Cursor

variable {c : Cursor} {p q : Place}

/-- A key of the grammar is read as a step to what stands below it. -/
theorem read_of_below {key : String} (hc : c.places = [p]) (h : p.below? key = some q) :
    ∃ next, c.read key = .ok next ∧ next.segments = c.segments ++ [key] ∧ next.places = [q] := by
  have hmove : c.moveFor key = .step key := by
    by_cases hkey : key = wildcard
    · rw [hkey]
      exact moveFor_wildcard c
    · refine moveFor_of_hasStep ?_
      rw [hasStep, hc, List.all_cons, List.all_nil, Place.named?_of_below hkey h]
      rfl
  rw [read, hmove]
  exact move_of_singleton hc (by simp) (Move.successors?_of_below h)

/-- An address is read from a single place to the node at this address. -/
theorem navigateFrom_of_get? {address : List String} {m : Node Pattern} (hc : c.places = [p])
    (h : p.node.get? address = some m) :
    ∃ last, Grammar.navigateFrom c address = .ok last
      ∧ last.segments = c.segments ++ address ∧ last.places = [⟨p.path ++ address, m⟩] := by
  induction address generalizing c p with
  | nil =>
    cases h
    exact ⟨c, rfl, by simp, by simpa using hc⟩
  | cons key rest ih =>
    obtain ⟨below, hbelow, hrest⟩ := Node.get?_cons.mp h
    obtain ⟨next, hread, hsegments, hplaces⟩ :=
      read_of_below hc (Place.below?_eq_some_iff.mpr ⟨below, hbelow, rfl⟩)
    obtain ⟨last, hlast, hlastSegments, hlastPlaces⟩ := ih hplaces hrest
    refine ⟨last, Grammar.navigateFrom_cons.mpr ⟨next, hread, hlast⟩, ?_, ?_⟩
    · rw [hlastSegments, hsegments, List.append_assoc, List.singleton_append]
    · rw [hlastPlaces, List.append_assoc, List.singleton_append]

end Cursor

namespace Grammar

variable {g : Grammar} {p : Place}

/-- The reading of a declared path ends at the place that it was declared for. -/
theorem navigate_path (hg : g.WellFormed) (hp : p ∈ g.walk) :
    ∃ c, g.navigate p.path = .ok c ∧ c.segments = p.path ∧ c.places = [p] := by
  obtain ⟨address, hplace⟩ := (mem_walk_iff hg).mp hp
  obtain ⟨hget, hpath⟩ := place?_eq_some_iff.mp hplace
  obtain ⟨c, hc, hsegments, hplaces⟩ :=
    Cursor.navigateFrom_of_get? (c := Cursor.ofGrammar g) (p := g.rootPlace) rfl hget
  refine ⟨c, ?_, ?_, ?_⟩
  · rw [hpath, navigate_root, hc]
  · rw [hsegments, hpath]
    rfl
  · rw [hplaces, rootPlace, List.singleton_append, ← hpath]

end Grammar

/-! ### Paths that agree -/

/-- Whether a declared path agrees with segments that were written: they are equally many, and at
each position the two are the same or one of them is the wildcard. -/
def PathAgrees (path segments : List String) : Prop :=
  List.Forall₂ (fun key segment => key = segment ∨ key = wildcard ∨ segment = wildcard) path
    segments

/-- A path and segments that agree go on to agree, one key and one segment later. -/
theorem PathAgrees.concat {path segments : List String} (h : PathAgrees path segments)
    {key segment : String} (hkey : key = segment ∨ key = wildcard ∨ segment = wildcard) :
    PathAgrees (path ++ [key]) (segments ++ [segment]) :=
  List.rel_append h (.cons hkey .nil)

/-- Segments without wildcards are covered by every path that agrees with them. -/
theorem PathAgrees.segmentsCover {path segments : List String} (h : PathAgrees path segments)
    (hconcrete : wildcard ∉ segments) : Scope.segmentsCover path segments = true := by
  induction h with
  | nil => rfl
  | @cons key segment path segments hkey _ ih =>
    rw [List.mem_cons, not_or] at hconcrete
    rw [Scope.segmentsCover_cons_cons]
    refine ⟨?_, ih hconcrete.2⟩
    rcases hkey with hsame | hwild | hwild
    · exact Or.inl hsame
    · exact Or.inr hwild
    · exact absurd hwild.symm hconcrete.1

namespace Cursor

variable {g : Grammar} {c next last : Cursor}

/-- Whether the declared paths of all places agree with what the cursor has written. -/
def PlacesAgree (c : Cursor) : Prop :=
  ∀ p ∈ c.places, PathAgrees p.path c.segments

/-- A move keeps every place in agreement with what was written. -/
theorem PlacesAgree.move (hc : c.WellFormed) (h : c.PlacesAgree) {m : Move}
    (hmove : c.move m = .ok next) : next.PlacesAgree := by
  intro q hq
  obtain ⟨p, hp, successors, hsuccessors, hmem⟩ := exists_successors_of_mem hmove hq
  obtain ⟨key, hbelow, hkey⟩ := Move.below_of_mem_successors (hc p hp) hsuccessors hmem
  rw [Place.path_of_below? hbelow, segments_of_move hmove]
  exact (h p hp).concat hkey

/-- A run keeps every place in agreement with what was written. -/
theorem PlacesAgree.run {ms : List Move} (hc : c.WellFormed) (h : c.PlacesAgree)
    (hrun : c.run ms = .ok last) : last.PlacesAgree := by
  -- A move needs well-formed places, so the run carries both.
  have hboth : last.WellFormed ∧ last.PlacesAgree :=
    preserved_of_run (P := fun c => c.WellFormed ∧ c.PlacesAgree)
      (fun hc hmove => ⟨hc.1.move hmove, hc.2.move hc.1 hmove⟩) ⟨hc, h⟩ hrun
  exact hboth.2

/-- The root agrees with the one segment that is written for it. -/
theorem placesAgree_ofGrammar (g : Grammar) : (ofGrammar g).PlacesAgree := by
  intro p hp
  rw [List.mem_singleton.mp hp]
  exact .cons (Or.inl rfl) .nil

end Cursor

namespace Grammar

variable {g : Grammar}

/-- A reading ends at places of the grammar whose declared paths agree with what was read. -/
theorem places_of_navigate (hg : g.WellFormed) {segments : List String} {c : Cursor}
    (h : g.navigate segments = .ok c) : c.Within g ∧ c.PlacesAgree := by
  obtain ⟨ms, hrun⟩ := exists_run_of_navigate h
  exact ⟨(Cursor.within_ofGrammar hg).run hg hrun,
    (Cursor.placesAgree_ofGrammar g).run (Cursor.wellFormed_ofGrammar hg) hrun⟩

/-- What is read without wildcards is covered by a declared scope of the same length. -/
theorem exists_covers_of_concrete (hg : g.WellFormed) {segments : List String} {c : Cursor}
    {r : Scope} (h : g.navigate segments = .ok c) (hr : r.segments = c.segments)
    (hconcrete : r.Concrete) :
    ∃ d ∈ g.declaredScopes.members, d.length = r.length ∧ d.covers r = true := by
  obtain ⟨hwithin, hagree⟩ := places_of_navigate hg h
  -- Any place at the end will do: the paths of all of them agree with what was read.
  obtain ⟨p, hp⟩ := c.exists_mem_places
  obtain ⟨d, hd, hsegments⟩ := exists_declaredScope hg (hwithin p hp)
  have hpath : PathAgrees d.segments r.segments := by
    rw [hsegments, hr]
    exact hagree p hp
  exact ⟨d, hd, hpath.length_eq, hpath.segmentsCover hconcrete⟩

/-- Declared paths and readings say the same. For every grammar that can be built: each declared
scope is read as itself, and the reading ends at one place, the one with this declared path. The
places have different declared paths, so there are as many declared scopes as places. And whatever
value is accepted, each place at the end is one of the grammar, and its declared path agrees with
the result position by position; so a result without wildcards is covered by a declared scope of
the same length. -/
theorem declared_paths_and_readings (hg : g.Built) :
    (∀ d ∈ g.declaredScopes.members, (g.parse d).1 = .ok d
        ∧ ∃ p ∈ g.walk, p.path = d.segments
          ∧ ∃ c, g.navigate d.segments = .ok c ∧ c.places = [p])
      ∧ ((g.walk.map Place.path).Nodup
        ∧ (∀ p ∈ g.walk, ∃ d ∈ g.declaredScopes.members, d.segments = p.path)
        ∧ g.declaredScopes.size = g.walk.length)
      ∧ ∀ v r, (g.parseValue v).1 = .ok r →
        ∃ s c, v.toScope = .ok s ∧ g.navigate s.segments = .ok c ∧ c.toScope = .ok r
          ∧ (∀ p ∈ c.places, p ∈ g.walk ∧ PathAgrees p.path r.segments)
          ∧ (r.Concrete →
              ∃ d ∈ g.declaredScopes.members, d.length = r.length ∧ d.covers r = true) := by
  have hwf : g.WellFormed := hg.wellFormed
  refine ⟨?_, ⟨nodup_map_path_walk hwf, fun p hp => exists_declaredScope hwf hp,
    size_declaredScopes hwf⟩, ?_⟩
  · intro d hd
    obtain ⟨p, hp, hpath⟩ := mem_declaredScopes_iff.mp hd
    obtain ⟨c, hc, hsegments, hplaces⟩ := navigate_path hwf hp
    rw [hpath] at hc
    refine ⟨parse_eq_ok_iff.mpr ⟨c, hc, ?_⟩, p, hp, hpath, c, hc, hplaces⟩
    rw [Cursor.toScope, hsegments, hpath, Scope.ofSegments_segments]
  · intro v r hparse
    rw [parseValue] at hparse
    cases hv : v.toScope with
    | error e =>
      rw [hv] at hparse
      cases hparse
    | ok s =>
      rw [hv] at hparse
      obtain ⟨c, hc, hscope⟩ := parse_eq_ok_iff.mp hparse
      obtain ⟨hwithin, hagree⟩ := places_of_navigate hwf hc
      have hr : r.segments = c.segments := Scope.segments_of_ofSegments hscope
      refine ⟨s, c, rfl, hc, hscope, fun p hp => ⟨hwithin p hp, ?_⟩,
        exists_covers_of_concrete hwf hc hr⟩
      rw [hr]
      exact hagree p hp

/-- The overlapping grammar has four nodes and so four declared scopes; `api.(alice).read` is read as
`api.alice.read`, which one of them covers. -/
theorem declared_paths_and_readings_overlapping :
    overlapping.declaredScopes.size = overlapping.walk.length ∧ overlapping.walk.length = 4
      ∧ ∃ r, (overlapping.parseValue (.text "api.(alice).read")).1 = .ok r
        ∧ r.text = "api.alice.read"
        ∧ ∃ d ∈ overlapping.declaredScopes.members, d.length = r.length ∧ d.covers r = true := by
  have hresult : ∃ r, (overlapping.parseValue (.text "api.(alice).read")).1 = .ok r
      ∧ r.text = "api.alice.read" := exists_result_of_text (by decide +kernel)
  obtain ⟨-, ⟨-, -, hsize⟩, hreadings⟩ := declared_paths_and_readings overlapping_built
  obtain ⟨r, hr, htext⟩ := hresult
  obtain ⟨s, c, -, -, -, -, hcovers⟩ := hreadings _ r hr
  have hconcrete : r.Concrete := by
    show wildcard ∉ r.segments
    rw [← Scope.split_text, htext]
    decide +kernel
  exact ⟨hsize, by decide +kernel, r, hr, htext, hcovers hconcrete⟩

end Grammar

end AccessScopes
