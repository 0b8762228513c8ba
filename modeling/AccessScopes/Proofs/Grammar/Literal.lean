import AccessScopes.Proofs.Grammar.Declared

/-!
# `AccessScopes.Proofs.Grammar.Literal`: grammars of names alone

Without wild slots the only free choice of a reading is the wildcard, which stands for all children
at once. What such a grammar accepts can be said without any cursor, by its declared scopes and
coverage: whenever some of the segments of a scope cover a declared scope of this length, one more
segment must cover some declared scope that goes on from there.

* `Cursor.Exact`: the places of a cursor are all those whose declared paths its segments cover.
  `Cursor.exact_of_navigate` is the invariant of all readings.
* `Cursor.Exact.exists_read_iff_declared`: the next segment is read exactly if every declared scope
  covered so far goes on to one that is covered with it.
* `Grammar.accepts_iff_declared`: which scopes are accepted, what they are read as, and where the
  readings end.
-/

set_option autoImplicit false

namespace AccessScopes

/-- Whether no node of a grammar has a wild slot. -/
def Grammar.IsLiteral (g : Grammar) : Prop :=
  ∀ p ∈ g.walk, p.node.wild = none

/-- Whether segments cover a declared path of the same length. -/
def CoversPath (segments path : List String) : Prop :=
  path.length = segments.length ∧ Scope.segmentsCover segments path = true

/-- To cover a path is to cover it key by key. -/
theorem coversPath_concat_iff {segments path : List String} {segment key : String} :
    CoversPath (segments ++ [segment]) (path ++ [key])
      ↔ CoversPath segments path ∧ (segment = key ∨ segment = wildcard) := by
  unfold CoversPath
  rw [List.length_append, List.length_append, List.length_singleton, List.length_singleton,
    Nat.add_right_cancel_iff]
  constructor
  · rintro ⟨hlength, hcovers⟩
    obtain ⟨hfront, hlast⟩ := (Scope.segmentsCover_append hlength.symm _ _).mp hcovers
    exact ⟨⟨hlength, hfront⟩, ((Scope.segmentsCover_cons_cons _ _ _ _).mp hlast).1⟩
  · rintro ⟨⟨hlength, hfront⟩, hlast⟩
    refine ⟨hlength, (Scope.segmentsCover_append hlength.symm _ _).mpr ⟨hfront, ?_⟩⟩
    exact (Scope.segmentsCover_cons_cons _ _ _ _).mpr ⟨hlast, rfl⟩

/-! ### Steps without slots -/

/-- Without a slot nothing stands below the wildcard. -/
theorem Place.ne_wildcard_of_below {p q : Place} (hwild : p.node.wild = none) {key : String}
    (h : p.below? key = some q) : key ≠ wildcard := by
  rintro rfl
  rw [below?_wildcard, subtree?_eq_none hwild] at h
  cases h

namespace Move

variable {p q : Place}

/-- Without a slot a step leads to what stands below its key, or below any key if it is the
wildcard. -/
theorem mem_successors_literal_iff (hp : p.node.WellFormed) (hwild : p.node.wild = none)
    {segment : String} {successors : List Place}
    (h : (step segment).successors? p = some successors) :
    q ∈ successors ↔ ∃ key, p.below? key = some q ∧ (segment = key ∨ segment = wildcard) := by
  cases successors?_eq_some_iff.mp h with
  | subtree hsubtree =>
    rw [Place.subtree?_eq_none hwild] at hsubtree
    cases hsubtree
  | children =>
    rw [Place.mem_children_iff hp]
    constructor
    · rintro ⟨key, -, hbelow⟩
      exact ⟨key, hbelow, Or.inr rfl⟩
    · rintro ⟨key, hbelow, -⟩
      exact ⟨key, Place.ne_wildcard_of_below hwild hbelow, hbelow⟩
  | @named _ q' hsegment hnamed =>
    -- There are no aliases, so a name leads to the child of this name.
    have hq' : p.below? segment = some q' := by
      rw [← hnamed, Place.below?_of_ne_wildcard hsegment, Place.named?, hwild]
      cases p.child? segment <;> rfl
    rw [List.mem_singleton]
    constructor
    · rintro rfl
      exact ⟨segment, hq', Or.inl rfl⟩
    · rintro ⟨key, hbelow, rfl | hany⟩
      · exact Option.some.inj (hbelow.symm.trans hq')
      · exact absurd hany hsegment

/-- Without a slot a step is possible exactly if it leads to something. -/
theorem exists_successors_literal_iff (hp : p.node.WellFormed) (hwild : p.node.wild = none)
    {segment : String} : (∃ successors, (step segment).successors? p = some successors)
      ↔ ∃ key q, p.below? key = some q ∧ (segment = key ∨ segment = wildcard) := by
  constructor
  · rintro ⟨successors, h⟩
    obtain ⟨q, hq⟩ := List.exists_mem_of_ne_nil _ (successors?_ne_nil h)
    obtain ⟨key, hbelow, hkey⟩ := (mem_successors_literal_iff hp hwild h).mp hq
    exact ⟨key, q, hbelow, hkey⟩
  · rintro ⟨key, q, hbelow, rfl | rfl⟩
    · exact ⟨[q], successors?_of_below hbelow⟩
    · have hkey : key ≠ wildcard := Place.ne_wildcard_of_below hwild hbelow
      have hne : p.children ≠ [] :=
        List.ne_nil_of_mem ((Place.mem_children_iff hp).mpr ⟨key, hkey, hbelow⟩)
      exact ⟨p.children, successors?_eq_some_iff.mpr
        (.children (Place.subtree?_eq_none hwild) hne)⟩

end Move

/-! ### The places of a reading -/

namespace Cursor

variable {g : Grammar} {c next last : Cursor} {segment : String}

/-- Whether the places of a cursor are exactly those whose declared paths its segments cover. -/
def Exact (c : Cursor) (g : Grammar) : Prop :=
  ∀ p, p ∈ c.places ↔ p ∈ g.walk ∧ CoversPath c.segments p.path

/-- The places of an exact cursor are places of the grammar. -/
theorem Exact.within (hc : c.Exact g) : c.Within g :=
  fun p hp => ((hc p).mp hp).1

/-- The cursor at the root is exact. -/
theorem exact_ofGrammar (hg : g.WellFormed) : (ofGrammar g).Exact g := by
  intro p
  have hroot : g.rootPlace ∈ g.walk := Grammar.rootPlace_mem_walk hg
  rw [ofGrammar, List.mem_singleton]
  constructor
  · rintro rfl
    exact ⟨hroot, rfl, Scope.segmentsCover_refl _⟩
  · rintro ⟨hp, hlength, -⟩
    -- A path of one segment is that of the root, as every other place stands below one.
    rcases Grammar.exists_above hg hp with heq | ⟨above, habove, key, hbelow⟩
    · exact heq
    · have hpos : 0 < above.path.length := Grammar.length_path_pos hg habove
      rw [Place.path_of_below? hbelow, List.length_append, List.length_singleton,
        List.length_singleton] at hlength
      omega

/-- Where no place has a slot, every segment is read as a step. -/
theorem moveFor_literal (hlit : g.IsLiteral) (hc : c.Within g) (segment : String) :
    c.moveFor segment = .step segment := by
  have haccepts : c.acceptsValues = false := by
    rw [acceptsValues, List.any_eq_false]
    intro p hp
    rw [hlit p (hc p hp)]
    simp
  simp [moveFor, haccepts]

namespace Exact

/-- A segment is read exactly if every place goes on with it. -/
theorem exists_read_iff (hg : g.WellFormed) (hlit : g.IsLiteral) (hc : c.Exact g) :
    (∃ next, c.read segment = .ok next) ↔ ∀ p ∈ c.places,
      ∃ key q, p.below? key = some q ∧ (segment = key ∨ segment = wildcard) := by
  have hstep : ∀ p ∈ c.places, ((∃ successors, (Move.step segment).successors? p = some successors)
      ↔ ∃ key q, p.below? key = some q ∧ (segment = key ∨ segment = wildcard)) := by
    intro p hp
    have hwalk : p ∈ g.walk := hc.within p hp
    exact Move.exists_successors_literal_iff (Grammar.wellFormed_of_mem_walk hg hwalk)
      (hlit p hwalk)
  rw [read, moveFor_literal hlit hc.within, exists_move_iff]
  constructor
  · rintro ⟨-, hall⟩ p hp
    exact (hstep p hp).mp (hall p hp)
  · intro hall
    exact ⟨by simp, fun p hp => (hstep p hp).mpr (hall p hp)⟩

/-- A reading of one segment keeps the places exact: those behind it are the extensions that it
covers of those before it. -/
theorem read (hg : g.WellFormed) (hlit : g.IsLiteral) (hc : c.Exact g)
    (h : c.read segment = .ok next) :
    next.segments = c.segments ++ [segment] ∧ next.Exact g := by
  rw [Cursor.read, moveFor_literal hlit hc.within] at h
  have hsegments : next.segments = c.segments ++ [segment] := segments_of_move h
  refine ⟨hsegments, fun q => ?_⟩
  rw [hc.within.mem_places_of_move_iff hg h, hsegments]
  constructor
  · rintro ⟨p, hp, successors, hsuccessors, hq⟩
    obtain ⟨hwalk, hcovers⟩ := (hc p).mp hp
    have hwf : p.node.WellFormed := Grammar.wellFormed_of_mem_walk hg hwalk
    obtain ⟨key, hbelow, hkey⟩ :=
      (Move.mem_successors_literal_iff hwf (hlit p hwalk) hsuccessors).mp hq
    refine ⟨Grammar.mem_walk_of_below hg hwalk hbelow, ?_⟩
    rw [Place.path_of_below? hbelow]
    exact coversPath_concat_iff.mpr ⟨hcovers, hkey⟩
  · rintro ⟨hq, hcovers⟩
    rcases Grammar.exists_above hg hq with rfl | ⟨p, hwalk, key, hbelow⟩
    · -- The root is not behind any move, as the places before it have a path too.
      obtain ⟨p, hp⟩ := c.exists_mem_places
      obtain ⟨hwalk, hlength, -⟩ := (hc p).mp hp
      have hpos : 0 < p.path.length := Grammar.length_path_pos hg hwalk
      have hone : [g.root].length = (c.segments ++ [segment]).length := hcovers.1
      rw [List.length_append, List.length_singleton, List.length_singleton, ← hlength] at hone
      omega
    · rw [Place.path_of_below? hbelow, coversPath_concat_iff] at hcovers
      have hp : p ∈ c.places := (hc p).mpr ⟨hwalk, hcovers.1⟩
      obtain ⟨successors, hsuccessors⟩ := exists_successors_of_move h hp
      have hwf : p.node.WellFormed := Grammar.wellFormed_of_mem_walk hg hwalk
      exact ⟨p, hp, successors, hsuccessors,
        (Move.mem_successors_literal_iff hwf (hlit p hwalk) hsuccessors).mpr
          ⟨key, hbelow, hcovers.2⟩⟩

/-- The same condition in terms of the declared scopes: each of this length that is covered so far
goes on to one that is covered with the next segment. -/
theorem exists_read_iff_declared (hg : g.WellFormed) (hlit : g.IsLiteral) (hc : c.Exact g) :
    (∃ next, c.read segment = .ok next) ↔ ∀ d ∈ g.declaredScopes.members,
      d.length = c.segments.length → Scope.segmentsCover c.segments d.segments = true →
        ∃ e ∈ g.declaredScopes.members, (∃ key, e.segments = d.segments ++ [key])
          ∧ Scope.segmentsCover (c.segments ++ [segment]) e.segments = true := by
  rw [hc.exists_read_iff hg hlit]
  constructor
  · intro hall d hd hlength hcovers
    obtain ⟨p, hwalk, hpath⟩ := Grammar.mem_declaredScopes_iff.mp hd
    have hcoversPath : CoversPath c.segments p.path := by
      rw [hpath]
      exact ⟨hlength, hcovers⟩
    obtain ⟨key, q, hbelow, hkey⟩ := hall p ((hc p).mpr ⟨hwalk, hcoversPath⟩)
    obtain ⟨e, he, hsegments⟩ :=
      Grammar.exists_declaredScope hg (Grammar.mem_walk_of_below hg hwalk hbelow)
    rw [Place.path_of_below? hbelow] at hsegments
    refine ⟨e, he, ⟨key, by rw [hsegments, hpath]⟩, ?_⟩
    rw [hsegments]
    exact (coversPath_concat_iff.mpr ⟨hcoversPath, hkey⟩).2
  · intro hall p hp
    obtain ⟨hwalk, hcovers⟩ := (hc p).mp hp
    obtain ⟨d, hd, hsegments⟩ := Grammar.exists_declaredScope hg hwalk
    have hlength : d.length = c.segments.length := by
      rw [Scope.length, hsegments, hcovers.1]
    obtain ⟨e, he, ⟨key, hext⟩, hecovers⟩ :=
      hall d hd hlength (by rw [hsegments]; exact hcovers.2)
    obtain ⟨q, hq, hqpath⟩ := Grammar.mem_declaredScopes_iff.mp he
    have hpath : q.path = p.path ++ [key] := by rw [hqpath, hext, hsegments]
    refine ⟨key, q, Grammar.below_of_path_eq hg hwalk hq hpath, ?_⟩
    -- The last segment covers the last key.
    rw [hext, hsegments, Scope.segmentsCover_append hcovers.1.symm,
      Scope.segmentsCover_cons_cons] at hecovers
    exact hecovers.2.1

end Exact

/-- A reading keeps a cursor exact. -/
theorem exact_of_navigateFrom (hg : g.WellFormed) (hlit : g.IsLiteral) {segments : List String}
    (hc : c.Exact g) (h : Grammar.navigateFrom c segments = .ok last) :
    last.segments = c.segments ++ segments ∧ last.Exact g := by
  induction segments generalizing c with
  | nil =>
    cases h
    exact ⟨by simp, hc⟩
  | cons segment rest ih =>
    obtain ⟨next, hread, hrest⟩ := Grammar.navigateFrom_cons.mp h
    obtain ⟨hsegments, hnext⟩ := hc.read hg hlit hread
    obtain ⟨hlast, hexact⟩ := ih hnext hrest
    refine ⟨?_, hexact⟩
    rw [hlast, hsegments, List.append_assoc, List.singleton_append]

/-- A reading writes what it reads, and ends at all places that this covers. -/
theorem exact_of_navigate (hg : g.WellFormed) (hlit : g.IsLiteral) {segments : List String}
    (h : g.navigate segments = .ok c) : c.segments = segments ∧ c.Exact g := by
  obtain ⟨rest, rfl, hrest⟩ := Grammar.navigate_eq_ok_iff.mp h
  exact exact_of_navigateFrom hg hlit (exact_ofGrammar hg) hrest

end Cursor

/-! ### Accepted scopes -/

namespace Grammar

variable {g : Grammar} {s : Scope}

/-- Whether every declared scope that the first `n` segments cover has an extension by one segment
that the first `n + 1` segments cover. -/
def GoesOn (g : Grammar) (s : Scope) (n : Nat) (hn : 0 < n) : Prop :=
  ∀ d ∈ g.declaredScopes.members, d.length = n → (s.front n hn).covers d = true →
    ∃ e ∈ g.declaredScopes.members, (∃ key, e.segments = d.segments ++ [key])
      ∧ (s.front (n + 1) (Nat.succ_pos n)).covers e = true

/-- The next segment is read exactly if the declared scopes go on. -/
theorem exists_read_iff_goesOn (hg : g.WellFormed) (hlit : g.IsLiteral) {front back : List String}
    {segment : String} (hsplit : s.segments = front ++ segment :: back) {c : Cursor}
    (hc : g.navigate front = .ok c) (hn : 0 < front.length) :
    (∃ next, c.read segment = .ok next) ↔ g.GoesOn s front.length hn := by
  obtain ⟨hsegments, hexact⟩ := Cursor.exact_of_navigate hg hlit hc
  have hfront : (s.front front.length hn).segments = front := by
    rw [Scope.segments_front, hsplit, List.take_left]
  have hnext : (s.front (front.length + 1) (Nat.succ_pos _)).segments = front ++ [segment] := by
    rw [Scope.segments_front, hsplit, List.take_length_add_append]
    rfl
  rw [hexact.exists_read_iff_declared hg hlit, hsegments]
  unfold GoesOn Scope.covers
  rw [hfront, hnext]

/-- A scope is accepted exactly if it has the right root and the declared scopes go on at each of
its segments. -/
theorem accepts_iff_goesOn (hg : g.WellFormed) (hlit : g.IsLiteral) :
    g.accepts s = true ↔ s.segments.head? = some g.root
      ∧ ∀ n (hn : 0 < n), n < s.length → g.GoesOn s n hn := by
  rw [accepts_iff hg]
  constructor
  · rintro ⟨c, hc⟩
    obtain ⟨rest, hroot, -⟩ := navigate_eq_ok_iff.mp hc
    refine ⟨by rw [hroot]; rfl, fun n hn hlt => ?_⟩
    have hsplit : s.segments = s.segments.take n ++ s.segments[n] :: s.segments.drop (n + 1) := by
      rw [← List.drop_eq_getElem_cons hlt, List.take_append_drop]
    have hlength : (s.segments.take n).length = n :=
      List.length_take_of_le (Nat.le_of_lt hlt)
    have hne : s.segments.take n ≠ [] := List.ne_nil_of_length_pos (by omega)
    rw [hsplit, navigate_append hne] at hc
    obtain ⟨d, hd, hback⟩ := hc
    obtain ⟨next, hread, -⟩ := navigateFrom_cons.mp hback
    have hgoes := (exists_read_iff_goesOn hg hlit hsplit hd (by omega)).mp ⟨next, hread⟩
    simpa only [hlength] using hgoes
  · rintro ⟨hroot, hgoes⟩
    cases hnavigate : g.navigate s.segments with
    | ok c => exact ⟨c, rfl⟩
    | error r =>
      obtain ⟨first, rest, hsegments⟩ := List.exists_cons_of_ne_nil s.segments_ne
      rw [hsegments] at hnavigate hroot
      rcases navigate_eq_error_iff.mp hnavigate with ⟨hne, -⟩ | ⟨front, segment, back, d, hsplit,
        hd, hread⟩
      · exact absurd (Option.some.inj hroot) hne
      · -- The segment that is refused would have to be read.
        have hpos : 0 < front.length := by
          obtain ⟨tail, rfl, -⟩ := navigate_eq_ok_iff.mp hd
          exact Nat.succ_pos _
        have hlt : front.length < s.length := by
          rw [Scope.length, hsegments, hsplit, List.length_append, List.length_cons]
          omega
        obtain ⟨next, hnext⟩ := (exists_read_iff_goesOn hg hlit (hsegments.trans hsplit) hd
          hpos).mpr (hgoes front.length hpos hlt)
        rw [hread] at hnext
        cases hnext

/-- The language of a grammar of names. For every grammar that can be built and has no wild slots,
and every scope: the scope is accepted exactly if it begins with the root and, at each of its
segments, every declared scope that is covered so far goes on to one that is covered with this
segment. An accepted scope is read as itself, and the reading ends at all the places whose declared
paths it covers, each one once. A scope without wildcards is accepted exactly if it is declared. -/
theorem accepts_iff_declared (hg : g.Built) (hlit : g.IsLiteral) (s : Scope) :
    (g.accepts s = true ↔ s.segments.head? = some g.root
        ∧ ∀ n (hn : 0 < n), n < s.length → g.GoesOn s n hn)
      ∧ (g.accepts s = true → (g.parse s).1 = .ok s
        ∧ ∃ c, g.navigate s.segments = .ok c ∧ (c.places.map Place.path).Nodup
          ∧ ∀ p, p ∈ c.places ↔ p ∈ g.walk ∧ p.path.length = s.length
            ∧ Scope.segmentsCover s.segments p.path = true)
      ∧ (s.Concrete → (g.accepts s = true ↔ s ∈ g.declaredScopes.members)) := by
  have hwf : g.WellFormed := hg.wellFormed
  refine ⟨accepts_iff_goesOn hwf hlit, ?_, ?_⟩
  · intro haccepts
    obtain ⟨c, hc⟩ := (accepts_iff hwf).mp haccepts
    obtain ⟨hsegments, hexact⟩ := Cursor.exact_of_navigate hwf hlit hc
    refine ⟨parse_eq_ok_iff.mpr ⟨c, hc, ?_⟩, c, hc, ?_, fun p => ?_⟩
    · rw [Cursor.toScope, hsegments, Scope.ofSegments_segments]
    · obtain ⟨ms, hrun⟩ := exists_run_of_navigate hc
      have hroot : ((Cursor.ofGrammar g).places.map Place.path).Nodup := List.nodup_singleton _
      exact Cursor.nodup_path_of_run hroot hrun
    · rw [hexact p, hsegments]
      rfl
  · intro hconcrete
    constructor
    · intro haccepts
      obtain ⟨c, hc⟩ := (accepts_iff hwf).mp haccepts
      obtain ⟨hsegments, hexact⟩ := Cursor.exact_of_navigate hwf hlit hc
      obtain ⟨p, hp⟩ := c.exists_mem_places
      obtain ⟨hwalk, hlength, hcovers⟩ := (hexact p).mp hp
      rw [hsegments] at hlength hcovers
      -- Without wildcards, only the path itself is covered among those of its length.
      have hpath : s.segments = p.path :=
        Scope.eq_of_segmentsCover_of_length_eq hcovers hconcrete hlength.symm
      exact mem_declaredScopes_iff.mpr ⟨p, hwalk, hpath.symm⟩
    · intro hdeclared
      obtain ⟨p, hp, hpath⟩ := mem_declaredScopes_iff.mp hdeclared
      obtain ⟨c, hc, -, -⟩ := navigate_path hwf hp
      rw [hpath] at hc
      exact (accepts_iff hwf).mpr ⟨c, hc⟩

/-- A grammar of names: below `own` stand `read` and `delete`, below `all` only `read`. -/
def branching : Grammar :=
  let empty : Grammar := ⟨"api", .leaf, false⟩
  let own := (empty.declare [] (.chain "own.read")).1
  let more := (own.declare ["own"] (.child "delete")).1
  (more.declare [] (.chain "all.read")).1.finish

/-- The grammar of the example is built by declarations. -/
theorem branching_built : branching.Built := by
  have hroot : ofRoot "api" = .ok ⟨"api", .leaf, false⟩ := rfl
  exact ((((Built.root hroot).declare _ _).declare _ _).declare _ _).finish

/-- The grammar of the example has no slot. -/
theorem branching_isLiteral : branching.IsLiteral := by
  have hall : (branching.walk.all fun p => p.node.wild.isNone) = true := by
    decide +kernel
  intro p hp
  exact Option.isNone_iff_eq_none.mp (List.all_eq_true.mp hall p hp)

/-- `api.*.read` is accepted, as both names below the root go on with `read`. `api.*.delete` is not:
the declared scope `api.all` is covered by `api.*` and does not go on with `delete`. -/
theorem accepts_iff_declared_branching :
    ∃ s t, Scope.ofText "api.*.read" = .ok s ∧ Scope.ofText "api.*.delete" = .ok t
      ∧ (branching.parse s).1 = .ok s ∧ (∀ n (hn : 0 < n), n < s.length → branching.GoesOn s n hn)
      ∧ branching.accepts t = false
      ∧ ¬ ∀ n (hn : 0 < n), n < t.length → branching.GoesOn t n hn := by
  let s : Scope := ⟨["api", "*", "read"], by decide, by decide⟩
  let t : Scope := ⟨["api", "*", "delete"], by decide, by decide⟩
  have hs : branching.accepts s = true := by
    decide +kernel
  have ht : branching.accepts t = false := by
    decide +kernel
  obtain ⟨hread, hresult, -⟩ := accepts_iff_declared branching_built branching_isLiteral s
  obtain ⟨hrefused, -, -⟩ := accepts_iff_declared branching_built branching_isLiteral t
  refine ⟨s, t, rfl, rfl, (hresult hs).1, (hread.mp hs).2, ht, fun hgoes => ?_⟩
  have haccepts : branching.accepts t = true := hrefused.mpr ⟨by decide +kernel, hgoes⟩
  rw [ht] at haccepts
  cases haccepts

end Grammar

end AccessScopes
