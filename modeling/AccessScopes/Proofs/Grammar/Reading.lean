import AccessScopes.Grammar.Reading
import AccessScopes.Proofs.Cursor.Move

/-!
# `AccessScopes.Proofs.Grammar.Reading`: what a reading does

A reading goes through the segments of a scope from left to right and stops at the first that does
not fit. Behind each segment it has made one move.

* `Grammar.navigateFrom_append` and `Grammar.navigate_append`: a reading of two parts is a reading
  of the second part from where the first one leads.
* `Grammar.navigateFrom_eq_error_iff` and `Grammar.navigate_eq_error_iff`: a reading that fails
  splits into a part that is read, the segment that is refused there, and the rest.
* `Cursor.readMoves` lists the moves that a reading makes, and `Cursor.run_readMoves` says that
  the reading is the run of these moves. `Cursor.written_moveFor`: only `(a)` is written in
  another way than it was read.
* `Grammar.parse_of_navigate`: in a well-formed grammar, what is read is the segments of a scope.
-/

set_option autoImplicit false

namespace AccessScopes

/-! ### Readings in parts -/

namespace Grammar

variable {g : Grammar} {c last : Cursor}

/-- A reading goes segment by segment. -/
theorem navigateFrom_cons {segment : String} {rest : List String} :
    navigateFrom c (segment :: rest) = .ok last
      ↔ ∃ next, c.read segment = .ok next ∧ navigateFrom next rest = .ok last := by
  rw [navigateFrom]
  split
  · next next hread => simp [hread]
  · next r hread => simp [hread]

/-- A reading may be split anywhere. -/
theorem navigateFrom_append {front back : List String} :
    navigateFrom c (front ++ back) = .ok last
      ↔ ∃ d, navigateFrom c front = .ok d ∧ navigateFrom d back = .ok last := by
  induction front generalizing c with
  | nil => simp [navigateFrom]
  | cons segment rest ih =>
    rw [List.cons_append, navigateFrom_cons]
    constructor
    · rintro ⟨next, hread, hrest⟩
      obtain ⟨d, hfront, hback⟩ := ih.mp hrest
      exact ⟨d, navigateFrom_cons.mpr ⟨next, hread, hfront⟩, hback⟩
    · rintro ⟨d, hfront, hback⟩
      obtain ⟨next, hread, hrest⟩ := navigateFrom_cons.mp hfront
      exact ⟨next, hread, ih.mpr ⟨d, hrest, hback⟩⟩

/-- A reading fails where a segment is refused: all segments before it are read. -/
theorem navigateFrom_eq_error_iff {segments : List String} {r : Rejection} :
    navigateFrom c segments = .error r ↔ ∃ front segment back d,
      segments = front ++ segment :: back ∧ navigateFrom c front = .ok d
        ∧ d.read segment = .error r := by
  induction segments generalizing c with
  | nil => simp [navigateFrom]
  | cons first rest ih =>
    rw [navigateFrom]
    cases hread : c.read first with
    | error e =>
      constructor
      · intro h
        exact ⟨[], first, rest, c, rfl, rfl, hread.trans h⟩
      · rintro ⟨front, segment, back, d, hsegments, hfront, hsegment⟩
        cases front with
        | nil =>
          obtain ⟨rfl, rfl⟩ := List.cons.inj hsegments
          obtain rfl : c = d := Except.ok.inj hfront
          exact hread.symm.trans hsegment
        | cons head tail =>
          -- The first segment cannot be refused and read.
          obtain ⟨rfl, -⟩ := List.cons.inj hsegments
          obtain ⟨next, hnext, -⟩ := navigateFrom_cons.mp hfront
          rw [hread] at hnext
          cases hnext
    | ok next =>
      show navigateFrom next rest = .error r ↔ _
      rw [ih]
      -- The segment that is refused stands in the rest, and the first one belongs to the front.
      constructor
      · rintro ⟨front, segment, back, d, rfl, hfront, hsegment⟩
        exact ⟨first :: front, segment, back, d, rfl,
          navigateFrom_cons.mpr ⟨next, hread, hfront⟩, hsegment⟩
      · rintro ⟨front, segment, back, d, hsegments, hfront, hsegment⟩
        cases front with
        | nil =>
          obtain ⟨rfl, -⟩ := List.cons.inj hsegments
          obtain rfl : c = d := Except.ok.inj hfront
          rw [hread] at hsegment
          cases hsegment
        | cons head tail =>
          obtain ⟨rfl, rfl⟩ := List.cons.inj hsegments
          obtain ⟨next', hnext, htail⟩ := navigateFrom_cons.mp hfront
          obtain rfl : next = next' := Except.ok.inj (hread.symm.trans hnext)
          exact ⟨tail, segment, back, d, rfl, htail, hsegment⟩

/-- A reading that begins with the name of the root goes on from the root. -/
theorem navigate_root (segments : List String) :
    g.navigate (g.root :: segments) = navigateFrom (Cursor.ofGrammar g) segments := by
  rw [navigate, if_pos rfl]

/-- A reading succeeds if it begins with the root and goes on from there. -/
theorem navigate_eq_ok_iff {segments : List String} :
    g.navigate segments = .ok c
      ↔ ∃ rest, segments = g.root :: rest ∧ navigateFrom (.ofGrammar g) rest = .ok c := by
  cases segments with
  | nil => simp [navigate]
  | cons first rest =>
    by_cases hroot : first = g.root
    · subst hroot
      rw [navigate_root]
      constructor
      · intro h
        exact ⟨rest, rfl, h⟩
      · rintro ⟨_, ⟨⟩, h⟩
        exact h
    · simp [navigate, hroot]

/-- A reading from the start may be split anywhere behind the root. -/
theorem navigate_append {front back : List String} (hne : front ≠ []) :
    g.navigate (front ++ back) = .ok last
      ↔ ∃ d, g.navigate front = .ok d ∧ navigateFrom d back = .ok last := by
  obtain ⟨first, rest, rfl⟩ := List.exists_cons_of_ne_nil hne
  by_cases hroot : first = g.root
  · subst hroot
    rw [List.cons_append, navigate_root, navigate_root, navigateFrom_append]
  · -- Neither side is read: both begin with the wrong root.
    simp [navigate, hroot]

/-- What is read is read up to any segment. -/
theorem navigate_take {segments : List String} (h : g.navigate segments = .ok last) {n : Nat}
    (hn : 0 < n) : ∃ d, g.navigate (segments.take n) = .ok d := by
  have hne : segments.take n ≠ [] := by
    obtain ⟨rest, rfl, -⟩ := navigate_eq_ok_iff.mp h
    rw [ne_eq, List.take_eq_nil_iff, not_or]
    exact ⟨Nat.ne_of_gt hn, List.cons_ne_nil _ _⟩
  rw [← List.take_append_drop n segments] at h
  obtain ⟨d, hfront, -⟩ := (navigate_append hne).mp h
  exact ⟨d, hfront⟩

/-- A reading from the root fails at another root, or at a segment behind a part that is read. -/
theorem navigate_eq_error_iff {first : String} {rest : List String} {r : Rejection} :
    g.navigate (first :: rest) = .error r
      ↔ first ≠ g.root ∧ r = ⟨first, [], .unknownRoot, false⟩
        ∨ ∃ front segment back d, first :: rest = front ++ segment :: back
          ∧ g.navigate front = .ok d ∧ d.read segment = .error r := by
  by_cases hroot : first = g.root
  · subst hroot
    rw [navigate_root, navigateFrom_eq_error_iff]
    constructor
    · rintro ⟨front, segment, back, d, rfl, hfront, hsegment⟩
      refine Or.inr ⟨g.root :: front, segment, back, d, rfl, ?_, hsegment⟩
      rw [navigate_root, hfront]
    · rintro (⟨hne, -⟩ | ⟨front, segment, back, d, hsegments, hfront, hsegment⟩)
      · exact absurd rfl hne
      · obtain ⟨tail, rfl, htail⟩ := navigate_eq_ok_iff.mp hfront
        exact ⟨tail, segment, back, d, (List.cons.inj hsegments).2, htail, hsegment⟩
  · -- Nothing is read behind another root, so no later segment can be to blame.
    have herror : g.navigate (first :: rest) = .error ⟨first, [], .unknownRoot, false⟩ := by
      simp [navigate, hroot]
    rw [herror]
    constructor
    · intro h
      exact Or.inl ⟨hroot, (Except.error.inj h).symm⟩
    · rintro (⟨-, rfl⟩ | ⟨front, segment, back, d, hsegments, hfront, -⟩)
      · rfl
      · obtain ⟨tail, rfl, -⟩ := navigate_eq_ok_iff.mp hfront
        exact absurd (List.cons.inj hsegments).1 hroot

end Grammar

/-! ### The moves of a reading -/

namespace Cursor

variable {c d next last : Cursor}

/-- A segment is written as it was read, unless it is a single value in parentheses. -/
theorem written_moveFor (c : Cursor) (segment : String) :
    (c.moveFor segment).written = segment
      ∨ ∃ v, segment = enclose [v] ∧ c.moveFor segment = .value [v]
        ∧ valueSeparator ∉ v.toList := by
  unfold moveFor
  split
  · exact Or.inl rfl
  · cases hread : readValues? segment with
    | none => exact Or.inl rfl
    | some values =>
      have hsegment : segment = enclose values := eq_enclose_of_readValues? hread
      -- Parentheses are written again around two values or more, and around none.
      by_cases hone : ∃ v, values = [v]
      · obtain ⟨v, rfl⟩ := hone
        exact Or.inr ⟨v, hsegment, rfl,
          separator_not_mem_of_readValues? hread v (List.mem_singleton.mpr rfl)⟩
      · refine Or.inl ?_
        rw [Option.getD_some, Move.written, writeValues_eq_enclose fun v hv => hone ⟨v, hv⟩,
          hsegment]

/-- The moves that a reading makes, as far as it gets. -/
def readMoves (c : Cursor) : List String → List Move
  | [] => []
  | segment :: rest =>
    c.moveFor segment ::
      match c.read segment with
      | .ok next => next.readMoves rest
      | .error _ => []

/-- The moves of a reading are that of its first segment and those of the rest. -/
theorem readMoves_cons {segment : String} {rest : List String} (h : c.read segment = .ok next) :
    c.readMoves (segment :: rest) = c.moveFor segment :: next.readMoves rest := by
  rw [readMoves, h]

/-- A reading is the run of its moves. -/
theorem run_readMoves {segments : List String}
    (h : Grammar.navigateFrom c segments = .ok last) : c.run (c.readMoves segments) = .ok last := by
  induction segments generalizing c with
  | nil => exact h
  | cons segment rest ih =>
    obtain ⟨next, hread, hrest⟩ := Grammar.navigateFrom_cons.mp h
    rw [readMoves_cons hread, run_cons]
    exact ⟨next, hread, ih hrest⟩

/-- A reading makes one move for each segment. -/
theorem length_readMoves {segments : List String}
    (h : Grammar.navigateFrom c segments = .ok last) :
    (c.readMoves segments).length = segments.length := by
  induction segments generalizing c with
  | nil => rfl
  | cons segment rest ih =>
    obtain ⟨next, hread, hrest⟩ := Grammar.navigateFrom_cons.mp h
    rw [readMoves_cons hread, List.length_cons, List.length_cons, ih hrest]

/-- The moves of a reading in two parts are those of the parts. -/
theorem readMoves_append {front back : List String}
    (h : Grammar.navigateFrom c front = .ok d) :
    c.readMoves (front ++ back) = c.readMoves front ++ d.readMoves back := by
  induction front generalizing c with
  | nil =>
    cases h
    rfl
  | cons segment rest ih =>
    obtain ⟨next, hread, hrest⟩ := Grammar.navigateFrom_cons.mp h
    rw [List.cons_append, readMoves_cons hread, readMoves_cons hread, ih hrest, List.cons_append]

/-- A reading writes what its moves write. -/
theorem segments_of_navigateFrom {segments : List String}
    (h : Grammar.navigateFrom c segments = .ok last) :
    last.segments = c.segments ++ (c.readMoves segments).map Move.written :=
  segments_of_run (run_readMoves h)

/-- A reading writes as many segments as it reads. -/
theorem length_segments_of_navigateFrom {segments : List String}
    (h : Grammar.navigateFrom c segments = .ok last) :
    last.segments.length = c.segments.length + segments.length := by
  rw [segments_of_navigateFrom h, List.length_append, List.length_map, length_readMoves h]

end Cursor

/-! ### Readings of scopes -/

/-- The scope of the first `n` segments. -/
def Scope.front (a : Scope) (n : Nat) (hn : 0 < n) : Scope where
  segments := a.segments.take n
  segments_ne := by
    rw [ne_eq, List.take_eq_nil_iff, not_or]
    exact ⟨Nat.ne_of_gt hn, a.segments_ne⟩
  isSegment := fun s hs => a.isSegment s (List.mem_of_mem_take hs)

/-- The first segments of a scope. -/
@[simp] theorem Scope.segments_front (a : Scope) (n : Nat) (hn : 0 < n) :
    (a.front n hn).segments = a.segments.take n := rfl

namespace Grammar

variable {g : Grammar} {c : Cursor}

/-- A cursor behind a reading is one behind a run from the root. -/
theorem exists_run_of_navigate {segments : List String} (h : g.navigate segments = .ok c) :
    ∃ ms, (Cursor.ofGrammar g).run ms = .ok c := by
  obtain ⟨rest, -, hrest⟩ := navigate_eq_ok_iff.mp h
  exact ⟨_, Cursor.run_readMoves hrest⟩

/-- A reading writes as many segments as it reads. -/
theorem length_segments_of_navigate {segments : List String} (h : g.navigate segments = .ok c) :
    c.segments.length = segments.length := by
  obtain ⟨rest, rfl, hrest⟩ := navigate_eq_ok_iff.mp h
  rw [Cursor.length_segments_of_navigateFrom hrest, List.length_cons, Nat.add_comm]
  rfl

/-- The segments of a cursor that was reached from the root are those of a scope. -/
theorem toScope_of_run {c : Cursor} {ms : List Move} (hg : g.WellFormed)
    (hrun : (Cursor.ofGrammar g).run ms = .ok c) :
    ∃ s, c.toScope = .ok s ∧ s.segments = c.segments := by
  have hsegments : c.segments = g.root :: ms.map Move.written := Cursor.segments_of_run hrun
  have hwritten := Cursor.isWritten_of_run (Cursor.wellFormed_ofGrammar hg) hrun
  -- The root is a token, and whatever a move writes can be a segment.
  have hsegment : ∀ segment ∈ c.segments, IsSegment segment := by
    intro segment hmem
    rw [hsegments] at hmem
    rcases List.mem_cons.mp hmem with rfl | hmem
    · exact isSegment_of_isToken hg.root_token
    · obtain ⟨m, hm, rfl⟩ := List.mem_map.mp hmem
      exact (hwritten m hm).isSegment
  have hne : c.segments ≠ [] := by
    rw [hsegments]
    exact List.cons_ne_nil _ _
  exact ⟨⟨c.segments, hne, hsegment⟩, Scope.ofSegments_segments ⟨c.segments, hne, hsegment⟩, rfl⟩

/-- A scope is read as the one that the cursor at the end of the reading stands for. -/
theorem parse_eq_ok_iff {s r : Scope} :
    (g.parse s).1 = .ok r ↔ ∃ c, g.navigate s.segments = .ok c ∧ c.toScope = .ok r := by
  unfold parse
  split
  · next rejection hnavigate => simp [hnavigate]
  · next c hnavigate =>
    split
    · next e hscope => simp [hnavigate, hscope]
    · next result hscope => simp [hnavigate, hscope]

/-- What is read is the segments of a scope, which is the result. -/
theorem parse_of_navigate (hg : g.WellFormed) {s : Scope} (h : g.navigate s.segments = .ok c) :
    ∃ r, (g.parse s).1 = .ok r ∧ r.segments = c.segments := by
  obtain ⟨ms, hrun⟩ := exists_run_of_navigate h
  obtain ⟨r, hscope, hsegments⟩ := toScope_of_run hg hrun
  exact ⟨r, parse_eq_ok_iff.mpr ⟨c, h, hscope⟩, hsegments⟩

/-- A scope is accepted exactly if it can be read to the end. -/
theorem accepts_iff (hg : g.WellFormed) {s : Scope} :
    g.accepts s = true ↔ ∃ c, g.navigate s.segments = .ok c := by
  rw [accepts]
  constructor
  · intro h
    cases hparse : (g.parse s).1 with
    | error e =>
      rw [hparse] at h
      cases h
    | ok r =>
      obtain ⟨c, hnavigate, -⟩ := parse_eq_ok_iff.mp hparse
      exact ⟨c, hnavigate⟩
  · rintro ⟨c, hnavigate⟩
    obtain ⟨r, hparse, -⟩ := parse_of_navigate hg hnavigate
    rw [hparse]
    rfl

end Grammar

end AccessScopes
