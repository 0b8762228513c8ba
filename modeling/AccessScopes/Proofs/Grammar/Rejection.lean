import AccessScopes.Proofs.Grammar.RoundTrip
import Mathlib.Control.Monad.Basic

/-!
# `AccessScopes.Proofs.Grammar.Rejection`: where a reading stops

A rejection holds the segments that were accepted before it. Their number is the position of the
segment that was refused, and what stands behind this position plays no part.

* `Grammar.Stopped` splits the segments of a rejected scope at this position, and
  `Grammar.stopped_of_navigate` finds the split.
* `Grammar.StopsAt` says the same in terms of readings of whole scopes: which of the scopes that
  begin a scope are accepted, and which scopes are rejected in the same way.
* `Grammar.parse_stopsAt`: every rejection is of this kind, and every beginning of an accepted
  scope is accepted.
-/

set_option autoImplicit false

namespace AccessScopes

namespace Grammar

variable {g : Grammar} {s t : Scope}

/-- Whether a key is a segment, or the single value that the segment holds in parentheses. -/
def NamesSegment (key segment : String) : Prop :=
  key = segment ∨ ∃ v, segment = enclose [v] ∧ valueSeparator ∉ v.toList ∧ key = v

/-- Whether the rejection `r` comes from `segment` behind `front`: these are the segments that are
read before, and the reading gets no further, whatever follows. -/
structure Stopped (g : Grammar) (front : List String) (segment : String) (r : Rejection) : Prop where
  length_path : r.path.length = front.length
  names : NamesSegment r.key segment
  read : front ≠ [] → ∃ c, g.navigate front = .ok c ∧ c.segments = r.path
  root : front = [] ↔ (front ++ [segment]).head? ≠ some g.root
  refused : ∀ back, g.navigate (front ++ segment :: back) = .error r

/-- The rejection of a segment names it, and the segments accepted before it. -/
theorem rejection_of_read {c : Cursor} {segment : String} {r : Rejection}
    (h : c.read segment = .error r) : NamesSegment r.key segment ∧ r.path = c.segments := by
  obtain ⟨hkey, hpath⟩ := Cursor.rejection_of_move h
  refine ⟨?_, hpath⟩
  rw [hkey]
  rcases Cursor.written_moveFor c segment with hsame | ⟨v, hsegment, hvalue, hsep⟩
  · exact Or.inl hsame
  · rw [hvalue]
    exact Or.inr ⟨v, hsegment, hsep, rfl⟩

/-- A reading that fails is stopped by one of the segments. -/
theorem stopped_of_navigate {segments : List String} {r : Rejection} (hne : segments ≠ [])
    (h : g.navigate segments = .error r) :
    ∃ front segment back, segments = front ++ segment :: back ∧ g.Stopped front segment r := by
  obtain ⟨first, rest, rfl⟩ := List.exists_cons_of_ne_nil hne
  rcases navigate_eq_error_iff.mp h with ⟨hroot, rfl⟩ | ⟨front, segment, back, d, hsplit, hd, hread⟩
  · -- Another root is refused before anything is read.
    exact ⟨[], first, rest, rfl,
      { length_path := rfl
        names := Or.inl rfl
        read := fun hnil => absurd rfl hnil
        root := by simpa using hroot
        refused := fun back => navigate_eq_error_iff.mpr (Or.inl ⟨hroot, rfl⟩) }⟩
  · obtain ⟨hkey, hpath⟩ := rejection_of_read hread
    obtain ⟨tail, rfl, -⟩ := navigate_eq_ok_iff.mp hd
    have hlength : r.path.length = (g.root :: tail).length := by
      rw [hpath, length_segments_of_navigate hd]
    exact ⟨g.root :: tail, segment, back, hsplit,
      { length_path := hlength
        names := hkey
        read := fun _ => ⟨d, hd, hpath.symm⟩
        root := by simp
        -- The reading up to the segment does not look at what follows it.
        refused := fun back =>
          navigate_eq_error_iff.mpr (Or.inr ⟨_, segment, back, d, rfl, hd, hread⟩) }⟩

/-- The path of a rejection is empty only where the first segment was rejected. -/
theorem Stopped.path_eq_nil_iff {front : List String} {segment : String} {r : Rejection}
    (hstop : g.Stopped front segment r) : r.path = [] ↔ front = [] := by
  rw [← List.length_eq_zero_iff, hstop.length_path, List.length_eq_zero_iff]

/-! ### Rejected scopes -/

/-- A scope is rejected with the rejection of its reading, marked as recorded. -/
theorem parse_eq_rejection_iff {e : Rejection} :
    (g.parse s).1 = .error (.rejection e)
      ↔ ∃ r, g.navigate s.segments = .error r ∧ e = { r with audited := true } := by
  unfold parse
  split
  · next r hnavigate => simp [hnavigate, eq_comm]
  · next c hnavigate =>
    split
    · simp [hnavigate]
    · simp [hnavigate]

/-- What the rejection `e` says about the scope `s`, with its number of accepted segments as the
position:

- `length_lt`: the position is one of the scope;
- `root_iff`: it is the first one exactly if the scope has another root;
- `accepts_iff`: the accepted beginnings of the scope are those that end at the position or before
  it, so the position is the length of the longest of them;
- `parse_front`: that longest one is read as the segments that the rejection holds;
- `names`: the key is the segment at the position, or the value that it holds in parentheses;
- `parse_eq`: every scope with the same segments up to there and with this segment is rejected in
  the same way. -/
structure StopsAt (g : Grammar) (s : Scope) (e : Rejection) : Prop where
  length_lt : e.path.length < s.length
  root_iff : e.path = [] ↔ s.segments.head? ≠ some g.root
  accepts_iff : ∀ n (hn : 0 < n), n ≤ s.length →
    (g.accepts (s.front n hn) = true ↔ n ≤ e.path.length)
  parse_front : ∀ hn : 0 < e.path.length,
    ∃ r, (g.parse (s.front e.path.length hn)).1 = .ok r ∧ r.segments = e.path
  names : ∃ segment, s.segments[e.path.length]? = some segment ∧ NamesSegment e.key segment
  parse_eq : ∀ t : Scope, s.segments.take (e.path.length + 1) <+: t.segments →
    (g.parse t).1 = .error (.rejection e)

/-- The beginnings of a scope that is stopped behind `front`: those up to there are read, and no
others. -/
theorem accepts_front_iff (hg : g.WellFormed) {front back : List String} {segment : String}
    {r : Rejection} (hsplit : s.segments = front ++ segment :: back)
    (hstop : g.Stopped front segment r) {n : Nat} (hn : 0 < n) (hle : n ≤ s.length) :
    g.accepts (s.front n hn) = true ↔ n ≤ front.length := by
  rw [accepts_iff hg, Scope.segments_front, hsplit]
  constructor
  · rintro ⟨c, hc⟩
    rcases Nat.lt_or_ge front.length n with hlt | hfront
    · -- A longer beginning holds the refused segment.
      obtain ⟨k, rfl⟩ : ∃ k, n = front.length + (k + 1) := ⟨n - front.length - 1, by omega⟩
      rw [List.take_length_add_append, List.take_succ_cons, hstop.refused] at hc
      cases hc
    · exact hfront
  · intro hfront
    rw [List.take_append_of_le_length hfront]
    have hne : front ≠ [] := by
      rintro rfl
      rw [List.length_nil] at hfront
      omega
    obtain ⟨c, hc, -⟩ := hstop.read hne
    exact navigate_take hc hn

/-- A split of the segments says all that a rejection says. -/
theorem StopsAt.of_stopped (hg : g.WellFormed) {front back : List String} {segment : String}
    {r : Rejection} (hsplit : s.segments = front ++ segment :: back)
    (hstop : g.Stopped front segment r) : g.StopsAt s { r with audited := true } where
  length_lt := by
    show r.path.length < s.segments.length
    rw [hstop.length_path, hsplit, List.length_append, List.length_cons]
    omega
  root_iff := by
    have hhead : s.segments.head? = (front ++ [segment]).head? := by
      rw [hsplit]
      cases front <;> rfl
    rw [hhead]
    exact hstop.path_eq_nil_iff.trans hstop.root
  accepts_iff := by
    intro n hn hle
    rw [accepts_front_iff hg hsplit hstop hn hle, ← hstop.length_path]
  parse_front := by
    intro hn
    have hne : front ≠ [] := fun hnil =>
      absurd (hstop.path_eq_nil_iff.mpr hnil) (List.length_pos_iff.mp hn)
    obtain ⟨c, hc, hsegments⟩ := hstop.read hne
    have hfront : (s.front r.path.length hn).segments = front := by
      rw [Scope.segments_front, hstop.length_path, hsplit, List.take_left]
    rw [← hfront] at hc
    obtain ⟨result, hparse, hresult⟩ := parse_of_navigate hg hc
    exact ⟨result, hparse, hresult.trans hsegments⟩
  names := by
    refine ⟨segment, ?_, hstop.names⟩
    show s.segments[r.path.length]? = some segment
    rw [hsplit, hstop.length_path, List.getElem?_append_right (Nat.le_refl _), Nat.sub_self]
    rfl
  parse_eq := by
    intro t hprefix
    have htake : s.segments.take (r.path.length + 1) = front ++ [segment] := by
      rw [hsplit, hstop.length_path, List.take_length_add_append]
      rfl
    obtain ⟨rest, hrest⟩ := hprefix
    refine parse_eq_rejection_iff.mpr ⟨r, ?_, rfl⟩
    -- The other scope has the same front and the same segment behind it.
    rw [← hrest, htake, List.append_assoc]
    exact hstop.refused rest

/-- Readings stop at the first segment that does not fit. For every grammar that can be built and
every scope: if the scope is accepted, so is every beginning of it. If it is rejected, the
rejection tells the longest accepted beginning, how it is read, and the segment that was refused
there; and every scope that begins in the same way up to this segment is rejected alike. -/
theorem parse_stopsAt (hg : g.Built) (s : Scope) :
    (g.accepts s = true → ∀ n (hn : 0 < n), g.accepts (s.front n hn) = true)
      ∧ ∀ e, (g.parse s).1 = .error (.rejection e) → g.StopsAt s e := by
  have hwf : g.WellFormed := hg.wellFormed
  constructor
  · intro haccepts n hn
    obtain ⟨c, hc⟩ := (accepts_iff hwf).mp haccepts
    exact (accepts_iff hwf).mpr (navigate_take hc hn)
  · intro e he
    obtain ⟨r, hnavigate, rfl⟩ := parse_eq_rejection_iff.mp he
    obtain ⟨front, segment, back, hsplit, hstop⟩ := stopped_of_navigate s.segments_ne hnavigate
    exact StopsAt.of_stopped hwf hsplit hstop

/-- `api.(alice).write.(x)` is refused at `write`, behind `api.alice`: the value in parentheses is
accepted, and the subtree below it has only `read`. -/
theorem parse_stopsAt_overlapping :
    ∃ s e, Scope.ofText "api.(alice).write.(x)" = .ok s
      ∧ (overlapping.parse s).1 = .error (.rejection e)
      ∧ e.path = ["api", "alice"] ∧ e.key = "write" ∧ overlapping.StopsAt s e := by
  let s : Scope := ⟨["api", "(alice)", "write", "(x)"], by decide, by decide⟩
  let e : Rejection := ⟨"write", ["api", "alice"], .undeclared "*", true⟩
  have hparse : (overlapping.parse s).1 = .error (.rejection e) := by
    decide +kernel
  exact ⟨s, e, rfl, hparse, rfl, rfl, (parse_stopsAt overlapping_built s).2 e hparse⟩

end Grammar

end AccessScopes
