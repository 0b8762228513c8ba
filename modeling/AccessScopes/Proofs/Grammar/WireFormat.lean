import AccessScopes.Proofs.Grammar.RoundTrip
import Mathlib.Data.List.Forall2

/-!
# `AccessScopes.Proofs.Grammar.WireFormat`: what an accepted scope looks like

Segments of a scope come from many hands: names and aliases of a grammar, keys and values of a
caller, and pieces of a written text. Whatever they are, a cursor writes only three shapes, which
`WireSegment` describes by their characters. So no caller brings in another level, another member
of a list of values, a wildcard or a control character.

* `wireSegment_of_isWritten`: what a cursor writes has one of the three shapes.
* `Cursor.takenOver_of_read`: a segment that is read is taken over as it is, or without its
  parentheses if they hold a single token.
* `Cursor.takenOver_of_navigateFrom`: the same for a reading of any length, segment by segment.
* `Grammar.accepted_in_wire_format` states both for everything that a grammar accepts, and the
  shapes for every cursor that can be reached.
-/

set_option autoImplicit false

namespace AccessScopes

/-! ### The shapes of a segment -/

/-- A token, by its characters. -/
structure PlainToken (s : String) : Prop where
  ne_empty : s ≠ ""
  ne_wildcard : s ≠ "*"
  chars : ∀ c ∈ s.toList, Text.isPrintable c = true ∧ Text.isBlank c = false
    ∧ c ∉ ['.', ',', '(', ')']

/-- A segment on the wire: the wildcard, a token, or at least two tokens in parentheses. -/
inductive WireSegment : String → Prop
  | wildcard : WireSegment "*"
  | token {s : String} (h : PlainToken s) : WireSegment s
  | tokens {values : List String} (hlength : 2 ≤ values.length)
    (h : ∀ v ∈ values, PlainToken v) : WireSegment ("(" ++ ",".intercalate values ++ ")")

/-- Whether a segment of a result is taken over from what was read: as it is, or out of
parentheses that hold it alone. -/
def TakenOver (given result : String) : Prop :=
  result = given ∨ PlainToken result ∧ given = "(" ++ result ++ ")"

/-- What passes the test for tokens, by its characters. -/
theorem isToken_iff_plainToken {s : String} : isToken s = true ↔ PlainToken s := by
  -- The test and the description name the reserved characters in different orders.
  have hchar : ∀ c, isTokenChar c = true
      ↔ Text.isPrintable c = true ∧ Text.isBlank c = false ∧ c ∉ ['.', ',', '(', ')'] := by
    intro c
    simp only [isTokenChar, reserved, separator, valuesOpen, valuesClose, valueSeparator,
      Bool.and_eq_true, Bool.not_eq_true', List.contains_eq_mem, decide_eq_false_iff_not,
      List.mem_cons, List.not_mem_nil, or_false]
    tauto
  simp only [isToken_iff, hchar]
  exact ⟨fun h => ⟨h.1, h.2.1, h.2.2⟩, fun h => ⟨h.ne_empty, h.ne_wildcard, h.chars⟩⟩

/-- Joining pieces puts the separator between each and the next. -/
theorem Text.joinChars_eq_intercalate (sep : Char) (pieces : List (List Char)) :
    joinChars sep pieces = [sep].intercalate pieces := by
  induction pieces with
  | nil => rfl
  | cons piece pieces ih =>
    cases pieces with
    | nil => simp [joinChars]
    | cons next rest =>
      rw [joinChars_cons (List.cons_ne_nil next rest), ih, List.intercalate_cons_cons,
        List.append_assoc, List.singleton_append]

/-- Values in parentheses, as they are written. -/
theorem enclose_eq_append (values : List String) :
    enclose values = "(" ++ ",".intercalate values ++ ")" := by
  apply String.toList_inj.mp
  rw [toList_enclose, String.toList_append, String.toList_append, String.toList_intercalate,
    Text.join, String.toList_ofList, Text.joinChars_eq_intercalate]
  rfl

/-- A single value in parentheses, as it is written. -/
theorem enclose_singleton (v : String) : enclose [v] = "(" ++ v ++ ")" := by
  rw [enclose_eq_append, String.intercalate_singleton]

/-- What a cursor writes as one segment has one of the shapes. -/
theorem wireSegment_of_isWritten {s : String} (h : IsWritten s) : WireSegment s := by
  cases h with
  | wildcard => exact .wildcard
  | values values hne htoken =>
    have hplain : ∀ v ∈ values, PlainToken v := fun v hv =>
      isToken_iff_plainToken.mp (htoken v hv)
    -- A single value stands for itself, more of them need parentheses.
    rcases values with - | ⟨v, - | ⟨w, rest⟩⟩
    · exact absurd rfl hne
    · exact .token (hplain v (List.mem_singleton.mpr rfl))
    · rw [writeValues_eq_enclose (by simp), enclose_eq_append]
      exact .tokens (by simp) hplain

/-! ### Readings -/

namespace Cursor

variable {c next last : Cursor}

/-- A segment that is read is taken over as it is, or without its parentheses. -/
theorem takenOver_of_read {segment : String} (h : c.read segment = .ok next) :
    TakenOver segment (c.moveFor segment).written := by
  -- Only a single value in parentheses is written in another way than it was read.
  rcases written_moveFor c segment with hsame | ⟨v, hsegment, hvalue, -⟩
  · exact Or.inl hsame
  · -- The value in the parentheses was admitted, so it is a token.
    rw [read, hvalue] at h
    have hv : isToken v = true := isToken_of_value h v (List.mem_singleton.mpr rfl)
    rw [hvalue, Move.written, writeValues_singleton]
    refine Or.inr ⟨isToken_iff_plainToken.mp hv, ?_⟩
    rw [hsegment, enclose_singleton]

/-- Along a reading each segment is taken over in its place. -/
theorem takenOver_of_navigateFrom {segments : List String}
    (h : Grammar.navigateFrom c segments = .ok last) :
    List.Forall₂ TakenOver segments ((c.readMoves segments).map Move.written) := by
  induction segments generalizing c with
  | nil => exact .nil
  | cons segment rest ih =>
    obtain ⟨next, hread, hrest⟩ := Grammar.navigateFrom_cons.mp h
    rw [readMoves_cons hread, List.map_cons]
    exact .cons (takenOver_of_read hread) (ih hrest)

end Cursor

namespace Grammar

variable {g : Grammar} {c : Cursor}

/-- The segments of a cursor behind a run are the root, which is a name, and what the moves
wrote. -/
theorem wireSegment_of_run (hg : g.WellFormed) {ms : List Move}
    (hrun : (Cursor.ofGrammar g).run ms = .ok c) : ∀ t ∈ c.segments, WireSegment t := by
  have hsegments : c.segments = g.root :: ms.map Move.written := Cursor.segments_of_run hrun
  have hwritten := Cursor.isWritten_of_run (Cursor.wellFormed_ofGrammar hg) hrun
  rw [hsegments, List.forall_mem_cons]
  refine ⟨.token (isToken_iff_plainToken.mp hg.root_token), fun t ht => ?_⟩
  obtain ⟨m, hm, rfl⟩ := List.mem_map.mp ht
  exact wireSegment_of_isWritten (hwritten m hm)

/-- The same for a reading from the start, whose first segment is the root. -/
theorem takenOver_of_navigate {segments : List String} (h : g.navigate segments = .ok c) :
    List.Forall₂ TakenOver segments c.segments := by
  obtain ⟨rest, rfl, hrest⟩ := navigate_eq_ok_iff.mp h
  rw [Cursor.segments_of_navigateFrom hrest]
  exact .cons (Or.inl rfl) (Cursor.takenOver_of_navigateFrom hrest)

/-- What is accepted is in the wire format. Take a grammar that can be built.

1. Every value that it accepts means a scope `s`, and the result has as many segments as `s`. Each
   of them is the segment of `s` in the same place, or the single token that this one holds in
   parentheses; and each has one of the three shapes.
2. The segments of every cursor that a run of moves reaches from the root have these shapes too.
   They always form a scope, with the text of the cursor. -/
theorem accepted_in_wire_format (hg : g.Built) :
    (∀ v r, (g.parseValue v).1 = .ok r → ∃ s, v.toScope = .ok s
        ∧ r.length = s.length
        ∧ List.Forall₂ TakenOver s.segments r.segments
        ∧ ∀ t ∈ r.segments, WireSegment t)
      ∧ ∀ ms c, (Cursor.ofGrammar g).run ms = .ok c →
        (∀ t ∈ c.segments, WireSegment t)
          ∧ ∃ s, c.toScope = .ok s ∧ s.segments = c.segments ∧ s.text = c.text := by
  constructor
  · intro v r h
    cases hv : v.toScope with
    | error e =>
      rw [parseValue, hv] at h
      cases h
    | ok s =>
      rw [parseValue, hv] at h
      obtain ⟨c, hnavigate, hscope⟩ := parse_eq_ok_iff.mp h
      -- A reading is a run of moves, so the shapes are those of any cursor behind a run.
      obtain ⟨ms, hrun⟩ := exists_run_of_navigate hnavigate
      have hr : r.segments = c.segments := Scope.segments_of_ofSegments hscope
      refine ⟨s, rfl, ?_, ?_, ?_⟩
      · rw [Scope.length, hr, length_segments_of_navigate hnavigate, Scope.length]
      · rw [hr]
        exact takenOver_of_navigate hnavigate
      · rw [hr]
        exact wireSegment_of_run hg.wellFormed hrun
  · intro ms c hrun
    obtain ⟨s, hscope, hsegments⟩ := toScope_of_run hg.wellFormed hrun
    refine ⟨wireSegment_of_run hg.wellFormed hrun, s, hscope, hsegments, ?_⟩
    rw [Scope.text, Cursor.text, hsegments]

/-- `api.(alice).read` and `api.(alice,bob).read` are accepted. The first loses its parentheses, the
second is taken over as it is. -/
theorem accepted_in_wire_format_overlapping :
    ∃ one two, (overlapping.parseValue (.text "api.(alice).read")).1 = .ok one
      ∧ one.text = "api.alice.read" ∧ one.length = 3 ∧ (∀ t ∈ one.segments, WireSegment t)
      ∧ (overlapping.parseValue (.text "api.(alice,bob).read")).1 = .ok two
      ∧ two.text = "api.(alice,bob).read" ∧ two.length = 3
      ∧ ∀ t ∈ two.segments, WireSegment t := by
  have hone : ∃ r, (overlapping.parseValue (.text "api.(alice).read")).1 = .ok r
      ∧ r.text = "api.alice.read" := exists_result_of_text (by decide +kernel)
  have htwo : ∃ r, (overlapping.parseValue (.text "api.(alice,bob).read")).1 = .ok r
      ∧ r.text = "api.(alice,bob).read" := exists_result_of_text (by decide +kernel)
  obtain ⟨one, hone, honeText⟩ := hone
  obtain ⟨two, htwo, htwoText⟩ := htwo
  obtain ⟨haccepted, -⟩ := accepted_in_wire_format overlapping_built
  obtain ⟨s, hs, honeLength, -, honeShapes⟩ := haccepted _ _ hone
  obtain ⟨t, ht, htwoLength, -, htwoShapes⟩ := haccepted _ _ htwo
  cases hs
  cases ht
  exact ⟨one, two, hone, honeText, honeLength, honeShapes, htwo, htwoText, htwoLength, htwoShapes⟩

end Grammar

end AccessScopes
