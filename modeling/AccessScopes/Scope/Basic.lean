import AccessScopes.Error
import AccessScopes.Sequence.Slice

/-!
# `AccessScopes.Scope.Basic`: permission scopes

A scope is a sequence of segments, written with dots: `accounts.1.read`. A shorter scope is more
general than every scope it begins, and the segment `*` stands for exactly one segment:

* `accounts` covers `accounts.1.read`;
* `accounts.*` covers `accounts.1.read`;
* `accounts.1` does not cover `accounts.2.read`.

Segments are neither empty nor do they hold a dot. So a scope is determined by its text, and
`ofText?_text` reads it back.
-/

set_option autoImplicit false

namespace AccessScopes

/-- A piece of text that can be one segment of a scope. -/
def IsSegment (s : String) : Prop :=
  s ≠ "" ∧ separator ∉ s.toList

instance (s : String) : Decidable (IsSegment s) :=
  inferInstanceAs (Decidable (_ ∧ _))

/-- A permission scope: at least one segment. -/
structure Scope where
  segments : List String
  segments_ne : segments ≠ []
  isSegment : ∀ s ∈ segments, IsSegment s
deriving DecidableEq

namespace Scope

/-- The scope with the given segments. Of several faults the first in this order counts: no
segment at all, an empty segment, a segment with a dot. -/
def ofSegments (segments : List String) : Except ArgumentError Scope :=
  if hne : segments = [] then .error .noSegments
  else if hempty : "" ∈ segments then .error (.emptySegment segments)
  else if hsep : ∃ s ∈ segments, separator ∈ s.toList then .error (.separatorInSegment segments)
  else .ok ⟨segments, hne, fun s hs =>
    ⟨fun e => hempty (e ▸ hs), fun m => hsep ⟨s, hs, m⟩⟩⟩

/-- The scope that a text writes. -/
def ofText (text : String) : Except ArgumentError Scope :=
  ofSegments (Text.split separator text)

/-- The segments with dots between them. -/
def text (a : Scope) : String :=
  Text.join separator a.segments

/-- The number of segments. -/
def length (a : Scope) : Nat :=
  a.segments.length

/-- The number of wildcards among the segments. -/
def wildcards (a : Scope) : Nat :=
  a.segments.count wildcard

/-- Whether each segment on the left equals its counterpart or is a wildcard; the right side may
have further segments. -/
def segmentsCover : List String → List String → Bool
  | [], _ => true
  | _ :: _, [] => false
  | mine :: mineRest, theirs :: theirsRest =>
    (mine == theirs || mine == wildcard) && segmentsCover mineRest theirsRest

/-- Whether the first scope is at least as general as the second. -/
def covers (a b : Scope) : Bool :=
  segmentsCover a.segments b.segments

/-- How general a scope is: first by length, then by wildcards. -/
structure Rank where
  length : Nat
  wildcards : Nat
deriving DecidableEq, Repr

/-- The rank of a scope. -/
def rank (a : Scope) : Rank :=
  ⟨a.length, a.wildcards⟩

/-- Whether the first rank is that of the more general scope, or the ranks are equal: fewer
segments come first, and of equally many those with more wildcards. -/
def Rank.le (a b : Rank) : Bool :=
  a.length < b.length || (a.length == b.length && b.wildcards ≤ a.wildcards)

/-- Whether a scope may stand in front of another in an ordered collection. -/
def precedes (a b : Scope) : Bool :=
  a.rank.le b.rank

/-- A table of replacements for segments. Of two entries with one key the later counts. -/
abbrev Substitution := List (String × String)

/-- What a segment becomes. -/
def Substitution.apply (table : Substitution) (s : String) : String :=
  (table.reverse.lookup s).getD s

/-- Replaces every segment that the table names, all at once. -/
def expand (a : Scope) (table : Substitution) : Except ArgumentError Scope :=
  ofSegments (a.segments.map table.apply)

/-- The segment at a position; negative positions count from the end. -/
def segmentAt (a : Scope) (position : Int) : Except Failure String :=
  if !fitsWord position then .error .positionTooLarge
  else
    match elementAt? a.segments position with
    | some s => .ok s
    | none => .error .noSuchSegment

/-- The segments of a slice. -/
def slice (a : Scope) (start stop step : Option Int) : Except Failure (List String) :=
  match slice? a.segments start stop (step.getD 1) with
  | some segments => .ok segments
  | none => .error .zeroStep

/-- A scope is nothing but its segments. -/
@[ext] theorem ext {a b : Scope} (h : a.segments = b.segments) : a = b := by
  cases a; cases b; cases h; rfl

/-- The segments of a scope pass the checks, and they make the same scope again. -/
theorem ofSegments_segments (a : Scope) : ofSegments a.segments = .ok a := by
  have hempty : "" ∉ a.segments := fun h => (a.isSegment _ h).1 rfl
  have hsep : ¬ ∃ s ∈ a.segments, separator ∈ s.toList :=
    fun ⟨s, hs, m⟩ => (a.isSegment s hs).2 m
  simp only [ofSegments, a.segments_ne, hempty, hsep, dite_false]

/-- A scope made of segments has these segments and no others. -/
theorem segments_of_ofSegments {segments : List String} {a : Scope}
    (h : ofSegments segments = .ok a) : a.segments = segments := by
  unfold ofSegments at h
  split at h
  · cases h
  · split at h
    · cases h
    · split at h
      · cases h
      · cases h; rfl

/-- The order of ranks is transitive, as sorting by it needs. -/
theorem Rank.le_trans (a b c : Rank) (hab : a.le b) (hbc : b.le c) : a.le c := by
  simp only [Rank.le, Bool.or_eq_true, Bool.and_eq_true, decide_eq_true_eq, beq_iff_eq] at *
  omega

/-- Any two ranks can be compared, as sorting by rank needs. -/
theorem Rank.le_total (a b : Rank) : a.le b ∨ b.le a := by
  simp only [Rank.le, Bool.or_eq_true, Bool.and_eq_true, decide_eq_true_eq, beq_iff_eq]
  omega

/-- Cutting a scope's text gives its segments. -/
theorem split_text (a : Scope) : Text.split separator a.text = a.segments := by
  have hne : a.segments.map String.toList ≠ [] := by simpa using a.segments_ne
  have hsep : ∀ piece ∈ a.segments.map String.toList, separator ∉ piece := by
    intro piece hp
    obtain ⟨s, hs, rfl⟩ := List.mem_map.mp hp
    exact (a.isSegment s hs).2
  simp [Text.split, text, Text.join, Text.splitChars_joinChars hne hsep]

/-- A scope is read back from its text. -/
theorem ofText_text (a : Scope) : ofText a.text = .ok a := by
  rw [ofText, split_text, ofSegments_segments]

end Scope

end AccessScopes
