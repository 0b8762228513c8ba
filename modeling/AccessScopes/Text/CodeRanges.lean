/-!
# `AccessScopes.Text.CodeRanges`: sets of code points

A property of characters is stored as the increasing list of the closed ranges of code points
that have it. `CodeRanges.contains` reads the list from the low end and stops at the first range
that starts above the character, so a character of low code costs a few comparisons.
-/

set_option autoImplicit false

namespace AccessScopes.Text

/-- A set of code points as closed ranges, in increasing order. -/
structure CodeRanges where
  ranges : List (Nat × Nat)

/-- Whether a code point lies in one of the ranges, which are taken in increasing order. -/
def inRanges (code : Nat) : List (Nat × Nat) → Bool
  | [] => false
  | (first, last) :: rest =>
    if code < first then false else if code ≤ last then true else inRanges code rest

/-- Whether the character belongs to the set. -/
def CodeRanges.contains (set : CodeRanges) (c : Char) : Bool :=
  inRanges c.toNat set.ranges

end AccessScopes.Text
