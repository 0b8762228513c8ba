/-!
# `AccessScopes.Sequence.Slice`: elements by signed positions

A negative position counts from the end. A slice takes every step-th element from a start up to,
and not including, a stop; a negative step walks backwards. Bounds outside the list are moved to
its ends, and a bound that is left out is the end at which the walk begins or stops.
-/

set_option autoImplicit false

namespace AccessScopes

/-- Whether a machine word of 64 bits can hold a number. -/
def fitsWord (n : Int) : Bool :=
  -0x8000000000000000 ≤ n && n < 0x8000000000000000

/-- The element at a position; negative positions count from the end. -/
def elementAt? {α : Type} (xs : List α) (position : Int) : Option α :=
  let index := if position < 0 then position + xs.length else position
  if index < 0 then none else xs[index.toNat]?

/-- A bound of a slice as a position between `low` and `high`. -/
def clampBound (length low high : Int) (bound : Int) : Int :=
  let counted := if bound < 0 then bound + length else bound
  max low (min high counted)

/-- The positions of a slice with a step that is not zero. -/
def slicePositions (length : Nat) (start stop : Option Int) (step : Int) : List Nat :=
  -- Walking backwards, the walk stops in front of the first element.
  let low : Int := if step < 0 then -1 else 0
  let high : Int := if step < 0 then length - 1 else length
  let first := (start.map (clampBound length low high)).getD (if step < 0 then high else low)
  let last := (stop.map (clampBound length low high)).getD (if step < 0 then low else high)
  let distance := if step < 0 then first - last else last - first
  -- The number of steps is rounded up: the last one may reach beyond the stop.
  let width := step.natAbs
  let count := (distance.toNat + width - 1) / width
  (List.range count).map fun (k : Nat) => (first + step * k).toNat

/-- The elements of a slice; a step of zero has none to offer. -/
def slice? {α : Type} (xs : List α) (start stop : Option Int) (step : Int) : Option (List α) :=
  if step = 0 then none
  else some ((slicePositions xs.length start stop step).filterMap (xs[·]?))

end AccessScopes
