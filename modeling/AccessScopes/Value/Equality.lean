import AccessScopes.Value.Text

/-!
# `AccessScopes.Value.Equality`: equal values

Two values are equal if they say the same, even if their kinds differ: a scope equals its text,
and truth values equal the numbers one and zero. Scope sets are equal if they have the same
members in whatever order. Objects that say nothing by themselves, such as grammars or cursors,
are equal to nothing but themselves.

Sets and the keys of tables hold equal values only once. Collections that can change cannot be put
there.
-/

set_option autoImplicit false

namespace AccessScopes

namespace Value

/-- The number that a value equals. -/
def number? : Value → Option Int
  | bool b => some (if b then 1 else 0)
  | int n => some n
  | _ => none

/-- The text that a value equals. -/
def word? : Value → Option String
  | text s => some s
  | scope s => some s.text
  | _ => none

mutual

/-- Whether two values are equal. -/
def same : Value → Value → Bool
  | tuple xs, tuple ys => sameItems xs ys
  | null, null => true
  | bytes xs, bytes ys => xs == ys
  | scopeSet a, scopeSet b => a.same b
  | pattern p, pattern q => p.source == q.source && p.shownFlags == q.shownFlags
  | a, b =>
    -- Neither side may be without a number or a word: two absent ones are not equal.
    (a.number?.isSome && a.number? == b.number?) || (a.word?.isSome && a.word? == b.word?)

/-- Whether two lists of values are equal item by item. -/
def sameItems : List Value → List Value → Bool
  | [], [] => true
  | x :: xs, y :: ys => x.same y && sameItems xs ys
  | _, _ => false

end

mutual

/-- The kind that keeps a value out of sets and keys. -/
def unhashable? : Value → Option Kind
  | list _ => some .list
  | set _ => some .set
  | table _ => some .table
  | tuple items => unhashableItem? items
  | _ => none

/-- The kind that keeps the first such item out. -/
def unhashableItem? : List Value → Option Kind
  | [] => none
  | item :: rest =>
    match item.unhashable? with
    | some kind => some kind
    | none => unhashableItem? rest

end

/-- Accepts a value that can be put into a set. -/
def checkHashable (v : Value) : Except Failure Unit :=
  match v.unhashable? with
  | some kind => .error (.misuse (.unhashable kind))
  | none => .ok ()

/-- The values without repetition, if all of them can be put into a set. -/
def distinctItems (values : List Value) : Except Failure (List Value) := do
  values.forM checkHashable
  return values.foldl (fun seen v => if seen.any (·.same v) then seen else seen ++ [v]) []

/-- The set of the given values. -/
def ofItems (values : List Value) : Except Failure Value :=
  (distinctItems values).map set

/-- Writes a value under a key; an equal key keeps its place and form. -/
def putEntry (key value : Value) : List (Value × Value) → List (Value × Value)
  | [] => [(key, value)]
  | (k, v) :: rest => if k.same key then (k, value) :: rest else (k, v) :: putEntry key value rest

/-- The table of the given entries, written one after the other. -/
def entriesOf (entries : List (Value × Value)) : Except Failure (List (Value × Value)) := do
  entries.forM fun entry => entry.1.checkHashable
  return entries.foldl (fun table entry => putEntry entry.1 entry.2 table) []

end Value

end AccessScopes
