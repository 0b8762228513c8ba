import AccessScopes.Proofs.Cursor.Reach
import AccessScopes.Proofs.Grammar.Constraint
import AccessScopes.Proofs.Grammar.Reading
import AccessScopes.Value.Coercion

/-!
# `AccessScopes.Proofs.Cursor.Constraint`: moves under other constraints

Moves ask a pattern whether it admits a value, and rejections tell how it is written. So patterns
that are alike in both may take each other's place: from corresponding cursors every move leads to
corresponding cursors, or is refused with the same words.

* `Place.movesFrom_mapPattern`: one place.
* `Cursor.move_mapPattern` and `Cursor.moveFor_mapPattern`: one move, and which one a segment
  stands for.
* `Grammar.navigateFrom_mapPattern` and `Grammar.parseValue_mapPattern`: readings. The grammars
  give the same answer to every value, and record the same.
-/

set_option autoImplicit false

namespace AccessScopes

/-- Whether two patterns are written alike and admit the same values. -/
structure Pattern.Alike (p q : Pattern) : Prop where
  source : q.source = p.source
  admitsValue : ∀ value, q.admitsValue value = p.admitsValue value

/-! ### One place -/

namespace Place

variable {f : Pattern → Pattern} {p : Place}

/-- The same place in the grammar with other patterns. -/
def mapPattern (f : Pattern → Pattern) (p : Place) : Place :=
  ⟨p.path, p.node.mapConstraint f⟩

/-- The subtree of the slot under other patterns. -/
theorem subtree?_mapPattern (f : Pattern → Pattern) (p : Place) :
    (p.mapPattern f).subtree? = p.subtree?.map (mapPattern f) := by
  rw [subtree?, subtree?, mapPattern, Node.wild_mapConstraint, Option.map_map, Option.map_map]
  rfl

/-- The children under other patterns. Names and order stay. -/
theorem children_mapPattern (f : Pattern → Pattern) (p : Place) :
    (p.mapPattern f).children = p.children.map (mapPattern f) := by
  rw [children, children, mapPattern, Node.children_mapConstraint, List.map_map, List.map_map]
  rfl

/-- The slot under other patterns. Its aliases stay. -/
theorem wild_mapPattern (f : Pattern → Pattern) (p : Place) :
    (p.mapPattern f).node.wild = p.node.wild.map fun w =>
      (⟨w.1.aliases, w.1.constraint.map f⟩, w.2.mapConstraint f) :=
  Node.wild_mapConstraint f p.node

/-- A name leads to the same place under other patterns. -/
theorem named?_mapPattern (f : Pattern → Pattern) (p : Place) (key : String) :
    (p.mapPattern f).named? key = (p.named? key).map (mapPattern f) := by
  have hchild : (p.mapPattern f).child? key = (p.child? key).map (mapPattern f) := by
    rw [child?, child?, mapPattern, Node.children_mapConstraint, Node.lookup_map, Option.map_map,
      Option.map_map]
    rfl
  rw [named?, named?, hchild, wild_mapPattern, subtree?_mapPattern]
  cases p.child? key with
  | some child => rfl
  | none =>
    -- The aliases, which decide now, are no part of what is exchanged.
    cases p.node.wild with
    | none => rfl
    | some w =>
      show (if w.1.aliases.contains key then p.subtree?.map (mapPattern f) else none)
        = Option.map (mapPattern f) (if w.1.aliases.contains key then p.subtree? else none)
      split
      · rfl
      · rfl

end Place

namespace Cursor

variable {f : Pattern → Pattern} {c : Cursor} {p : Place} {m : Move}

/-- The same cursor in the grammar with other patterns. -/
def mapPattern (f : Pattern → Pattern) (c : Cursor) : Cursor where
  segments := c.segments
  places := c.places.map (Place.mapPattern f)
  places_ne := by simpa using c.places_ne

/-- At a place whose pattern is alike, values lead to the same subtree or are refused with the same
words. -/
theorem valuesFrom_mapPattern (h : p.node.AllConstraints fun x => x.Alike (f x)) (c : Cursor)
    (values : List String) :
    (c.mapPattern f).valuesFrom values (p.mapPattern f)
      = (c.valuesFrom values p).map (Place.mapPattern f) := by
  rw [valuesFrom, valuesFrom, Place.wild_mapPattern]
  cases hslot : p.node.wild with
  | none => rfl
  | some w =>
    obtain ⟨⟨aliases, constraint⟩, subtree⟩ := w
    cases constraint with
    | none => rfl
    | some pattern =>
      have halike : pattern.Alike (f pattern) := h.constraint hslot rfl
      -- Alike patterns refuse the same value first, and tell the same source.
      have hfind : values.find? (fun v => !(f pattern).admitsValue v)
          = values.find? fun v => !pattern.admitsValue v := by
        simp only [halike.admitsValue]
      simp only [Option.map_some, hfind, halike.source]
      cases values.find? fun v => !pattern.admitsValue v with
      | none => rfl
      | some v => rfl

/-- A move by name succeeds or fails alike, with the same words. -/
theorem namedFrom_mapPattern (f : Pattern → Pattern) (c : Cursor) (key : String) (p : Place) :
    (c.mapPattern f).namedFrom key (p.mapPattern f)
      = (c.namedFrom key p).map (Place.mapPattern f) := by
  rw [namedFrom, namedFrom, Place.named?_mapPattern]
  cases p.named? key with
  | none => rfl
  | some q => rfl

/-- A move by the wildcard succeeds or fails alike, with the same words. -/
theorem anyFrom_mapPattern (f : Pattern → Pattern) (c : Cursor) (p : Place) :
    (c.mapPattern f).anyFrom (p.mapPattern f)
      = (c.anyFrom p).map (List.map (Place.mapPattern f)) := by
  rw [anyFrom, anyFrom, Place.subtree?_mapPattern, Place.children_mapPattern]
  cases p.subtree? with
  | some subtree => rfl
  | none =>
    cases p.children with
    | nil => rfl
    | cons child rest => rfl

/-- A move from one place succeeds or fails alike, if the patterns there are alike. -/
theorem movesFrom_mapPattern (h : p.node.AllConstraints fun x => x.Alike (f x)) (c : Cursor)
    (m : Move) :
    (c.mapPattern f).movesFrom m (p.mapPattern f)
      = (c.movesFrom m p).map (List.map (Place.mapPattern f)) := by
  cases m with
  | step key =>
    by_cases hkey : key = wildcard
    · simp only [movesFrom, hkey, if_true, anyFrom_mapPattern]
    · simp only [movesFrom, hkey, if_false, namedFrom_mapPattern]
      cases c.namedFrom key p <;> rfl
  | value values =>
    simp only [movesFrom, valuesFrom_mapPattern h]
    cases c.valuesFrom values p <;> rfl

/-! ### Moves and readings -/

/-- Places that correspond have the same paths, so the same of them are taken. -/
theorem ofPlaces_mapPattern (f : Pattern → Pattern) (segments : List String)
    (places : List Place) :
    ofPlaces segments (places.map (Place.mapPattern f))
      = (ofPlaces segments places).map (mapPattern f) := by
  cases places with
  | nil => rfl
  | cons p rest =>
    have hdistinct := distinctBy_map Place.path (Place.mapPattern f) (p :: rest)
    simp only [ofPlaces, List.map_cons, List.cons_ne_nil, dite_false, Except.map, Except.ok.injEq]
    exact Cursor.ext rfl hdistinct

/-- A move from all places succeeds or fails alike, if the patterns at each of them are alike. -/
theorem move_mapPattern (h : ∀ p ∈ c.places, p.node.AllConstraints fun x => x.Alike (f x))
    (m : Move) : (c.mapPattern f).move m = (c.move m).map (mapPattern f) := by
  have hplaces : (c.mapPattern f).places.mapM ((c.mapPattern f).movesFrom m)
      = (c.places.mapM (c.movesFrom m)).map (List.map (List.map (Place.mapPattern f))) :=
    mapM_map_of_forall fun p hp => movesFrom_mapPattern (h p hp) c m
  rw [move_eq, move_eq, hplaces]
  split
  · rfl
  · cases c.places.mapM (c.movesFrom m) with
    | error r => rfl
    | ok lists =>
      show ofPlaces (c.segments ++ [m.written]) (lists.map (List.map _)).flatten = _
      rw [← List.map_flatten, ofPlaces_mapPattern]
      rfl

/-- A segment stands for the same move under other patterns. -/
theorem moveFor_mapPattern (f : Pattern → Pattern) (c : Cursor) (segment : String) :
    (c.mapPattern f).moveFor segment = c.moveFor segment := by
  have hstep : (c.mapPattern f).hasStep segment = c.hasStep segment := by
    simp [hasStep, mapPattern, List.all_map, Function.comp_def, Place.named?_mapPattern]
  have haccepts : (c.mapPattern f).acceptsValues = c.acceptsValues := by
    simp [acceptsValues, mapPattern, List.any_map, Function.comp_def, Place.mapPattern]
  rw [moveFor, moveFor, hstep, haccepts]

end Cursor

namespace Grammar

variable {f : Pattern → Pattern} {g : Grammar} {c : Cursor}

/-- The grammar with other patterns. -/
def mapPattern (f : Pattern → Pattern) (g : Grammar) : Grammar :=
  { g with node := g.node.mapConstraint f }

/-- Readings from corresponding cursors correspond. -/
theorem navigateFrom_mapPattern (hg : g.WellFormed)
    (h : g.node.AllConstraints fun x => x.Alike (f x)) (hc : c.Within g)
    (segments : List String) :
    navigateFrom (c.mapPattern f) segments = (navigateFrom c segments).map (Cursor.mapPattern f) := by
  induction segments generalizing c with
  | nil => rfl
  | cons segment rest ih =>
    have hplaces : ∀ p ∈ c.places, p.node.AllConstraints fun x => x.Alike (f x) :=
      fun p hp => allConstraints_of_mem_walk hg h (hc p hp)
    have hread : (c.mapPattern f).read segment = (c.read segment).map (Cursor.mapPattern f) := by
      rw [Cursor.read, Cursor.read, Cursor.moveFor_mapPattern, Cursor.move_mapPattern hplaces]
    rw [navigateFrom, navigateFrom, hread]
    cases hnext : c.read segment with
    | error r => rfl
    | ok next => exact ih (hc.move hg hnext)

/-- Grammars whose patterns are alike read all values alike, and refuse them alike. -/
theorem parseValue_mapPattern (hg : g.WellFormed)
    (h : g.node.AllConstraints fun x => x.Alike (f x)) (v : Value) :
    (g.mapPattern f).parseValue v = g.parseValue v := by
  have hnavigate : ∀ segments, (g.mapPattern f).navigate segments
      = (g.navigate segments).map (Cursor.mapPattern f) := by
    intro segments
    cases segments with
    | nil => rfl
    | cons first rest =>
      show (if first = g.root then navigateFrom ((Cursor.ofGrammar g).mapPattern f) rest
        else .error ⟨first, [], .unknownRoot, false⟩) = _
      rw [navigateFrom_mapPattern hg h (Cursor.within_ofGrammar hg), navigate]
      split
      · rfl
      · rfl
  unfold parseValue
  cases v.toScope with
  | error e => rfl
  | ok s =>
    -- An answer has the segments of the last cursor, but none of its places.
    simp only [parse, hnavigate]
    cases g.navigate s.segments with
    | error r => rfl
    | ok c => rfl

end Grammar

end AccessScopes
