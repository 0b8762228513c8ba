import AccessScopes.Grammar.Basic

/-!
# `AccessScopes.Cursor`: moving through a grammar

A cursor holds the segments accepted so far and the places that agree with them. There may be
several: a wildcard over children stands for each of them, and from then on every step has to be
possible from all places at once. With the paths `own.read`, `own.delete` and `all.read` declared,
`*.read` is accepted and `*.delete` is not.

A cursor is a value. Every move gives a new one or the reason for refusing. `Cursor.run` makes
several moves, and `Cursor.moveFor` says which move a written segment stands for.
-/

set_option autoImplicit false

namespace AccessScopes

/-- A move of a cursor: by a name or the wildcard, or by values. -/
inductive Move where
  | step (key : String)
  | value (values : List String)
deriving DecidableEq, Repr

/-- Segments with the places that they may denote, of which there is at least one. -/
structure Cursor where
  segments : List String
  places : List Place
  places_ne : places ≠ []

namespace Cursor

/-- The cursor on the given places, each taken once. -/
def ofPlaces (segments : List String) (places : List Place) : Except Rejection Cursor :=
  if h : places = [] then .error ⟨"", segments, .noNode, false⟩
  else .ok
    { segments := segments
      places := distinctBy Place.path places
      places_ne := by
        cases places with
        | nil => exact absurd rfl h
        | cons => simp [distinctBy] }

/-- The cursor on the root of a grammar. -/
def ofGrammar (g : Grammar) : Cursor :=
  ⟨[g.root], [g.rootPlace], by simp⟩

/-- The rejection of a key at this cursor. -/
def reject (c : Cursor) (key : String) (reason : Reason) : Rejection :=
  ⟨key, c.segments, reason, false⟩

/-- Where the wildcard leads from one place: to the subtree of its slot, or else to every child. -/
def anyFrom (c : Cursor) (p : Place) : Except Rejection (List Place) :=
  match p.subtree? with
  | some subtree => .ok [subtree]
  | none =>
    -- Without a slot the wildcard stands for every child at once.
    if p.children.isEmpty then .error (c.reject wildcard (.noChildren p.name))
    else .ok p.children

/-- Moves by the wildcard. -/
def stepAny (c : Cursor) : Except Rejection Cursor := do
  let places ← c.places.mapM c.anyFrom
  ofPlaces (c.segments ++ [wildcard]) places.flatten

/-- Where a name leads from one place. -/
def namedFrom (c : Cursor) (key : String) (p : Place) : Except Rejection Place :=
  match p.named? key with
  | some place => .ok place
  | none => .error (c.reject key (.undeclared p.name))

/-- Moves by a name or by the wildcard. -/
def step (c : Cursor) (key : String) : Except Rejection Cursor :=
  if key = wildcard then c.stepAny
  else do
    let places ← c.places.mapM (c.namedFrom key)
    ofPlaces (c.segments ++ [key]) places

/-- Where values lead from one place: to the subtree of its slot, if each of them satisfies the
constraint there. -/
def valuesFrom (c : Cursor) (values : List String) (p : Place) : Except Rejection Place :=
  let refuse (reason : Reason) : Except Rejection Place :=
    .error (c.reject (writeValues values) reason)
  match p.node.wild with
  | some (⟨_, some pattern⟩, subtree) =>
    match values.find? (!pattern.admitsValue ·) with
    | some value => refuse (.mismatch value pattern.source)
    | none => .ok ⟨p.path ++ [wildcard], subtree⟩
  | _ => refuse (.noConstraint p.name)

/-- Moves by values, which form one segment. -/
def value (c : Cursor) (values : List String) : Except Rejection Cursor :=
  if values = [] then .error (c.reject (writeValues values) .noValue)
  else do
    let places ← c.places.mapM (c.valuesFrom values)
    ofPlaces (c.segments ++ [writeValues values]) places

/-- Whether some place has a wild slot. -/
def acceptsValues (c : Cursor) : Bool :=
  c.places.any (·.node.wild.isSome)

/-- Whether every place has a child or an alias of this name. -/
def hasStep (c : Cursor) (key : String) : Bool :=
  c.places.all fun p => (p.named? key).isSome

/-- The segments as a scope. -/
def toScope (c : Cursor) : Except ArgumentError Scope :=
  Scope.ofSegments c.segments

/-- The segments with dots between them. -/
def text (c : Cursor) : String :=
  Text.join separator c.segments

/-- Makes a move. -/
def move (c : Cursor) : Move → Except Rejection Cursor
  | .step key => c.step key
  | .value values => c.value values

/-- Makes the given moves, one after the other. -/
def run (c : Cursor) : List Move → Except Rejection Cursor
  | [] => .ok c
  | m :: rest =>
    match c.move m with
    | .ok next => next.run rest
    | .error r => .error r

/-- The move that a segment of a written scope stands for. The wildcard and the names in reach are
steps. Where no place takes values, any other segment is an unknown name. Else it is a list of
values in parentheses, or a single value. -/
def moveFor (c : Cursor) (segment : String) : Move :=
  if segment = wildcard || c.hasStep segment || !c.acceptsValues then .step segment
  else .value ((readValues? segment).getD [segment])

/-- Moves by a segment of a written scope. -/
def read (c : Cursor) (segment : String) : Except Rejection Cursor :=
  c.move (c.moveFor segment)

/-- A run of no moves leaves the cursor as it is. -/
@[simp] theorem run_nil (c : Cursor) : c.run [] = .ok c := rfl

/-- A run of moves is a run of the first of them and then, from where that leads, of the others. -/
theorem run_append (c : Cursor) (ms rest : List Move) :
    c.run (ms ++ rest) = (c.run ms).bind fun next => next.run rest := by
  induction ms generalizing c with
  | nil => rfl
  | cons m ms ih =>
    cases h : c.move m with
    | error r => simp [run, h, Except.bind]
    | ok next => simp [run, h, ih]

end Cursor

end AccessScopes
