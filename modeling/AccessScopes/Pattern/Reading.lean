import AccessScopes.Pattern.Lexeme

/-!
# `AccessScopes.Pattern.Reading`: from lexemes to an expression

`Reading` is what has been read so far: the branches of the innermost group, and one level for
every group that is still open. Each lexeme is one step of `Reading.step`, and `Expr.ofText` folds
the step over the lexemes of a text.

A plain group that switches no option is only a bracket: its parts become parts of the branch
around it, unless it is repeated.
-/

set_option autoImplicit false

namespace AccessScopes.Pattern

/-- What a following repeat may do with a part. -/
inductive Role where
  | repeatable
  /-- An anchor gives a repeat nothing to repeat. -/
  | place
  /-- A repeat is not repeated again. -/
  | repetition
deriving DecidableEq, Repr

/-- The last part of a branch, which a repeat applies to. -/
structure LastPart where
  items : List Item
  role : Role

/-- The branches of a group: the finished ones, and the parts of the current one. -/
structure Branches where
  finished : List (List Item)
  before : List Item
  last : Option LastPart

namespace Branches

/-- A group with nothing in it. -/
def none : Branches := ⟨[], [], .none⟩

/-- The parts of the current branch. -/
def current (b : Branches) : List Item :=
  b.before ++ (b.last.map LastPart.items).getD []

/-- All branches in order. -/
def all (b : Branches) : List (List Item) :=
  b.finished ++ [b.current]

/-- Adds a part to the current branch. -/
def push (b : Branches) (part : LastPart) : Branches :=
  ⟨b.finished, b.current, some part⟩

/-- Ends the current branch and begins the next. -/
def bar (b : Branches) : Branches :=
  ⟨b.all, [], .none⟩

/-- Whether nothing has been read. -/
def isBlank (b : Branches) : Bool :=
  b.finished.isEmpty && b.before.isEmpty && b.last.isNone

end Branches

/-- What becomes of a group when it ends. -/
inductive GroupKind where
  | capture (number : Nat)
  | plain (switch : Switch)
  | atomic
  | look (behind negated : Bool)
  | either (number : Nat)
deriving DecidableEq, Repr

/-- An open group: where it began, what surrounds it, and how the text around it is read. -/
structure OpenGroup where
  position : Nat
  kind : GroupKind
  outside : Branches
  flags : Flags
  behindFrom : Option Nat

/-- The state between two lexemes. -/
structure Reading where
  inner : Branches
  groups : List OpenGroup
  /-- The options that hold here. -/
  flags : Flags
  /-- The options of the whole pattern. -/
  global : Flags
  /-- How many numbered groups have begun. -/
  numbered : Nat
  /-- The names of groups with their numbers. -/
  names : List (String × Nat)
  /-- The numbered groups that have ended, with their widths. -/
  closed : List (Nat × Width)
  /-- While looking back, the number of the first group that was not begun before. -/
  behindFrom : Option Nat
  /-- The groups that conditions ask for, with the positions of the first ones. -/
  asked : List (Nat × Nat)

namespace Reading

/-- The state in front of the first lexeme. -/
def initial (flags : Flags) : Reading :=
  ⟨.none, [], flags, flags, 0, [], [], none, []⟩

/-- Adds a part to the innermost group. -/
def push (r : Reading) (items : List Item) (role : Role) : Reading :=
  { r with inner := r.inner.push ⟨items, role⟩ }

/-- Adds an atom. -/
def pushAtom (r : Reading) (atom : Atom) : Reading :=
  match atom with
  | .mark _ => r.push [.atom atom] .place
  | _ => r.push [.atom atom] .repeatable

/-- Repeats the last part. -/
def repeatLast (r : Reading) (position least : Nat) (most : Option Nat)
    (preference : Preference) : Except Fault Reading :=
  match r.inner.last with
  | none => .error (.at .nothingToRepeat position)
  | some part =>
    match part.role with
    | .place => .error (.at .nothingToRepeat position)
    | .repetition => .error (.at .multipleRepeat position)
    | .repeatable =>
      let again := Expr.repeated (sequence r.flags part.items) least most preference
      .ok { r with inner := { r.inner with last := some ⟨[.compound again], .repetition⟩ } }

/-- The width of a group that a reference names. The group has to have ended, and while looking
back it has to have begun before. `position` is where an open group is told, and `finish` where a
group of the wrong place is. -/
def closedWidth (r : Reading) (group position finish : Nat) : Except Fault Width :=
  match r.closed.lookup group with
  | none => .error (.at .openReference position)
  | some width =>
    if r.behindFrom.any (· ≤ group) then .error (.at .referenceBehind finish)
    else .ok width

/-- Adds a reference to a group. -/
def pushReference (r : Reading) (group position finish : Nat) : Except Fault Reading := do
  let width ← r.closedWidth group position finish
  return r.pushAtom (.reference group width)

/-- A group that has begun under a name. -/
def groupNamed (r : Reading) (name : String) (position : Nat) : Except Fault Nat :=
  match r.names.lookup name with
  | some group => .ok group
  | none => .error (.at (.unknownGroupName name) position)

/-- Begins a group. -/
def begin (r : Reading) (position : Nat) (kind : GroupKind) (flags : Flags)
    (behindFrom : Option Nat) : Reading :=
  { r with
    inner := .none
    groups := ⟨position, kind, r.inner, r.flags, r.behindFrom⟩ :: r.groups
    flags := flags
    behindFrom := behindFrom }

/-- Begins a group that is remembered. Names are given once; the fault lies where the name
begins. -/
def beginCapture (r : Reading) (position : Nat) (name : Option String) : Except Fault Reading :=
  let number := r.numbered + 1
  let inside := { r.begin position (.capture number) r.flags r.behindFrom with
    numbered := number }
  match name with
  | none => .ok inside
  | some name =>
    match r.names.lookup name with
    | some previous => .error (.at (.repeatedGroupName name number previous) (position + 4))
    | none => .ok { inside with names := (name, number) :: r.names }

/-- Begins a condition. While looking back, the group that it asks for has to have ended. -/
def beginEither (r : Reading) (placed : Placed) (condition : Condition) :
    Except Fault Reading := do
  let name := placed.position + 3
  let (group, asked) ← match condition with
    | .named text => do
      let group ← r.groupNamed text name
      pure (group, r.asked)
    | .numbered group =>
      let known := r.asked.any fun entry => entry.1 == group
      pure (group, if known then r.asked else r.asked ++ [(group, name)])
  if r.behindFrom.isSome then
    let _ ← r.closedWidth group placed.finish placed.finish
  return { r.begin placed.position (.either group) r.flags r.behindFrom with asked := asked }

/-- Begins any group. -/
def beginGroup (r : Reading) (placed : Placed) : GroupHead → Except Fault Reading
  | .capture name => r.beginCapture placed.position name
  | .plain switch =>
    .ok (r.begin placed.position (.plain switch) (r.flags.switched switch) r.behindFrom)
  | .atomic => .ok (r.begin placed.position .atomic r.flags r.behindFrom)
  | .look behind negated =>
    let from? := if behind then some (r.behindFrom.getD (r.numbered + 1)) else r.behindFrom
    .ok (r.begin placed.position (.look behind negated) r.flags from?)
  | .either condition => r.beginEither placed condition

/-- Ends a group: what it becomes is a part of the group around it. -/
def endGroup (r : Reading) (group : OpenGroup) (groups : List OpenGroup) : Reading :=
  let items := alternatives r.flags r.inner.all
  let body := sequence r.flags items
  let outside := { r with
    inner := group.outside, groups := groups, flags := group.flags
    behindFrom := group.behindFrom }
  match group.kind with
  | .capture number =>
    { outside.push [.compound (.group number body)] .repeatable with
      closed := (number, body.width) :: r.closed }
  | .plain switch =>
    -- A mere bracket leaves its parts to the branch around it.
    if switch.isNeutral then outside.push items .repeatable
    else outside.push [.compound body] .repeatable
  | .atomic => outside.push [.compound (.atomic body)] .repeatable
  | .look behind negated =>
    let width := if behind then some body.width else none
    outside.push [.compound (.look width negated body)] .repeatable
  | .either number =>
    let branches := r.inner.all.map (sequence r.flags)
    let both := Expr.either number (branches.headD .empty) (branches.tail.headD .empty)
    outside.push [.compound both] .repeatable

/-- Whether the innermost group is a condition whose second branch has begun. -/
def inSecondBranch (r : Reading) : Bool :=
  match r.groups with
  | ⟨_, .either _, _, _, _⟩ :: _ => !r.inner.finished.isEmpty
  | _ => false

/-- Fails if the whole pattern has two alphabets. -/
def checkAlphabet (r : Reading) : Except Fault Unit :=
  if r.global.contains .ascii && r.global.contains .unicode then
    .error ⟨.mixedAlphabets, none⟩
  else .ok ()

/-- Reads one lexeme. -/
def step (r : Reading) (placed : Placed) : Except Fault Reading :=
  match placed.lexeme with
  | .atom atom => .ok (r.pushAtom atom)
  | .reference group =>
    if group ≤ r.numbered then r.pushReference group placed.position placed.finish
    else .error (.at (.invalidReference group) (placed.position + 1))
  | .namedReference name => do
    let group ← r.groupNamed name (placed.position + 4)
    r.pushReference group (placed.position + 4) placed.finish
  | .repeated least most preference => r.repeatLast placed.position least most preference
  | .bar =>
    if r.inSecondBranch then .error (.at .manyBranches placed.position)
    else .ok { r with inner := r.inner.bar }
  | .group head => r.beginGroup placed head
  | .groupEnd =>
    match r.groups with
    | [] => do
      r.checkAlphabet
      .error (.at .unbalancedParenthesis placed.position)
    | group :: groups => .ok (r.endGroup group groups)
  | .flags on =>
    -- Options for the whole pattern stand in front of everything else.
    if r.groups.isEmpty && r.inner.isBlank then
      .ok { r with flags := r.flags ++ on, global := r.global ++ on }
    else .error (.at .lateFlags placed.position)
  | .skipped => .ok r
  | .broken fault => .error fault

/-- The expression at the end of the pattern, where no group may be open. -/
def finish (r : Reading) : Except Fault Expr := do
  match r.groups with
  | group :: _ => .error (.at .unterminatedGroup group.position)
  | [] =>
    r.checkAlphabet
    match r.asked.find? fun entry => r.numbered < entry.1 with
    | some (group, position) => .error (.at (.invalidReference group) position)
    | none =>
      let expr := sequence r.flags (alternatives r.flags r.inner.all)
      match expr.fault? (r.global.contains .template) with
      | some cause => .error ⟨cause, none⟩
      | none => .ok expr

end Reading

/-- Reads a written pattern under the given options. Gives the expression and all options of the
whole pattern. -/
def Expr.ofText (pattern : List Char) (flags : Flags) : Except Fault (Expr × Flags) := do
  let last ← (lexemes pattern).foldlM Reading.step (Reading.initial flags)
  let expr ← last.finish
  return (expr, last.global)

end AccessScopes.Pattern
