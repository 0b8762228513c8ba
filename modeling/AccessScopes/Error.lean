import AccessScopes.Description.Problem
import AccessScopes.Kind
import AccessScopes.Text.Separated

/-!
# `AccessScopes.Error`: why something is refused

Three things can go wrong with a call. An argument may be unusable (`ArgumentError`). A navigation
step may not be allowed by the grammar (`Rejection`). A value may be of a kind that does not
support what is asked of it (`Misuse`). The first two are what this library decides; the third is
the caller's slip. Each has one function that words it.
-/

set_option autoImplicit false

namespace AccessScopes

/-- The character between two segments of a written scope. -/
def separator : Char := '.'

/-- The segment that stands for any one segment. -/
def wildcard : String := "*"

/-- Quoted items with commas between them. -/
def quotedItems (items : List String) : String :=
  ", ".intercalate (items.map Text.quote)

/-- The items as a tuple; a tuple of one item has a comma too. -/
def quotedTuple : List String → String
  | [item] => "(" ++ Text.quote item ++ ",)"
  | items => "(" ++ quotedItems items ++ ")"

/-- The items as a list. -/
def quotedList (items : List String) : String :=
  "[" ++ quotedItems items ++ "]"

/-- An argument that cannot be turned into what is needed, or a misplaced declaration. -/
inductive ArgumentError where
  | noSegments
  | emptySegment (segments : List String)
  | separatorInSegment (segments : List String)
  | notAScope (kind : Kind)
  | notScopes (kind : Kind)
  | notMergeable (kind : Kind)
  | invalidName (name : String)
  /-- The node has an any-node already. -/
  | anyDeclared (node : String)
  /-- The node belongs to a grammar whose declaration is over. -/
  | sealed (node : String)
  | invalidPattern (source : String) (fault : Pattern.Fault)
deriving DecidableEq, Repr

/-- The words for an unusable argument. -/
def ArgumentError.message : ArgumentError → String
  | .noSegments => "scope must have at least one segment"
  | .emptySegment segments =>
    "scope segments must not be empty: " ++ Text.quote (Text.join separator segments)
  | .separatorInSegment segments =>
    "scope segments must not contain '.': " ++ quotedTuple segments
  | .notAScope kind => "can't build a scope from " ++ kind.name
  | .notScopes kind => "can't build scopes from " ++ kind.name
  | .notMergeable kind => "Can't merge with " ++ kind.name
  | .invalidName name => "invalid segment name: " ++ Text.quote name
  | .anyDeclared node => "node " ++ Text.quote node ++ " already declares an any-node"
  | .sealed node => "grammar node " ++ Text.quote node ++ " is sealed"
  | .invalidPattern source fault => fault.report "invalid value pattern: " source

/-- Why a grammar does not allow a step. -/
inductive Reason where
  | unknownRoot
  /-- No literal or alias of the node has this name. -/
  | undeclared (node : String)
  /-- The node has nothing that a wildcard could stand for. -/
  | noChildren (node : String)
  /-- The node has no pattern that values could satisfy. -/
  | noConstraint (node : String)
  | mismatch (value pattern : String)
  | noValue
  /-- A cursor needs a node to stand on. -/
  | noNode
  /-- A reason in the words of the caller. -/
  | stated (text : String)
deriving DecidableEq, Repr

/-- The words for a reason. -/
def Reason.text : Reason → String
  | .unknownRoot => "unknown root"
  | .undeclared node => "not declared under " ++ Text.quote node
  | .noChildren node => Text.quote node ++ " has no children"
  | .noConstraint node => "no value constraint under " ++ Text.quote node
  | .mismatch value pattern => Text.quote value ++ " does not match " ++ Text.quote pattern
  | .noValue => "no value given"
  | .noNode => "no grammar node matches"
  | .stated text => text

/-- A step that the grammar does not allow: the offending key, the segments accepted before it,
and the reason. It is audited once a record of it has been written. -/
structure Rejection where
  key : String
  path : List String
  reason : Reason
  audited : Bool
deriving DecidableEq, Repr

/-- The words for a rejected step; a reason without words is left out. -/
def Rejection.message (r : Rejection) : String :=
  let head := "invalid scope hierarchy: " ++ Text.quote r.key ++ " after "
    ++ Text.quote (Text.join separator r.path)
  if r.reason.text.isEmpty then head else head ++ " (" ++ r.reason.text ++ ")"

/-- The order comparisons, by their signs. -/
inductive Comparison where
  | ge
  | le
  | gt
  | lt
deriving DecidableEq, Repr

/-- The sign of a comparison. -/
def Comparison.sign : Comparison → String
  | .ge => ">="
  | .le => "<="
  | .gt => ">"
  | .lt => "<"

/-- The comparison with its operands exchanged. -/
def Comparison.flip : Comparison → Comparison
  | .ge => .le
  | .le => .ge
  | .gt => .lt
  | .lt => .gt

/-- A request that a value of its kind does not support. -/
inductive Misuse where
  | notIterable (kind : Kind)
  | notComparable (comparison : Comparison) (left right : Kind)
  /-- A value that can change cannot be a key or a member of a set. -/
  | unhashable (kind : Kind)
deriving DecidableEq, Repr

/-- The words for a misuse. -/
def Misuse.message : Misuse → String
  | .notIterable kind => Text.quote kind.qualifiedName ++ " object is not iterable"
  | .notComparable comparison left right =>
    Text.quote comparison.sign ++ " not supported between instances of "
      ++ Text.quote left.qualifiedName ++ " and " ++ Text.quote right.qualifiedName
  | .unhashable kind => "unhashable type: " ++ Text.quote kind.qualifiedName

/-- Anything that makes a call fail. -/
inductive Failure where
  | argument (cause : ArgumentError)
  | rejection (cause : Rejection)
  | misuse (cause : Misuse)
  /-- A position outside the segments of a scope. -/
  | noSuchSegment
  /-- A position that no machine word can hold. -/
  | positionTooLarge
  /-- A slice that does not move. -/
  | zeroStep
  /-- A guard mode that is none of the two, as written. -/
  | unknownMode (written : String)
  /-- A description with problems, of which there is at least one. -/
  | description (model : Description.Model) (problems : List Description.Problem)
deriving DecidableEq, Repr

/-- The words for a failure. -/
def Failure.message : Failure → String
  | .argument cause => cause.message
  | .rejection cause => cause.message
  | .misuse cause => cause.message
  | .noSuchSegment => "tuple index out of range"
  | .positionTooLarge => "cannot fit 'int' into an index-sized integer"
  | .zeroStep => "slice step cannot be zero"
  | .unknownMode written => "unknown guard mode: " ++ written
  | .description model problems =>
    toString problems.length ++ " problems in " ++ model.title

/-- An outcome as part of a larger call. -/
def liftArgument {α : Type} (result : Except ArgumentError α) : Except Failure α :=
  result.mapError .argument

/-- A call on an argument succeeds, as one of all that may fail, exactly when it does on its own. -/
theorem liftArgument_eq_ok_iff {α : Type} {result : Except ArgumentError α} {a : α} :
    liftArgument result = .ok a ↔ result = .ok a := by
  cases result with
  | error e =>
    show Except.error (Failure.argument e) = .ok a ↔ _
    simp
  | ok b =>
    show Except.ok b = .ok a ↔ _
    simp

/-- A navigation outcome as part of a larger call. -/
def liftRejection {α : Type} (result : Except Rejection α) : Except Failure α :=
  result.mapError .rejection

end AccessScopes
