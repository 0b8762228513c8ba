import AccessScopes.Pattern.Flag
import AccessScopes.Pattern.Width
import AccessScopes.Sequence.Distinct

/-!
# `AccessScopes.Pattern.Atom`: the smallest parts of a pattern

An atom is written without any other part inside. What it means depends on the options that hold
where it stands, and `Atom.expr` gives its meaning.

Parts that can begin in the same way are told apart as late as possible: `alternatives` moves a
common beginning of all branches in front of them. If all branches are single characters or sets
then, they become one set.
-/

set_option autoImplicit false

namespace AccessScopes.Pattern

/-- An anchor as written. -/
inductive Mark where
  | lineStart
  | lineEnd
  | textStart
  | textEnd
  | wordEdge
  | noWordEdge
deriving DecidableEq, Repr

/-- A part without parts. -/
inductive Atom where
  | char (negated : Bool) (code : Nat)
  | set (negated : Bool) (items : List CharItem)
  | anyChar
  | mark (mark : Mark)
  | reference (group : Nat) (width : Width)
deriving DecidableEq, Repr

/-- How case is treated under the given options. -/
def Flags.fold (flags : Flags) : Fold :=
  if flags.contains .anyCase then if flags.contains .ascii then .basic else .full
  else .exact

/-- The anchor that a mark means under the given options. -/
def Mark.anchor (flags : Flags) : Mark → Anchor
  | .lineStart => if flags.contains .multiline then .lineStart else .start
  | .lineEnd => if flags.contains .multiline then .lineEnd else .lastLineEnd
  | .textStart => .start
  | .textEnd => .finish
  | .wordEdge => .wordEdge (flags.contains .ascii)
  | .noWordEdge => .noWordEdge (flags.contains .ascii)

/-- What an atom means under the given options. -/
def Atom.expr (flags : Flags) : Atom → Expr
  | .char negated code => .char ⟨negated, .one code, flags.fold, flags.contains .ascii⟩
  | .set negated items => .char ⟨negated, .set items, flags.fold, flags.contains .ascii⟩
  | .anyChar => .anyChar (flags.contains .dotAll)
  | .mark m => .anchor (m.anchor flags)
  | .reference group width => .reference group flags.fold width

/-- The atom for the members of a set. A set of one code point is a character. -/
def Atom.ofItems (negated : Bool) (items : List CharItem) : Atom :=
  match distinct items with
  | [.code code] => .char negated code
  | items => .set negated items

/-- A part of a branch: an atom, or an expression made of others. -/
inductive Item where
  | atom (atom : Atom)
  | compound (expr : Expr)

/-- What a part means under the given options. -/
def Item.expr (flags : Flags) : Item → Expr
  | .atom a => a.expr flags
  | .compound e => e

/-- The parts one behind the other. -/
def sequence (flags : Flags) (items : List Item) : Expr :=
  items.foldr (fun item rest => .seq (item.expr flags) rest) .empty

/-- The atom at the beginning of a branch. -/
def leadingAtom? : List Item → Option Atom
  | .atom a :: _ => some a
  | _ => none

/-- The atoms with which all branches begin, and the branches behind them. -/
def commonStart : List Item → List (List Item) → List Item × List (List Item)
  | .atom a :: rest, others =>
    if others.all fun branch => leadingAtom? branch = some a then
      let (shared, branches) := commonStart rest (others.map List.tail)
      (.atom a :: shared, branches)
    else ([], (.atom a :: rest) :: others)
  | first, others => ([], first :: others)

/-- The members of the set that a branch means, if it is a character or a set. -/
def branchItems? : List Item → Option (List CharItem)
  | [.atom (.char false code)] => some [.code code]
  | [.atom (.set false items)] => some items
  | _ => none

/-- Any of several branches. -/
def anyOf (flags : Flags) : List (List Item) → Expr
  | [] => .empty
  | [branch] => sequence flags branch
  | branch :: rest => .alt (sequence flags branch) (anyOf flags rest)

/-- The parts that mean any of the given branches. -/
def alternatives (flags : Flags) : List (List Item) → List Item
  | [] => []
  | [branch] => branch
  | first :: others =>
    let (shared, branches) := commonStart first others
    match branches.mapM branchItems? with
    | some items => shared ++ [.atom (.set false (distinct items.flatten))]
    | none => shared ++ [.compound (anyOf flags branches)]

end AccessScopes.Pattern
