import AccessScopes.Pattern.Expr
import AccessScopes.Pattern.Fault

/-!
# `AccessScopes.Pattern.Width`: the width of expressions

`Expr.width` bounds the number of characters that a match takes. Looking back is possible over a
fixed width only, since it starts that many characters in front. `Expr.fault?` finds what is wrong
with an expression whose text has been read without a fault.
-/

set_option autoImplicit false

namespace AccessScopes.Pattern

namespace Width

/-- No character at all. -/
def zero : Width := ⟨0, some 0⟩

/-- Exactly one character. -/
def one : Width := ⟨1, some 1⟩

/-- One match behind another. -/
def add (a b : Width) : Width :=
  ⟨a.least + b.least, a.most.bind fun m => b.most.map (m + ·)⟩

/-- Either of two matches. -/
def union (a b : Width) : Width :=
  ⟨Nat.min a.least b.least, a.most.bind fun m => b.most.map (Nat.max m)⟩

/-- At least `least` and, if given, at most `most` copies of a match. -/
def times (a : Width) (least : Nat) (most : Option Nat) : Width :=
  ⟨a.least * least,
    if a.most = some 0 || most = some 0 then some 0
    else a.most.bind fun m => most.map (m * ·)⟩

end Width

/-- The width of the matches of an expression. -/
def Expr.width : Expr → Width
  | .empty | .anchor _ | .look .. => .zero
  | .char _ | .anyChar _ => .one
  | .seq first second => first.width.add second.width
  | .alt left right => left.width.union right.width
  | .repeated body least most _ => body.width.times least most
  | .group _ body | .atomic body => body.width
  | .reference _ _ width => width
  | .either _ yes no => yes.width.union no.width

/-- The number of characters that one can look back at most. -/
def farthestBack : Nat := 0xFFFFFFFF

/-- The first fault of an expression from the left: looking back over an unknown or too great
width, or a repeat in a template. -/
def Expr.fault? (template : Bool) : Expr → Option Cause
  | .seq first second | .alt first second | .either _ first second =>
    match first.fault? template with
    | some cause => some cause
    | none => second.fault? template
  | .repeated body _ _ preference =>
    if template then some (.repeatInTemplate preference) else body.fault? template
  | .group _ body | .atomic body => body.fault? template
  | .look (some width) _ body =>
    if farthestBack < width.least then some .farBehind
    else if width.most ≠ some width.least then some .unfixedBehind
    else body.fault? template
  | .look none _ body => body.fault? template
  | _ => none

end AccessScopes.Pattern
