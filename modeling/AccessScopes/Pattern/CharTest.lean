import AccessScopes.Text.Blank
import AccessScopes.Text.Case
import AccessScopes.Text.Word

/-!
# `AccessScopes.Pattern.CharTest`: tests on one character

A test compares a character with one code point or with a set of code points and named classes. A
fold says how case is treated. With a fold, characters are compared in lower case, and lower-case
forms of the same capital count as equal.

A set with a fold has a rule of its own for code points beyond the basic plane, that is, beyond
four hexadecimal digits. A single one is compared as written with the character in lower case; so
a capital there finds nothing. A range is searched for the lower-case and the upper-case form of
the character. Named classes are asked about the lower-case form. A set without any cased code
point is not folded at all.
-/

set_option autoImplicit false

namespace AccessScopes.Pattern

/-- The named classes of characters. -/
inductive CharClass where
  | digit
  | blank
  | word
deriving DecidableEq, Repr

/-- Whether a character belongs to a class; with `ascii` set, only basic Latin belongs to any. -/
def CharClass.holds (ascii : Bool) (c : Char) (cls : CharClass) : Bool :=
  if ascii then
    match cls with
    | .digit => c.isDigit
    | .blank => c == ' ' || ('\t' ≤ c && c ≤ '\r')
    | .word => c.isAlphanum || c == '_'
  else
    match cls with
    | .digit => Text.isDigit c
    | .blank => Text.isBlank c
    | .word => Text.isWord c

/-- How case is treated: as written, disregarded for basic Latin, or disregarded for all
scripts. -/
inductive Fold where
  | exact
  | basic
  | full
deriving DecidableEq, Repr

namespace Fold

/-- The code point of a capital of basic Latin. -/
def isBasicCapital (code : Nat) : Bool :=
  'A'.toNat ≤ code && code ≤ 'Z'.toNat

/-- The distance between the cases of basic Latin. -/
def basicDistance : Nat := 'a'.toNat - 'A'.toNat

/-- The form in which code points are compared. -/
def lower (fold : Fold) (code : Nat) : Nat :=
  match fold with
  | .exact => code
  | .basic => if isBasicCapital code then code + basicDistance else code
  | .full => Text.lowerCode code

/-- Other code points that count as equal to one in its compared form. -/
def siblings (fold : Fold) (code : Nat) : List Nat :=
  match fold with
  | .full => Text.lowerSiblings code
  | _ => []

/-- Whether some code point between two others, ends included, comes in two cases. -/
def hasCased (fold : Fold) (first last : Nat) : Bool :=
  match fold with
  | .exact => false
  | .basic =>
    (first ≤ 'Z'.toNat && 'A'.toNat ≤ last) || (first ≤ 'z'.toNat && 'a'.toNat ≤ last)
  | .full => Text.hasCasedCode first last

/-- Whether a code point comes in two cases. -/
def isCased (fold : Fold) (code : Nat) : Bool :=
  match fold with
  | .full => Text.isCasedCode code
  | _ => fold.hasCased code code

/-- The code points that count as equal to one in its compared form. -/
def variants (fold : Fold) (code : Nat) : List Nat :=
  match fold with
  | .exact => [code]
  | .basic =>
    -- A capital is no compared form.
    if isBasicCapital code then []
    else if isBasicCapital (code - basicDistance) then [code, code - basicDistance]
    else [code]
  | .full => Text.lowerVariants code

/-- Whether two code points count as equal. -/
def same (fold : Fold) (code other : Nat) : Bool :=
  if fold.isCased code then
    let low := fold.lower code
    (low :: fold.siblings low).contains (fold.lower other)
  else code == other

end Fold

/-- One member of a set: a code point, a closed range of them, or a named class or its
complement. -/
inductive CharItem where
  | code (n : Nat)
  | range (first last : Nat)
  | named (cls : CharClass) (negated : Bool)
deriving DecidableEq, Repr

/-- The last code point of the basic plane. -/
def lastBasic : Nat := 0xffff

namespace CharItem

/-- Whether an item makes its set a folded one. -/
def folds (fold : Fold) : CharItem → Bool
  | .code n => fold != .exact && (fold.isCased n || lastBasic < n)
  | .range first last => fold != .exact && (lastBasic < last || fold.hasCased first last)
  | .named .. => false

/-- Whether an item of a set holds a code point, which is in lower case if the set is folded. -/
def holds (fold : Fold) (ascii : Bool) (code : Nat) : CharItem → Bool
  | .code n =>
    -- Beyond the basic plane a code point is not folded, but the character has been.
    if lastBasic < n then code == n
    else (fold.lower n :: fold.siblings (fold.lower n)).contains code
  | .range first last =>
    if fold = .exact then first ≤ code && code ≤ last
    else
      (fold.variants code).any (fun n => n ≤ lastBasic && first ≤ n && n ≤ last)
        || (lastBasic < last &&
          [code, Text.upperCode code].any fun n => first ≤ n && n ≤ last)
  | .named cls negated => cls.holds ascii (Char.ofNat code) != negated

end CharItem

/-- What a test compares a character with. -/
inductive CharShape where
  | one (code : Nat)
  | set (items : List CharItem)
deriving DecidableEq, Repr

/-- A test on one character, or its negation. -/
structure CharTest where
  negated : Bool
  shape : CharShape
  fold : Fold
  /-- Whether named classes hold characters of basic Latin only. -/
  ascii : Bool
deriving DecidableEq, Repr

/-- Whether a set holds a character. -/
def holdsAny (fold : Fold) (ascii : Bool) (items : List CharItem) (c : Char) : Bool :=
  let code := if items.any (·.folds fold) then fold.lower c.toNat else c.toNat
  items.any (·.holds fold ascii code)

/-- Whether a character passes the test. -/
def CharTest.holds (test : CharTest) (c : Char) : Bool :=
  let found := match test.shape with
    | .one code => test.fold.same code c.toNat
    | .set items => holdsAny test.fold test.ascii items c
  found != test.negated

end AccessScopes.Pattern
