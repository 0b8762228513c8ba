import AccessScopes.Pattern.CharTest
import AccessScopes.Sequence.Keyed

/-!
# `AccessScopes.Pattern.Expr`: pattern expressions and where they match

An expression is matched by trying. `Expr.run` starts at a spot of the text and hands each spot
where a match may end to the rest of the task, in the order of preference, until the rest
succeeds. A repeat prefers many or few copies; a possessive repeat and an atomic group stay with
the first way that they find.

A repeat stops as soon as a copy beyond the required ones has taken nothing. So the number of
copies is bounded by the required ones and the characters ahead, and this bound is the fuel of the
repeat.

A group remembers what it took, for references and conditions behind it. `Expr.occursIn` asks for
a match that begins and ends anywhere.
-/

set_option autoImplicit false

namespace AccessScopes.Pattern

/-- A place in a text, between two characters or at an end, and what the groups have taken on the
way to it. -/
structure Spot where
  /-- The characters in front of the place, the nearest first. -/
  before : List Char
  ahead : List Char
  position : Nat
  taken : List (Nat × List Char)

namespace Spot

/-- The start of a text. -/
def start (text : List Char) : Spot :=
  ⟨[], text, 0, []⟩

/-- The spot behind the next character, if it passes a test. -/
def next? (s : Spot) (test : Char → Bool) : Option Spot :=
  match s.ahead with
  | [] => none
  | c :: rest =>
    if test c then
      some { s with before := c :: s.before, ahead := rest, position := s.position + 1 }
    else none

/-- The spot a number of characters back. -/
def back? (s : Spot) : Nat → Option Spot
  | 0 => some s
  | n + 1 =>
    match s.before with
    | [] => none
    | c :: rest =>
      back? { s with before := rest, ahead := c :: s.ahead, position := s.position - 1 } n

/-- The spot behind the given characters, if they come next up to case. -/
def past? (s : Spot) (fold : Fold) : List Char → Option Spot
  | [] => some s
  | c :: rest =>
    match s.next? fun d => fold.lower c.toNat == fold.lower d.toNat with
    | some t => t.past? fold rest
    | none => none

/-- Remembers what a group took since the spot where it began. -/
def close (s : Spot) (group : Nat) (opened : Spot) : Spot :=
  { s with taken := put group (s.before.take (s.position - opened.position)).reverse s.taken }

end Spot

/-- Conditions on a spot that take up no character. -/
inductive Anchor where
  /-- The start of the text. -/
  | start
  /-- The start of the text, or the place behind a line feed. -/
  | lineStart
  /-- The end of the text, or the place before a line feed that ends the text. -/
  | lastLineEnd
  /-- The end of the text, or the place before a line feed. -/
  | lineEnd
  /-- The end of the text. -/
  | finish
  /-- A place with a word character on exactly one side. -/
  | wordEdge (ascii : Bool)
  /-- Any other place of a text that is not empty. -/
  | noWordEdge (ascii : Bool)
deriving DecidableEq, Repr

/-- Whether the characters on both sides of a spot are different as to words. -/
def Spot.isWordEdge (s : Spot) (ascii : Bool) : Bool :=
  let isWord (c : Char) : Bool := CharClass.word.holds ascii c
  s.before.head?.any isWord != s.ahead.head?.any isWord

/-- Whether a spot satisfies an anchor. -/
def Anchor.holds (s : Spot) : Anchor → Bool
  | .start => s.before.isEmpty
  | .lineStart => s.before.isEmpty || s.before.head? == some '\n'
  | .lastLineEnd => s.ahead.isEmpty || s.ahead == ['\n']
  | .lineEnd => s.ahead.isEmpty || s.ahead.head? == some '\n'
  | .finish => s.ahead.isEmpty
  | .wordEdge ascii => s.isWordEdge ascii
  | .noWordEdge ascii => !(s.before.isEmpty && s.ahead.isEmpty) && !s.isWordEdge ascii

/-- How many characters a match takes: at least `least` and, if given, at most `most`. -/
structure Width where
  least : Nat
  most : Option Nat
deriving DecidableEq, Repr

/-- Which number of copies a repeat tries first. -/
inductive Preference where
  | many
  | few
  /-- As many as possible, without trying fewer. -/
  | possessive
deriving DecidableEq, Repr

/-- A pattern expression. -/
inductive Expr where
  | empty
  | char (test : CharTest)
  /-- Any character, the line feed only if `lineFeed` is set. -/
  | anyChar (lineFeed : Bool)
  | anchor (condition : Anchor)
  | seq (first second : Expr)
  | alt (left right : Expr)
  /-- At least `least` and, if given, at most `most` copies of `body`. -/
  | repeated (body : Expr) (least : Nat) (most : Option Nat) (preference : Preference)
  /-- A group that is remembered under a number. -/
  | group (number : Nat) (body : Expr)
  /-- What a group took once more; `width` is the width of the group. -/
  | reference (number : Nat) (fold : Fold) (width : Width)
  | atomic (body : Expr)
  /-- What comes next, or what comes before if `behind` gives its width, looks like `body`, or
  does not if `negated` is set. -/
  | look (behind : Option Width) (negated : Bool) (body : Expr)
  /-- One of two expressions, depending on whether a group has taken something. -/
  | either (number : Nat) (yes no : Expr)

/-- What is left to do behind a match: it succeeds with a spot or fails. -/
abbrev Rest := Spot → Option Spot

/-- A way to match from a spot on. -/
abbrev Matcher := Spot → Rest → Option Spot

/-- Whether a number of copies may be exceeded. -/
def below (count : Nat) (most : Option Nat) : Bool :=
  most.all (count < ·)

/-- Copies of a matcher, many or few first. `last` is the position where the copy before began, if
it was not a required one. -/
def repeatFrom (body : Matcher) (least : Nat) (most : Option Nat) (few : Bool) (rest : Rest) :
    Nat → Nat → Option Nat → Spot → Option Spot
  | 0, _, _, _ => none
  | fuel + 1, count, last, s =>
    let again (last : Option Nat) : Option Spot :=
      body s fun t => repeatFrom body least most few rest fuel (count + 1) last t
    if count < least then again last
    else
      -- The copy before took nothing if it began here; a further one would not either.
      let optional (_ : Unit) : Option Spot :=
        if below count most && last != some s.position then again (some s.position) else none
      match if few then rest s else optional () with
      | some t => some t
      | none => if few then optional () else rest s

/-- The spot behind as many copies of a matcher as possible, each taken in the first way. -/
def repeatAll (body : Matcher) (least : Nat) (most : Option Nat) :
    Nat → Nat → Spot → Option Spot
  | 0, _, _ => none
  | fuel + 1, count, s =>
    if count < least then
      match body s some with
      | some t => repeatAll body least most fuel (count + 1) t
      | none => none
    else if below count most then
      match body s some with
      | some t =>
        if t.position = s.position then some t
        else repeatAll body least most fuel (count + 1) t
      | none => some s
    else some s

/-- The number of copies, and one more, that a repeat can come to from a spot. -/
def Spot.repeatFuel (s : Spot) (least : Nat) : Nat :=
  least + s.ahead.length + 2

/-- Matches an expression from a spot on. -/
def Expr.run : Expr → Matcher
  | .empty, s, rest => rest s
  | .char test, s, rest => (s.next? test.holds).bind rest
  | .anyChar lineFeed, s, rest => (s.next? fun c => lineFeed || c != '\n').bind rest
  | .anchor condition, s, rest => if condition.holds s then rest s else none
  | .seq first second, s, rest => first.run s fun t => second.run t rest
  | .alt left right, s, rest =>
    match left.run s rest with
    | some t => some t
    | none => right.run s rest
  | .repeated body least most .possessive, s, rest =>
    (repeatAll body.run least most (s.repeatFuel least) 0 s).bind rest
  | .repeated body least most preference, s, rest =>
    repeatFrom body.run least most (preference = .few) rest (s.repeatFuel least) 0 none s
  | .group number body, s, rest => body.run s fun t => rest (t.close number s)
  | .reference number fold _, s, rest =>
    -- A group that has taken nothing yet cannot be found again.
    match s.taken.lookup number with
    | some text => (s.past? fold text).bind rest
    | none => none
  | .atomic body, s, rest => (body.run s some).bind rest
  | .look behind negated body, s, rest =>
    -- What the groups take while looking is kept for what follows.
    match (s.back? ((behind.map Width.least).getD 0)).bind fun t => body.run t some with
    | some t => if negated then none else rest { s with taken := t.taken }
    | none => if negated then rest s else none
  | .either number yes no, s, rest =>
    if (s.taken.lookup number).isSome then yes.run s rest else no.run s rest

/-- Whether a match begins at a spot or behind it. -/
def Expr.occursFrom (expr : Expr) (before : List Char) (position : Nat) : List Char → Bool
  | [] => (expr.run ⟨before, [], position, []⟩ some).isSome
  | c :: rest =>
    (expr.run ⟨before, c :: rest, position, []⟩ some).isSome
      || expr.occursFrom (c :: before) (position + 1) rest

/-- Whether a match begins and ends somewhere in the text. -/
def Expr.occursIn (expr : Expr) (text : List Char) : Bool :=
  expr.occursFrom [] 0 text

end AccessScopes.Pattern
