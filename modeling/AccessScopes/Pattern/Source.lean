import AccessScopes.Pattern.Fault

/-!
# `AccessScopes.Pattern.Source`: reading a written pattern from the left

A written pattern is cut into glyphs: a character, or a backslash with the character behind it. A
`Scanner` takes glyphs from a source and either gives a result or ends with a fault.

A backslash at the very end is no glyph. It is noticed by whoever takes the glyph in front of it.
So a scanner that takes this glyph fails, even if it would have failed for a reason of its own.
-/

set_option autoImplicit false

namespace AccessScopes.Pattern

/-- One character of the pattern or an escaped character. -/
inductive Sign where
  | plain (c : Char)
  | escaped (c : Char)
deriving DecidableEq, Repr

/-- The characters of a sign as written. -/
def Sign.chars : Sign → List Char
  | .plain c => [c]
  | .escaped c => ['\\', c]

/-- The sign as written. -/
def Sign.text (sign : Sign) : String :=
  String.ofList sign.chars

/-- Whether a sign is a plain character that passes a test. -/
def Sign.isPlain (sign : Sign) (test : Char → Bool) : Bool :=
  match sign with
  | .plain c => test c
  | .escaped _ => false

/-- A sign and the position where it starts. -/
structure Glyph where
  position : Nat
  sign : Sign
deriving DecidableEq, Repr

/-- What is left of a written pattern. -/
structure Source where
  glyphs : List Glyph
  /-- The position behind the last glyph. -/
  finish : Nat
  /-- Whether a lone backslash stands behind the last glyph. -/
  loneBackslash : Bool

/-- Cuts a pattern into glyphs; the first character has the given position. -/
def cutGlyphs (position : Nat) : List Char → List Glyph
  | [] => []
  | ['\\'] => []
  | '\\' :: c :: rest => ⟨position, .escaped c⟩ :: cutGlyphs (position + 2) rest
  | c :: rest => ⟨position, .plain c⟩ :: cutGlyphs (position + 1) rest

/-- The position where the next glyph starts, or the end. -/
def Source.position (source : Source) : Nat :=
  match source.glyphs with
  | [] => source.finish
  | glyph :: _ => glyph.position

/-- The source of a written pattern. -/
def Source.ofText (pattern : List Char) : Source :=
  let glyphs := cutGlyphs 0 pattern
  let taken := (glyphs.flatMap fun g => g.sign.chars).length
  ⟨glyphs, taken, taken < pattern.length⟩

/-- A step that takes glyphs from a source. -/
abbrev Scanner := StateT Source (Except Fault)

namespace Scanner

variable {α : Type}

/-- Ends with a fault. -/
def fail (cause : Cause) (position : Nat) : Scanner α :=
  throw (.at cause position)

/-- The position where the next glyph starts. -/
def position : Scanner Nat := do
  return (← get).position

/-- The next sign, which is not taken. -/
def peek : Scanner (Option Sign) := do
  return (← get).glyphs.head?.map Glyph.sign

/-- Takes the next sign, if there is one. -/
def take : Scanner (Option Sign) := do
  let source ← get
  match source.glyphs with
  | [] => return none
  | glyph :: rest =>
    -- Taking a glyph looks at the next one, and a lone backslash is found out then.
    if rest.isEmpty && source.loneBackslash then fail .escapeAtEnd source.finish
    else
      set { source with glyphs := rest }
      return some glyph.sign

/-- Takes the next sign if it is the given character. -/
def accept (c : Char) : Scanner Bool := do
  if (← peek) = some (.plain c) then
    let _ ← take
    return true
  else return false

/-- Takes up to `limit` plain characters that pass a test. -/
def takeWhile (test : Char → Bool) : Nat → Scanner (List Char)
  | 0 => return []
  | limit + 1 => do
    match ← peek with
    | some (.plain c) =>
      if test c then
        let _ ← take
        return c :: (← takeWhile test limit)
      else return []
    | _ => return []

/-- The number of glyphs left. -/
def remaining : Scanner Nat := do
  return (← get).glyphs.length

/-- Takes the characters of a name and what closes it, with as many steps as the first number
says. -/
def takeNameFrom (close : Char) (named : Named) : Nat → List Char → Scanner (List Char)
  | 0, name => return name
  | steps + 1, name => do
    let here ← position
    match ← take with
    | none =>
      if name.isEmpty then fail (.missingName named) here
      else fail (.unterminatedName close) (here - name.length)
    | some sign =>
      if sign = .plain close then
        if name.isEmpty then fail (.missingName named) here else return name
      else takeNameFrom close named steps (name ++ sign.chars)

/-- Takes the characters of a name and what closes it. -/
def takeName (close : Char) (named : Named) : Scanner (List Char) := do
  takeNameFrom close named ((← remaining) + 1) []

end Scanner

end AccessScopes.Pattern
