import AccessScopes.Pattern.Escape
import AccessScopes.Text.Identifier
import AccessScopes.Text.Integer

/-!
# `AccessScopes.Pattern.Lexeme`: the parts of a written pattern

A lexeme is a part of a written pattern that can be understood by itself: an atom, a repeat, a
bar, the head or the end of a group. Each lexeme begins with one glyph and takes a number of
glyphs behind it, so `scan` recurses on the glyphs and skips those that the lexeme before has
taken. Under the option to skip blanks, blanks and comments are lexemes that say nothing; `scan`
follows the groups to know where that option holds.

A text that goes wrong in the middle of a lexeme is cut off there: the last lexeme is then
`Lexeme.broken`. What stands in front of it can still be refused for its own reason, and the
reason found first from the left counts.
-/

set_option autoImplicit false

namespace AccessScopes.Pattern

/-- The group that a condition asks for. -/
inductive Condition where
  | numbered (group : Nat)
  | named (name : String)
deriving DecidableEq, Repr

/-- How a group begins. -/
inductive GroupHead where
  /-- The group is remembered, under a number and maybe a name. -/
  | capture (name : Option String)
  | plain (switch : Switch)
  | atomic
  | look (behind negated : Bool)
  | either (condition : Condition)
deriving DecidableEq, Repr

/-- What one lexeme says. -/
inductive Lexeme where
  | atom (atom : Atom)
  /-- What an earlier group took. -/
  | reference (group : Nat)
  | namedReference (name : String)
  /-- The item before is repeated. -/
  | repeated (least : Nat) (most : Option Nat) (preference : Preference)
  | bar
  | group (head : GroupHead)
  | groupEnd
  /-- Options for the whole pattern. -/
  | flags (on : Flags)
  /-- A comment or a blank. -/
  | skipped
  | broken (fault : Fault)
deriving DecidableEq, Repr

/-- A lexeme and the positions where it starts and where the next one may start. -/
structure Placed where
  position : Nat
  finish : Nat
  lexeme : Lexeme
deriving DecidableEq, Repr

namespace Scanner

/-- A member of a set that begins with the given glyph. -/
def setMember (glyph : Glyph) : Scanner CharItem :=
  match glyph.sign with
  | .plain c => return .code c.toNat
  | .escaped c => setEscape glyph.position c

/-- Takes the next glyph of a set that starts at the given position. -/
def takeInSet (start : Nat) : Scanner Glyph := do
  let here ← position
  match ← take with
  | some sign => return ⟨here, sign⟩
  | none => fail .unterminatedSet start

/-- The range between two members of a set. The fault of a range lies as far from its end as the
first glyphs of both members are long. -/
def setRange (first last : Sign) (low high : CharItem) : Scanner CharItem := do
  let refuse : Scanner CharItem := do
    let width := first.chars.length + 1 + last.chars.length
    fail (.badRange first.text last.text) ((← position) - width)
  match low, high with
  | .code low, .code high => if high < low then refuse else return .range low high
  | _, _ => refuse

/-- The items of a set up to its closing bracket, which is an item itself if it comes first. Takes
as many steps as the first number says. -/
def setItems (start : Nat) : Nat → List CharItem → Scanner (List CharItem)
  | 0, items => return items
  | steps + 1, items => do
    let first ← takeInSet start
    -- No item has been read in front of the first bracket only.
    if first.sign = .plain ']' && !items.isEmpty then return items
    else
      let low ← setMember first
      if ← accept '-' then
        let last ← takeInSet start
        -- A hyphen at the end of a set stands for itself.
        if last.sign = .plain ']' then return items ++ [low, .code '-'.toNat]
        else
          let high ← setMember last
          let item ← setRange first.sign last.sign low high
          setItems start steps (items ++ [item])
      else setItems start steps (items ++ [low])

/-- A set behind its opening bracket. -/
def set (start : Nat) : Scanner Atom := do
  let negated ← accept '^'
  return .ofItems negated (← setItems start ((← remaining) + 1) [])

/-- The least number that is too large for a bound of a repeat. -/
def repeatLimit : Nat := 0xFFFFFFFF

/-- The bound that digits write. -/
def repeatBound (digits : List Char) : Scanner (Option Nat) :=
  if digits.isEmpty then return none
  else
    let n := readBase 10 digits
    if repeatLimit ≤ n then throw ⟨.repeatTooLarge, none⟩ else return some n

/-- Bounds of a repeat behind the opening brace, as in `a{2}`, `a{2,}`, `a{,2}` or `a{2,3}`. Gives
`none` and takes nothing if the brace begins no repeat. -/
def repeatBounds : Scanner (Option (Nat × Option Nat)) := do
  let source ← get
  if (← peek) = some (.plain '\x7d') then return none
  else
    let low ← takeWhile isBasicDigit (← remaining)
    let comma ← accept ','
    let high ← if comma then takeWhile isBasicDigit (← remaining) else pure low
    if ← accept '\x7d' then
      let least := (← repeatBound low).getD 0
      let most ← repeatBound high
      if most.any (· < least) then fail .repeatBounds source.position
      else return some (least, most)
    else
      -- This is no repeat, so everything behind the brace is read again.
      MonadState.set source
      return none

/-- A repeat with the preference that may be written behind it. The glyph of the preference is
left to be noticed afterwards if it is the one in front of a lone backslash. -/
def repeated (least : Nat) (most : Option Nat) : Scanner Lexeme := do
  let source ← get
  let rest := { source with glyphs := source.glyphs.tail }
  match source.glyphs.head?.map Glyph.sign with
  | some (.plain '?') =>
    MonadState.set rest
    return .repeated least most .few
  | some (.plain '+') =>
    MonadState.set rest
    return .repeated least most .possessive
  | _ => return .repeated least most .many

/-- A name that has to be an identifier. -/
def groupName (close : Char) : Scanner String := do
  let start ← position
  let name ← takeName close .group
  if Text.isIdentifier name then return String.ofList name
  else fail (.badGroupName (String.ofList name)) start

/-- The greatest number that a group can have, and one more. -/
def groupLimit : Nat := 0x3FFFFFFF

/-- The group that a condition asks for, by name or by number. -/
def condition : Scanner Condition := do
  let start ← position
  let name ← takeName ')' .group
  if Text.isIdentifier name then return .named (String.ofList name)
  else match Text.readInteger? name with
    | some (.ofNat 0) => fail .badGroupNumber start
    | some (.ofNat group) =>
      if groupLimit ≤ group then fail (.invalidReference group) start
      else return .numbered group
    | _ => fail (.badGroupName (String.ofList name)) start

/-- Fails since something other than an option letter stands at a position. -/
def failFlag {α : Type} (gap : FlagGap) (sign : Sign) (position : Nat) : Scanner α :=
  fail (if sign.isPlain Text.isLetter then .unknownFlag else .flagGap gap) position

/-- The option that a sign stands for. -/
def flag? (sign : Sign) : Option Flag :=
  match sign with
  | .plain c => Flag.ofChar? c
  | .escaped _ => none

/-- How the letters of options to switch on end. -/
inductive FlagsEnd where
  | parenthesis
  | colon
  | hyphen
deriving DecidableEq, Repr

/-- The end that a sign stands for. -/
def flagsEnd? : Sign → Option FlagsEnd
  | .plain ')' => some .parenthesis
  | .plain ':' => some .colon
  | .plain '-' => some .hyphen
  | _ => none

/-- Accepts one more option to switch on. -/
def checkFlagOn (on : Flags) (flag : Flag) : Scanner Unit := do
  if flag = .locale then fail .localeFlag (← position)
  else if flag.isAlphabet && on.any (fun other => other.isAlphabet && other != flag) then
    fail .alphabetFlags (← position)
  else return ()

/-- Options to switch on, the first of which has been taken, and what ends them. Takes as many
steps as the first number says. -/
def flagsOn : Nat → Flags → Flag → Scanner (Flags × FlagsEnd)
  | 0, on, _ => return (on, .colon)
  | steps + 1, on, flag => do
    checkFlagOn on flag
    let on := on ++ [flag]
    let here ← position
    match ← take with
    | none => fail (.flagGap .more) here
    | some sign =>
      match flagsEnd? sign, flag? sign with
      | some ending, _ => return (on, ending)
      | none, some next => flagsOn steps on next
      | none, none => failFlag .more sign here

/-- Options to switch off, the first of which has been taken, up to a colon. Takes as many steps
as the first number says. -/
def flagsOff : Nat → Flags → Flag → Scanner Flags
  | 0, off, _ => return off
  | steps + 1, off, flag => do
    if flag.isAlphabet then fail .alphabetOff (← position)
    else
      let off := off ++ [flag]
      let here ← position
      match ← take with
      | none => fail (.flagGap .colon) here
      | some (.plain ':') => return off
      | some sign =>
        match flag? sign with
        | some next => flagsOff steps off next
        | none => failFlag .colon sign here

/-- Options to switch off behind the hyphen. -/
def hyphenFlags : Scanner Flags := do
  let here ← position
  match ← take with
  | none => fail (.flagGap .letter) here
  | some sign =>
    match flag? sign with
    | some first => flagsOff ((← remaining) + 1) [] first
    | none => failFlag .letter sign here

/-- The head of a group that switches options, once all letters are known. -/
def switchHead (on off : Flags) : Scanner Lexeme := do
  let last := (← position) - 1
  if off.any Flag.isGlobal then fail .globalOff last
  else if on.any off.contains then fail .onAndOff last
  else return .group (.plain ⟨on, off⟩)

/-- Option letters, the first of which has been taken. -/
def flags (first : Flag) : Scanner Lexeme := do
  let (on, ending) ← flagsOn ((← remaining) + 1) [] first
  match ending with
  | .parenthesis => return .flags on
  | .colon | .hyphen =>
    if on.any Flag.isGlobal then fail .globalOn ((← position) - 1)
    else if ending = .hyphen then switchHead on (← hyphenFlags)
    else switchHead on []

/-- A comment behind its head, up to the closing parenthesis. Takes as many steps as the first
number says. -/
def comment (start : Nat) : Nat → Scanner Lexeme
  | 0 => fail .unterminatedComment start
  | steps + 1 => do
    match ← take with
    | none => fail .unterminatedComment start
    | some (.plain ')') => return .skipped
    | some _ => comment start steps

/-- The next sign of a group head. -/
def takeInHead : Scanner Sign := do
  let here ← position
  match ← take with
  | some sign => return sign
  | none => fail .unexpectedEnd here

/-- The head of a group with a name, or a reference by name. -/
def namedHead (mark : Nat) : Scanner Lexeme := do
  match ← takeInHead with
  | .plain '<' => return .group (.capture (some (← groupName '>')))
  | .plain '=' => return .namedReference (← groupName ')')
  | sign => fail (.unknownExtension ("?P" ++ sign.text)) mark

/-- The head of a group that looks back. -/
def behindHead (mark : Nat) : Scanner Lexeme := do
  match ← takeInHead with
  | .plain '=' => return .group (.look true false)
  | .plain '!' => return .group (.look true true)
  | sign => fail (.unknownExtension ("?<" ++ sign.text)) mark

/-- The head of a group behind its opening parenthesis: nothing, or a question mark with what
belongs to it. -/
def groupHead (start : Nat) : Scanner Lexeme := do
  let mark ← position
  if ← accept '?' then
    let sign ← takeInHead
    match sign with
    | .plain 'P' => namedHead mark
    | .plain ':' => return .group (.plain ⟨[], []⟩)
    | .plain '#' => comment start ((← remaining) + 1)
    | .plain '=' => return .group (.look false false)
    | .plain '!' => return .group (.look false true)
    | .plain '<' => behindHead mark
    | .plain '(' => return .group (.either (← condition))
    | .plain '>' => return .group .atomic
    | .plain '-' => switchHead [] (← hyphenFlags)
    | sign =>
      match flag? sign with
      | some first => flags first
      | none => fail (.unknownExtension ("?" ++ sign.text)) mark
  else return .group (.capture none)

/-- Whether a sign is a blank that is skipped. -/
def isSkippedBlank (sign : Sign) : Bool :=
  sign.isPlain fun c => c = ' ' || ('\t' ≤ c && c ≤ '\r')

/-- Skips glyphs to the end of the line. Takes as many steps as the number says. -/
def lineComment : Nat → Scanner Lexeme
  | 0 => return .skipped
  | steps + 1 => do
    match ← take with
    | none | some (.plain '\n') => return .skipped
    | some _ => lineComment steps

/-- The lexeme that begins with a character. -/
def plainLexeme (start : Nat) (c : Char) : Scanner Lexeme :=
  match c with
  | '.' => return .atom .anyChar
  | '^' => return .atom (.mark .lineStart)
  | '$' => return .atom (.mark .lineEnd)
  | '*' => repeated 0 none
  | '+' => repeated 1 none
  | '?' => repeated 0 (some 1)
  | '(' => groupHead start
  | '[' => return .atom (← set start)
  | '\x7b' => do
    match ← repeatBounds with
    | some (least, most) => repeated least most
    | none => return .atom (.char false c.toNat)
  | _ => return .atom (.char false c.toNat)

/-- The lexeme that begins with the next glyph. With `spaced` set, blanks and comments to the end
of the line say nothing. -/
def lexeme (spaced : Bool) : Scanner Lexeme := do
  let start ← position
  match ← peek with
  | some (.plain ')') =>
    modify fun source => { source with glyphs := source.glyphs.tail }
    return .groupEnd
  | some (.plain '|') =>
    modify fun source => { source with glyphs := source.glyphs.tail }
    return .bar
  | _ =>
    match ← take with
    | none => return .skipped
    | some sign =>
      if spaced && isSkippedBlank sign then return .skipped
      else if spaced && sign = .plain '#' then lineComment ((← remaining) + 1)
      else match sign with
        | .plain c => plainLexeme start c
        | .escaped c =>
          match ← escape start c with
          | .atom atom => return .atom atom
          | .reference group => return .reference group

end Scanner

/-- Whether blanks are skipped in the groups that are open, the innermost first, behind a
lexeme. -/
def Lexeme.spacedBehind (lexeme : Lexeme) (spaced : List Bool) : List Bool :=
  let current := spaced.headD false
  match lexeme with
  | .group (.plain switch) =>
    ((current || switch.on.contains .verbose) && !switch.off.contains .verbose) :: spaced
  | .group _ => current :: spaced
  | .groupEnd => spaced.tail
  | .flags on => (current || on.contains .verbose) :: spaced.tail
  | _ => spaced

/-- Cuts glyphs into lexemes. The first `skip` glyphs belong to the lexeme before. -/
def scan (finish : Nat) (loneBackslash : Bool) :
    Nat → List Bool → List Glyph → List Placed
  | _, _, [] =>
    if loneBackslash then [⟨finish, finish, .broken (.at .escapeAtEnd finish)⟩] else []
  | skip + 1, spaced, _ :: rest => scan finish loneBackslash skip spaced rest
  | 0, spaced, glyph :: rest =>
    match (Scanner.lexeme (spaced.headD false)).run ⟨glyph :: rest, finish, loneBackslash⟩ with
    | .error fault => [⟨glyph.position, finish, .broken fault⟩]
    | .ok (lexeme, source) =>
      ⟨glyph.position, source.position, lexeme⟩ ::
        scan finish loneBackslash (rest.length - source.glyphs.length)
          (lexeme.spacedBehind spaced) rest

/-- The lexemes of a written pattern. -/
def lexemes (pattern : List Char) : List Placed :=
  let source := Source.ofText pattern
  scan source.finish source.loneBackslash 0 [] source.glyphs

end AccessScopes.Pattern
