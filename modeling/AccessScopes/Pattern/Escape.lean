import AccessScopes.Pattern.Atom
import AccessScopes.Pattern.Source
import AccessScopes.Text.CharName

/-!
# `AccessScopes.Pattern.Escape`: what stands behind a backslash

A letter behind a backslash names a class of characters, an anchor, a control character, or begins
a code point given by number or name. Letters without a meaning are refused. Digits are an octal
code point or refer to a group. All other characters stand for themselves.

An escape is read in two settings, alone and as a member of a set. A scanner for an escape begins
behind the escaped character; `start` is the position of the backslash.
-/

set_option autoImplicit false

namespace AccessScopes.Pattern

/-- The class that an escaped letter names, with its complement for capitals. -/
def namedClass? : Char → Option CharItem
  | 'd' => some (.named .digit false)
  | 'D' => some (.named .digit true)
  | 's' => some (.named .blank false)
  | 'S' => some (.named .blank true)
  | 'w' => some (.named .word false)
  | 'W' => some (.named .word true)
  | _ => none

/-- The anchor that an escaped letter asks for. -/
def namedMark? : Char → Option Mark
  | 'A' => some .textStart
  | 'Z' => some .textEnd
  | 'b' => some .wordEdge
  | 'B' => some .noWordEdge
  | _ => none

/-- The control character that an escaped letter stands for. -/
def controlCode? : Char → Option Nat
  | 'a' => some 0x07
  | 'b' => some 0x08
  | 'f' => some 0x0c
  | 'n' => some 0x0a
  | 'r' => some 0x0d
  | 't' => some 0x09
  | 'v' => some 0x0b
  | _ => none

/-- A letter of basic Latin. -/
def isBasicLetter (c : Char) : Bool :=
  ('a' ≤ c && c ≤ 'z') || ('A' ≤ c && c ≤ 'Z')

/-- A digit of basic Latin. -/
def isBasicDigit (c : Char) : Bool :=
  '0' ≤ c && c ≤ '9'

/-- An octal digit. -/
def isOctalDigit (c : Char) : Bool :=
  '0' ≤ c && c ≤ '7'

/-- A hexadecimal digit. -/
def isHexDigit (c : Char) : Bool :=
  isBasicDigit c || ('a' ≤ c && c ≤ 'f') || ('A' ≤ c && c ≤ 'F')

/-- The number that a hexadecimal digit stands for. -/
def hexDigitValue (c : Char) : Nat :=
  if isBasicDigit c then c.toNat - '0'.toNat
  else if 'a' ≤ c then c.toNat - 'a'.toNat + 10
  else c.toNat - 'A'.toNat + 10

/-- The number that digits write in a base. -/
def readBase (base : Nat) (digits : List Char) : Nat :=
  digits.foldl (fun n c => base * n + hexDigitValue c) 0

/-- An escape as written, with the digits that belong to it. -/
def escapeText (c : Char) (digits : List Char) : String :=
  String.ofList ('\\' :: c :: digits)

/-- The greatest code point. -/
def lastCode : Nat := 0x10ffff

namespace Scanner

/-- A code point given by a fixed number of hexadecimal digits. -/
def hexCode (start : Nat) (c : Char) (length : Nat) : Scanner Nat := do
  let digits ← takeWhile isHexDigit length
  if digits.length = length then
    let code := readBase 16 digits
    if lastCode < code then fail (.badEscape (escapeText c digits)) start else return code
  else fail (.incompleteEscape (escapeText c digits)) start

/-- A code point given by its name in braces. -/
def namedCode (start : Nat) : Scanner Nat := do
  if ← accept '\x7b' then
    let name := String.ofList (← takeName '\x7d' .character)
    match Text.charCode? name with
    | some code => return code
    | none => fail (.undefinedCharacter name) start
  else fail .missingBrace (← position)

/-- A code point in octal digits, which has to be a byte. -/
def octalCode (start : Nat) (c : Char) (digits : List Char) : Scanner Nat :=
  let code := readBase 8 (c :: digits)
  if 0o377 < code then fail (.octalRange (escapeText c digits)) start else return code

/-- The code point of an escape that means the same in both settings. -/
def commonCode (start : Nat) (c : Char) : Scanner Nat :=
  match c with
  | 'x' => hexCode start c 2
  | 'u' => hexCode start c 4
  | 'U' => hexCode start c 8
  | 'N' => namedCode start
  | _ =>
    if isBasicLetter c || isBasicDigit c then fail (.badEscape (escapeText c [])) start
    else return c.toNat

/-- An escape as a member of a set. -/
def setEscape (start : Nat) (c : Char) : Scanner CharItem :=
  match namedClass? c, controlCode? c with
  | some item, _ => return item
  | none, some code => return .code code
  | none, none => do
    if isOctalDigit c then
      return .code (← octalCode start c (← takeWhile isOctalDigit 2))
    else return .code (← commonCode start c)

/-- What an escape outside a set says: an atom, or the group that it refers to. -/
inductive Escaped where
  | atom (atom : Atom)
  | reference (group : Nat)
deriving DecidableEq, Repr

/-- An escape that begins with a digit other than zero. Three octal digits are a code point. One
or two digits refer to a group. -/
def digitEscape (start : Nat) (c : Char) : Scanner Escaped := do
  match ← takeWhile isBasicDigit 1 with
  | [] => return .reference (readBase 10 [c])
  | digits =>
    if isOctalDigit c && digits.all isOctalDigit then
      -- A third octal digit decides that this is no reference.
      match ← takeWhile isOctalDigit 1 with
      | [] => return .reference (readBase 10 (c :: digits))
      | last => return .atom (.char false (← octalCode start c (digits ++ last)))
    else return .reference (readBase 10 (c :: digits))

/-- An escape outside a set. -/
def escape (start : Nat) (c : Char) : Scanner Escaped :=
  match namedMark? c, namedClass? c, controlCode? c with
  | some mark, _, _ => return .atom (.mark mark)
  | none, some item, _ => return .atom (.set false [item])
  | none, none, some code => return .atom (.char false code)
  | none, none, none => do
    if c = '0' then
      return .atom (.char false (readBase 8 (← takeWhile isOctalDigit 2)))
    else if isBasicDigit c then digitEscape start c
    else return .atom (.char false (← commonCode start c))

end Scanner

end AccessScopes.Pattern
