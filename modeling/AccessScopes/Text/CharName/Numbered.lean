import AccessScopes.Text.CodeRanges

/-!
# `AccessScopes.Text.CharName.Numbered`: names that end in a number

A unified ideograph is named by its code point. Other characters that have no name of their own
are numbered, by their code point or by their place among their like.
-/

set_option autoImplicit false

namespace AccessScopes.Text

/-- The value of a digit in a name. Capital letters follow the figures. -/
def nameDigit? (c : Char) : Option Nat :=
  if '0' ≤ c && c ≤ '9' then some (c.toNat - '0'.toNat)
  else if 'A' ≤ c && c ≤ 'F' then some (c.toNat - 'A'.toNat + 10)
  else none

/-- The number that digits of the given base write. -/
def nameNumber? (base : Nat) (digits : List Char) : Option Nat :=
  digits.foldlM (fun n c => do
    let digit ← nameDigit? c
    if digit < base then return base * n + digit else none) 0

/-- The ideographs that Unicode unified. -/
def unifiedIdeographs : CodeRanges where
  ranges := [
    (0x3400, 0x4dbf), (0x4e00, 0x9fff), (0x20000, 0x2a6df), (0x2a700, 0x2b738),
    (0x2b740, 0x2b81d), (0x2b820, 0x2cea1), (0x2ceb0, 0x2ebe0), (0x30000, 0x3134a)]

/-- The code point of the ideograph with the given name, which has four or five digits. -/
def ideographNamed? (name : String) : Option Nat := do
  let digits ← "CJK UNIFIED IDEOGRAPH-".toList.isPrefixOf? name.toList
  let code ← nameNumber? 16 digits
  if (digits.length = 4 ∨ digits.length = 5) ∧ inRanges code unifiedIdeographs.ranges then
    return code
  else none

/-- Characters that follow each other and have consecutive numbers behind the same words. All
their numbers have as many digits. -/
structure NumberedNames where
  words : String
  base : Nat
  digits : Nat
  first : Nat
  last : Nat
  /-- The code point of the character with the first number. -/
  code : Nat

/-- The code point with the given name, among numbered ones. -/
def NumberedNames.find? (names : NumberedNames) (name : String) : Option Nat := do
  let digits ← names.words.toList.isPrefixOf? name.toList
  let number ← nameNumber? names.base digits
  if digits.length = names.digits ∧ names.first ≤ number ∧ number ≤ names.last then
    return names.code + (number - names.first)
  else none

/-- The selectors of variants, behind their words. They are in two places, and their numbers go
from one digit to three. -/
def variationSelectors (words : String) : List NumberedNames := [
  ⟨words, 10, 1, 1, 9, 0xfe00⟩, ⟨words, 10, 2, 10, 16, 0xfe09⟩,
  ⟨words, 10, 2, 17, 99, 0xe0100⟩, ⟨words, 10, 3, 100, 256, 0xe0153⟩]

/-- All characters that are numbered, but for unified ideographs. -/
def numberedNames : List NumberedNames := [
    ⟨"CJK COMPATIBILITY IDEOGRAPH-", 16, 4, 0xf900, 0xfa6d, 0xf900⟩,
    ⟨"CJK COMPATIBILITY IDEOGRAPH-", 16, 4, 0xfa70, 0xfad9, 0xfa70⟩,
    ⟨"CJK COMPATIBILITY IDEOGRAPH-", 16, 5, 0x2f800, 0x2fa1d, 0x2f800⟩,
    ⟨"TANGUT COMPONENT-", 10, 3, 1, 768, 0x18800⟩,
    ⟨"KHITAN SMALL SCRIPT CHARACTER-", 16, 5, 0x18b00, 0x18cd5, 0x18b00⟩,
    ⟨"NUSHU CHARACTER-", 16, 5, 0x1b170, 0x1b2fb, 0x1b170⟩]
  ++ variationSelectors "VARIATION SELECTOR-" ++ variationSelectors "VS"

end AccessScopes.Text
