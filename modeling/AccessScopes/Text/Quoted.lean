import AccessScopes.Text.Printable

/-!
# `AccessScopes.Text.Quoted`: texts inside quotes

A quoted text shows every character unambiguously: `'a\n'`. Single quotes are used unless the
text holds a single quote and no double quote. The backslash, the quote in use, tab, line feed
and carriage return have two-character forms. Any other character that may not be shown is
written by its code in lower-case hexadecimal, with two, four or eight digits.
-/

set_option autoImplicit false

namespace AccessScopes.Text

/-- The digit of a value below sixteen. -/
def hexDigit (n : Nat) : Char :=
  if n < 10 then Char.ofNat ('0'.toNat + n) else Char.ofNat ('a'.toNat + (n - 10))

/-- The last `width` hexadecimal digits of a number. -/
def hexDigits : Nat → Nat → List Char
  | 0, _ => []
  | width + 1, n => hexDigits width (n / 16) ++ [hexDigit (n % 16)]

/-- The form of a character by its code. -/
def escapeCode (code : Nat) : List Char :=
  if code < 0x100 then '\\' :: 'x' :: hexDigits 2 code
  else if code < 0x10000 then '\\' :: 'u' :: hexDigits 4 code
  else '\\' :: 'U' :: hexDigits 8 code

/-- The form of one character between the given quotes; `shown` says which characters stand for
themselves. -/
def escapeChar (quote : Char) (shown : Char → Bool) (c : Char) : List Char :=
  if c = quote || c = '\\' then ['\\', c]
  else if c = '\n' then ['\\', 'n']
  else if c = '\r' then ['\\', 'r']
  else if c = '\t' then ['\\', 't']
  else if shown c then [c]
  else escapeCode c.toNat

/-- The quote to use: single, unless that would need an escape which double quotes do not. -/
def quoteFor (text : List Char) : Char :=
  if text.contains '\'' && !text.contains '"' then '"' else '\''

/-- The text between quotes, with everything escaped that `shown` does not hold of. -/
def quoteWith (shown : Char → Bool) (text : List Char) : List Char :=
  let quote := quoteFor text
  quote :: text.flatMap (escapeChar quote shown) ++ [quote]

/-- The text between quotes. -/
def quote (text : String) : String :=
  String.ofList (quoteWith isPrintable text.toList)

end AccessScopes.Text
