import AccessScopes.Text.Blank
import AccessScopes.Text.Word

/-!
# `AccessScopes.Text.Integer`: whole numbers in decimal digits

An integer may be written with the decimal digits of any script, with a sign in front, with single
low lines between digits, and with blanks around it. `readInteger?` reads it.
-/

set_option autoImplicit false

namespace AccessScopes.Text

/-- Whether a character may stand around an integer: any blank but the information separators. -/
def isPadding (c : Char) : Bool :=
  isBlank c && !('\x1c' ≤ c && c ≤ '\x1f')

/-- The number that decimal digits write behind a number already read. `joined` says that a low
line came before, which needs a digit behind it. -/
def readDigits? (value : Nat) (joined : Bool) : List Char → Option Nat
  | [] => if joined then none else some value
  | c :: rest =>
    if isDigit c then readDigits? (10 * value + digitValue c) false rest
    else if c = '_' && !joined then readDigits? value true rest
    else none

/-- The number that decimal digits write; there has to be one. -/
def readNatural? : List Char → Option Nat
  | [] => none
  | c :: rest => if isDigit c then readDigits? (digitValue c) false rest else none

/-- The integer that a text writes. -/
def readInteger? (text : List Char) : Option Int :=
  let trimmed := ((text.dropWhile isPadding).reverse.dropWhile isPadding).reverse
  match trimmed with
  | '+' :: rest => (readNatural? rest).map Int.ofNat
  | '-' :: rest => (readNatural? rest).map fun n => -(n : Int)
  | digits => (readNatural? digits).map Int.ofNat

end AccessScopes.Text
