import AccessScopes.Text.Printable

/-!
# `AccessScopes.Audit.Sanitize`: text that is safe in a record

A record is one line. So characters that cannot be shown are replaced, and a long text is cut off
with a mark at its end. A negative limit cuts that many characters off the end of every text.
-/

set_option autoImplicit false

namespace AccessScopes.Audit

/-- What is written for a missing value. -/
def missing : String := "<none>"

/-- The mark at the end of a text that was cut off. -/
def truncationMark : String := "...<truncated>"

/-- The character itself, or a question mark if it cannot be shown. -/
def showChar (c : Char) : Char :=
  if Text.isPrintable c then c else '?'

/-- The characters that a limit leaves. -/
def cut (limit : Int) (text : List Char) : List Char :=
  if limit < 0 then text.take (text.length - limit.natAbs) else text.take limit.toNat

/-- The text for a record: all characters shown, and cut off if it exceeds the limit. -/
def sanitize (limit : Int) (text : String) : String :=
  let chars := text.toList.map showChar
  if limit < chars.length then String.ofList (cut limit chars ++ truncationMark.toList)
  else String.ofList chars

end AccessScopes.Audit
