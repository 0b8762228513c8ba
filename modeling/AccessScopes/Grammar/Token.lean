import AccessScopes.Error
import AccessScopes.Text.Blank

/-!
# `AccessScopes.Grammar.Token`: names and values in a grammar

A token is a text that can stand in a written scope without being mistaken for anything else. It is
not empty and not the wildcard; it holds no dot, parenthesis or comma; and all its characters are
printable and not blank. Names, aliases and free values all have to be tokens.

Several values in one segment are written `(a,b)`. `writeValues` writes them and `readValues?`
takes such a segment apart.
-/

set_option autoImplicit false

namespace AccessScopes

/-- Opens a list of values. -/
def valuesOpen : Char := '('

/-- Closes a list of values. -/
def valuesClose : Char := ')'

/-- Stands between two values of a list. -/
def valueSeparator : Char := ','

/-- The characters that structure a written scope. -/
def reserved : List Char :=
  [separator, valuesOpen, valuesClose, valueSeparator]

/-- Whether a character can be part of a token. -/
def isTokenChar (c : Char) : Bool :=
  !reserved.contains c && Text.isPrintable c && !Text.isBlank c

/-- Whether a text is a token. -/
def isToken (s : String) : Bool :=
  s != "" && s != wildcard && s.toList.all isTokenChar

/-- Accepts a name if it is a token. -/
def checkName (name : String) : Except ArgumentError Unit :=
  if isToken name then .ok () else .error (.invalidName name)

/-- The segment for a list of values: a single value as it is, any other number in parentheses. -/
def writeValues : List String → String
  | [value] => value
  | values =>
    String.ofList (valuesOpen :: (Text.join valueSeparator values).toList ++ [valuesClose])

/-- The values of a segment in parentheses. Other segments hold no list. -/
def readValues? (segment : String) : Option (List String) :=
  match segment.toList with
  | [] => none
  | c :: rest =>
    if c = valuesOpen && rest.getLast? = some valuesClose then
      some (Text.split valueSeparator (String.ofList rest.dropLast))
    else none

end AccessScopes
