import AccessScopes.Audit.Sanitize
import AccessScopes.Value.Basic

/-!
# `AccessScopes.Value.Text`: values in words

A value has two forms. `Value.plain` is what it contributes to a text, such as a segment made from
a number. `Value.shown` is the form inside a collection: a text has quotes there, and a scope says
what it is. A record holds the first form, sanitised.
-/

set_option autoImplicit false

namespace AccessScopes

/-- A truth value in words. -/
def boolText (b : Bool) : String :=
  if b then "True" else "False"

/-- Octets in quotes; only printable characters of basic Latin stand for themselves. -/
def octetsText (octets : List Nat) : String :=
  "b" ++ String.ofList
    (Text.quoteWith (fun c => 0x20 ≤ c.toNat && c.toNat < 0x7f) (octets.map Char.ofNat))

/-- The options of a pattern that are told, in the order in which they are told. -/
def Pattern.shownFlags (p : Pattern) : List String :=
  [(Pattern.Flag.template, "re.TEMPLATE"), (.anyCase, "re.IGNORECASE"),
    (.multiline, "re.MULTILINE"), (.dotAll, "re.DOTALL"), (.verbose, "re.VERBOSE"),
    (.ascii, "re.ASCII")].filterMap fun entry => if p.has entry.1 then some entry.2 else none

/-- The number of characters to which a quoted pattern is cut off. -/
def Pattern.shownLength : Nat := 200

/-- A pattern in words. -/
def Pattern.text (p : Pattern) : String :=
  let quoted := String.ofList ((Text.quote p.source).toList.take Pattern.shownLength)
  let flags := p.shownFlags
  let options := if flags.isEmpty then "" else ", " ++ "|".intercalate flags
  "re.compile(" ++ quoted ++ options ++ ")"

/-- An alias table in words. -/
def AliasTable.text (t : AliasTable) : String :=
  "<AliasMap keys=" ++ quotedList t.keys ++ ">"

/-- A scope in words. -/
def Scope.shown (s : Scope) : String :=
  "Scope(" ++ Text.quote s.text ++ ")"

/-- A scope set in words. -/
def ScopeSet.shown (s : ScopeSet) : String :=
  "<Scopes [" ++ s.text ++ "]>"

/-- A cursor in words. -/
def Cursor.shown (c : Cursor) : String :=
  "<Cursor " ++ c.text ++ ">"

/-- A tuple of shown items; a single item has a comma behind it. -/
def shownTuple : List String → String
  | [item] => "(" ++ item ++ ",)"
  | items => "(" ++ ", ".intercalate items ++ ")"

/-- A set of shown items; the empty set has no braces. -/
def shownSet (items : List String) : String :=
  if items.isEmpty then "set()" else "\x7b" ++ ", ".intercalate items ++ "\x7d"

namespace Value

mutual

/-- The form inside a collection. -/
def shown : Value → String
  | null => "None"
  | bool b => boolText b
  | int n => toString n
  | text s => Text.quote s
  | bytes octets => octetsText octets
  | list items => "[" ++ ", ".intercalate (shownItems items) ++ "]"
  | tuple items => shownTuple (shownItems items)
  | set items => shownSet (shownItems items)
  | stream _ => "<" ++ Kind.stream.name ++ " object>"
  | table entries => "\x7b" ++ ", ".intercalate (shownEntries entries) ++ "\x7d"
  | scope s => s.shown
  | scopeSet s => s.shown
  | aliasTable t => t.text
  | grammar g => g.text
  | cursor c => c.shown
  | pattern p => p.text
  | provider _ => "<" ++ Kind.provider.name ++ " object>"

/-- The forms of the items of a collection. -/
def shownItems : List Value → List String
  | [] => []
  | item :: rest => item.shown :: shownItems rest

/-- The forms of the entries of a table. -/
def shownEntries : List (Value × Value) → List String
  | [] => []
  | (key, value) :: rest => (key.shown ++ ": " ++ value.shown) :: shownEntries rest

end

/-- What a value contributes to a text. -/
def plain : Value → String
  | text s => s
  | scope s => s.text
  | scopeSet s => s.text
  | cursor c => c.text
  | value => value.shown

end Value

/-- The text of a value for a record. A missing value has a text of its own, whatever the limit. -/
def Audit.sanitizeValue (limit : Int) (v : Value) : String :=
  match v with
  | .null => missing
  | v => sanitize limit v.plain

end AccessScopes
