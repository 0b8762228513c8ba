import AccessScopes.Text.CharName.Alias
import AccessScopes.Text.CharName.Hangul
import AccessScopes.Text.CharName.Numbered
import AccessScopes.Text.CharName.Script
import AccessScopes.Text.CharName.Symbol

/-!
# `AccessScopes.Text.CharName`: characters by name

Unicode gives characters names. `charCode?` finds a character by its name or by an alias, for all
of version 14.0. Names of ideographs and of Hangul syllables follow rules and are written in
capitals. Case has no meaning in the others. A name of a sequence of characters finds nothing.
-/

set_option autoImplicit false

namespace AccessScopes.Text

/-- The code point of the character with the given name. -/
def charCode? (name : String) : Option Nat :=
  let capitals := String.ofList (name.toList.map Char.toUpper)
  syllableNamed? name
    <|> ideographNamed? name
    <|> numberedNames.findSome? (·.find? capitals)
    <|> nameAliases.lookup capitals
    <|> (scriptBlocks ++ symbolBlocks).findSome? (·.find? (split ' ' capitals))

end AccessScopes.Text
