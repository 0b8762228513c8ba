import AccessScopes.Text.CodeRanges

/-!
# `AccessScopes.Text.Blank`: blank characters

Blank characters are the separators of Unicode 14.0 together with the controls that move the
writing position: tab, line breaks, form feed and the four information separators.
-/

set_option autoImplicit false

namespace AccessScopes.Text

/-- The blank code points. -/
def blanks : CodeRanges where
  ranges := [
    (0x9, 0xd), (0x1c, 0x20), (0x85, 0x85), (0xa0, 0xa0), (0x1680, 0x1680), (0x2000, 0x200a),
    (0x2028, 0x2029), (0x202f, 0x202f), (0x205f, 0x205f), (0x3000, 0x3000)]

/-- Whether the character is blank. -/
def isBlank (c : Char) : Bool :=
  blanks.contains c

end AccessScopes.Text
