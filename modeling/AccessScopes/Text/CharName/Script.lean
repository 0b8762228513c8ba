import AccessScopes.Text.CharName.Script.Africa
import AccessScopes.Text.CharName.Script.America
import AccessScopes.Text.CharName.Script.Ancient
import AccessScopes.Text.CharName.Script.CentralAsia
import AccessScopes.Text.CharName.Script.EastAsia
import AccessScopes.Text.CharName.Script.Europe
import AccessScopes.Text.CharName.Script.Latin
import AccessScopes.Text.CharName.Script.MiddleEast
import AccessScopes.Text.CharName.Script.SouthAsia
import AccessScopes.Text.CharName.Script.SoutheastAsia

/-!
# `AccessScopes.Text.CharName.Script`: names of letters and marks

The scripts of the world by region.
-/

set_option autoImplicit false

namespace AccessScopes.Text

/-- The blocks of all scripts. -/
def scriptBlocks : List NameBlock :=
  latinBlocks ++ europeBlocks ++ middleEastBlocks ++ centralAsiaBlocks ++ southAsiaBlocks ++
    southeastAsiaBlocks ++ eastAsiaBlocks ++ africaBlocks ++ americaBlocks ++ ancientBlocks

end AccessScopes.Text
