import AccessScopes.Text.CharName.Symbol.Mathematics
import AccessScopes.Text.CharName.Symbol.Notation
import AccessScopes.Text.CharName.Symbol.Pictograph
import AccessScopes.Text.CharName.Symbol.Sign

/-!
# `AccessScopes.Text.CharName.Symbol`: names of symbols

Signs, mathematical symbols, notations and pictographs.
-/

set_option autoImplicit false

namespace AccessScopes.Text

/-- The blocks of all symbols. -/
def symbolBlocks : List NameBlock :=
  signBlocks ++ mathematicsBlocks ++ notationBlocks ++ pictographBlocks

end AccessScopes.Text
