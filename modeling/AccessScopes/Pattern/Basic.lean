import AccessScopes.Pattern.Reading

/-!
# `AccessScopes.Pattern.Basic`: value patterns

A value pattern is a condition on texts together with the text it was declared with. The library
only ever asks whether a text satisfies the condition and how the pattern is written, so
everything proved about grammars holds for any condition. `Pattern.ofText?` makes the condition
from the written form: a text satisfies it if the expression matches somewhere in it.
-/

set_option autoImplicit false

namespace AccessScopes

/-- A condition on texts, as written and as a test. -/
structure Pattern where
  source : String
  /-- The options of the whole pattern, whether the written form says so or not. -/
  flags : Pattern.Flags
  accepts : String → Bool

/-- Reads a pattern. With `anyCase` set, letters match in any case. -/
def Pattern.ofText? (source : String) (anyCase : Bool) : Except Pattern.Fault Pattern := do
  let (expr, flags) ← Pattern.Expr.ofText source.toList (if anyCase then [.anyCase] else [])
  return ⟨source, flags, fun text => expr.occursIn text.toList⟩

/-- Whether an option holds for the whole pattern. -/
def Pattern.has (pattern : Pattern) (flag : Pattern.Flag) : Bool :=
  pattern.flags.contains flag

end AccessScopes
