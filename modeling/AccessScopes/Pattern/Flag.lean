/-!
# `AccessScopes.Pattern.Flag`: options of a pattern

An option is written as one letter. It holds for the whole pattern or for one group, and a group
can also switch options off. Two options choose an alphabet, that is, what the named classes of
characters and the comparison of letters know about; a pattern has one alphabet at a time.
-/

set_option autoImplicit false

namespace AccessScopes.Pattern

/-- An option of a pattern. -/
inductive Flag where
  /-- Classes and case know basic Latin only. -/
  | ascii
  /-- Letters match in any case. -/
  | anyCase
  /-- The alphabet of the surroundings, which texts do not have. -/
  | locale
  /-- Line starts and line ends count as well. -/
  | multiline
  /-- The dot stands for the line feed too. -/
  | dotAll
  /-- A pattern without repeats. -/
  | template
  /-- Classes and case know all scripts. This is so without the option as well. -/
  | unicode
  /-- Blanks and comments in the pattern are skipped. -/
  | verbose
deriving DecidableEq, Repr

/-- The option that a letter stands for. -/
def Flag.ofChar? : Char → Option Flag
  | 'a' => some .ascii
  | 'i' => some .anyCase
  | 'L' => some .locale
  | 'm' => some .multiline
  | 's' => some .dotAll
  | 't' => some .template
  | 'u' => some .unicode
  | 'x' => some .verbose
  | _ => none

/-- Whether an option chooses the alphabet. -/
def Flag.isAlphabet : Flag → Bool
  | .ascii | .locale | .unicode => true
  | _ => false

/-- Whether an option can be set for a whole pattern only. -/
def Flag.isGlobal : Flag → Bool
  | .template => true
  | _ => false

/-- A set of options; order and repetition have no meaning. -/
abbrev Flags := List Flag

/-- The options that a group switches on and off. -/
structure Switch where
  on : Flags
  off : Flags
deriving DecidableEq, Repr

/-- Whether nothing is switched. -/
def Switch.isNeutral (switch : Switch) : Bool :=
  switch.on.isEmpty && switch.off.isEmpty

/-- The options inside a group. A new alphabet replaces the old one. -/
def Flags.switched (flags : Flags) (switch : Switch) : Flags :=
  let kept := if switch.on.any Flag.isAlphabet then flags.filter (!·.isAlphabet) else flags
  (kept ++ switch.on).filter (!switch.off.contains ·)

end AccessScopes.Pattern
