import AccessScopes.Pattern.Expr
import AccessScopes.Text.Quoted

/-!
# `AccessScopes.Pattern.Fault`: why a text is no pattern

A fault names its cause and, if one place is to blame, the position in the pattern, counted in
characters from zero. The message of a pattern of several lines also tells line and column, both
counted from one.
-/

set_option autoImplicit false

namespace AccessScopes.Pattern

/-- What is named between delimiters. -/
inductive Named where
  | group
  | character
deriving DecidableEq, Repr

/-- The word for what is named. -/
def Named.text : Named → String
  | .group => "group name"
  | .character => "character name"

/-- What is missing in a group head behind option letters. -/
inductive FlagGap where
  /-- Further letters or the end of the head. -/
  | more
  /-- A letter to switch off. -/
  | letter
  /-- The colon behind letters to switch off. -/
  | colon
deriving DecidableEq, Repr

/-- The words for what is missing. -/
def FlagGap.text : FlagGap → String
  | .more => "missing -, : or )"
  | .letter => "missing flag"
  | .colon => "missing :"

/-- The causes for which a text is refused as a pattern. -/
inductive Cause where
  /-- A backslash ends the text. -/
  | escapeAtEnd
  /-- An escape means nothing. -/
  | badEscape (escape : String)
  /-- A numeric escape has too few digits. -/
  | incompleteEscape (escape : String)
  /-- An octal escape is greater than a byte. -/
  | octalRange (escape : String)
  | missingBrace
  | undefinedCharacter (name : String)
  /-- A reference to a numbered group that does not exist. -/
  | invalidReference (group : Nat)
  /-- A reference to a group from inside it. -/
  | openReference
  /-- A reference, while looking back, to a group that was begun while looking back. -/
  | referenceBehind
  | unterminatedSet
  /-- The ends of a range are in the wrong order, or one is a class. -/
  | badRange (first last : String)
  | unterminatedGroup
  | unterminatedComment
  | unbalancedParenthesis
  /-- The text ends inside the head of a group. -/
  | unexpectedEnd
  /-- The head of a group begins with something unknown. -/
  | unknownExtension (head : String)
  | missingName (named : Named)
  | unterminatedName (close : Char)
  | badGroupName (name : String)
  | unknownGroupName (name : String)
  | repeatedGroupName (name : String) (group previous : Nat)
  /-- A condition on the group with the number zero. -/
  | badGroupNumber
  /-- A condition with more than two branches. -/
  | manyBranches
  | flagGap (gap : FlagGap)
  | unknownFlag
  /-- The alphabet of the surroundings is asked for. -/
  | localeFlag
  /-- Two alphabets are switched on at once. -/
  | alphabetFlags
  | alphabetOff
  /-- A group switches on what can be set for a whole pattern only. -/
  | globalOn
  | globalOff
  /-- A group switches the same option on and off. -/
  | onAndOff
  /-- An option for the whole pattern stands behind other text. -/
  | lateFlags
  | nothingToRepeat
  | multipleRepeat
  /-- The lower bound of a repeat exceeds the upper one. -/
  | repeatBounds
  /-- A bound of a repeat is beyond all that can be counted. -/
  | repeatTooLarge
  | repeatInTemplate (preference : Preference)
  /-- Looking back over a width that is not known beforehand. -/
  | unfixedBehind
  | farBehind
  /-- The whole pattern has two alphabets. -/
  | mixedAlphabets
deriving DecidableEq, Repr

/-- A cause and the place where it was noticed, if there is one. -/
structure Fault where
  cause : Cause
  position : Option Nat
deriving DecidableEq, Repr

/-- A fault at a place. -/
def Fault.at (cause : Cause) (position : Nat) : Fault :=
  ⟨cause, some position⟩

/-- The name of a repeat in a message. -/
def Preference.name : Preference → String
  | .many => "MAX_REPEAT"
  | .few => "MIN_REPEAT"
  | .possessive => "POSSESSIVE_REPEAT"

/-- The words for a cause. -/
def Cause.message : Cause → String
  | .escapeAtEnd => "bad escape (end of pattern)"
  | .badEscape escape => "bad escape " ++ escape
  | .incompleteEscape escape => "incomplete escape " ++ escape
  | .octalRange escape => "octal escape value " ++ escape ++ " outside of range 0-0o377"
  | .missingBrace => "missing \x7b"
  | .undefinedCharacter name => "undefined character name " ++ Text.quote name
  | .invalidReference group => "invalid group reference " ++ toString group
  | .openReference => "cannot refer to an open group"
  | .referenceBehind => "cannot refer to group defined in the same lookbehind subpattern"
  | .unterminatedSet => "unterminated character set"
  | .badRange first last => "bad character range " ++ first ++ "-" ++ last
  | .unterminatedGroup => "missing ), unterminated subpattern"
  | .unterminatedComment => "missing ), unterminated comment"
  | .unbalancedParenthesis => "unbalanced parenthesis"
  | .unexpectedEnd => "unexpected end of pattern"
  | .unknownExtension head => "unknown extension " ++ head
  | .missingName named => "missing " ++ named.text
  | .unterminatedName close => "missing " ++ close.toString ++ ", unterminated name"
  | .badGroupName name => "bad character in group name " ++ Text.quote name
  | .unknownGroupName name => "unknown group name " ++ Text.quote name
  | .repeatedGroupName name group previous =>
    "redefinition of group name " ++ Text.quote name ++ " as group " ++ toString group
      ++ "; was group " ++ toString previous
  | .badGroupNumber => "bad group number"
  | .manyBranches => "conditional backref with more than two branches"
  | .flagGap gap => gap.text
  | .unknownFlag => "unknown flag"
  | .localeFlag => "bad inline flags: cannot use 'L' flag with a str pattern"
  | .alphabetFlags => "bad inline flags: flags 'a', 'u' and 'L' are incompatible"
  | .alphabetOff => "bad inline flags: cannot turn off flags 'a', 'u' and 'L'"
  | .globalOn => "bad inline flags: cannot turn on global flag"
  | .globalOff => "bad inline flags: cannot turn off global flag"
  | .onAndOff => "bad inline flags: flag turned on and off"
  | .lateFlags => "global flags not at the start of the expression"
  | .nothingToRepeat => "nothing to repeat"
  | .multipleRepeat => "multiple repeat"
  | .repeatBounds => "min repeat greater than max repeat"
  | .repeatTooLarge => "the repetition number is too large"
  | .repeatInTemplate preference =>
    "internal: unsupported template operator " ++ preference.name
  | .unfixedBehind => "look-behind requires fixed-width pattern"
  | .farBehind => "looks too much behind"
  | .mixedAlphabets => "ASCII and UNICODE flags are incompatible"

/-- The number of characters behind the last line feed. -/
def columnOffset (text : List Char) : Nat :=
  (text.reverse.takeWhile (· != '\n')).length

/-- The words for a position in a text. -/
def positionText (text : List Char) (position : Nat) : String :=
  let before := text.take position
  let offset := " at position " ++ toString position
  if text.contains '\n' then
    offset ++ " (line " ++ toString (before.count '\n' + 1)
      ++ ", column " ++ toString (columnOffset before + 1) ++ ")"
  else offset

/-- The message for a fault found in the given pattern. -/
def Fault.message (fault : Fault) (pattern : String) : String :=
  fault.cause.message ++ (fault.position.map (positionText pattern.toList)).getD ""

/-- Whether a cause does not lie in how the pattern is written, but in what is asked for. -/
def Cause.isBeyondText : Cause → Bool
  | .repeatTooLarge | .mixedAlphabets => true
  | _ => false

/-- The message for a fault as a part of a longer one. A cause beyond the text is told without the
words that lead in. -/
def Fault.report (fault : Fault) (lead pattern : String) : String :=
  if fault.cause.isBeyondText then fault.message pattern else lead ++ fault.message pattern

end AccessScopes.Pattern
