/-!
# `AccessScopes.Text.CharName.Hangul`: names of Hangul syllables

A syllable is an initial consonant, a vowel and possibly a final consonant. Its name spells the
three behind `HANGUL SYLLABLE`, and its code point counts the finals of each vowel of each initial.
-/

set_option autoImplicit false

namespace AccessScopes.Text

/-- How the initial consonants are spelled. The silent one is not. -/
def initialConsonants : List String :=
  ["G", "GG", "N", "D", "DD", "R", "M", "B", "BB", "S", "SS", "", "J", "JJ", "C", "K", "T", "P",
    "H"]

/-- How the vowels are spelled. -/
def syllableVowels : List String :=
  ["A", "AE", "YA", "YAE", "EO", "E", "YEO", "YE", "O", "WA", "WAE", "OE", "YO", "U", "WEO", "WE",
    "WI", "YU", "EU", "YI", "I"]

/-- How the final consonants are spelled. The first stands for none. -/
def finalConsonants : List String :=
  ["", "G", "GG", "GS", "N", "NJ", "NH", "D", "L", "LG", "LM", "LB", "LS", "LT", "LP", "LH", "M",
    "B", "BS", "S", "SS", "NG", "J", "C", "K", "T", "P", "H"]

/-- The code point of the first syllable. -/
def firstSyllable : Nat := 0xac00

/-- The code point of the syllable that is spelled so. -/
def syllableCode? (spelling : List Char) : Option Nat :=
  initialConsonants.zipIdx.findSome? fun (initial, i) => do
    let rest ← initial.toList.isPrefixOf? spelling
    syllableVowels.zipIdx.findSome? fun (vowel, v) => do
      let final ← vowel.toList.isPrefixOf? rest
      let f ← finalConsonants.idxOf? (String.ofList final)
      return firstSyllable +
        (i * syllableVowels.length + v) * finalConsonants.length + f

/-- The code point of the syllable with the given name. -/
def syllableNamed? (name : String) : Option Nat :=
  ("HANGUL SYLLABLE ".toList.isPrefixOf? name.toList).bind syllableCode?

end AccessScopes.Text
