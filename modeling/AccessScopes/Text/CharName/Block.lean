import AccessScopes.Text.Separated

/-!
# `AccessScopes.Text.CharName.Block`: names of neighbouring characters

Unicode assigns characters in blocks, and the names in a block often share their words. A table
of names says a shared word once: after `LATIN CAPITAL LETTER A` the entry `~SMALL~~` is
`LATIN SMALL LETTER A`, because a tilde repeats the word at its place in the name before.
-/

set_option autoImplicit false

namespace AccessScopes.Text

/-- The names of characters that follow each other, the first of which has the code point `first`.
A line holds entries with commas between them. The entry of an unassigned code point is empty. -/
structure NameBlock where
  first : Nat
  lines : List String

/-- The words and tildes of an entry. A tilde needs no space around it. -/
def entryWords (entry : String) : List String :=
  let spaced := entry.toList.flatMap fun c => if c = '~' then [' ', '~', ' '] else [c]
  (split ' ' (String.ofList spaced)).filter (· ≠ "")

/-- The words of an entry, with those of the name before it in place of its tildes. -/
def repeatWords : List String → List String → List String
  | _, [] => []
  | before, word :: words =>
    (if word = "~" then before.headD "" else word) :: repeatWords before.tail words

/-- The names that entries stand for, in words. `before` is the last name in front of them; an
empty entry gives no name and leaves it in place. -/
def entryNames (before : List String) : List String → List (List String)
  | [] => []
  | entry :: entries =>
    match entryWords entry with
    | [] => [] :: entryNames before entries
    | words =>
      let name := repeatWords before words
      name :: entryNames name entries

/-- The code point whose name has the given words, in a block. -/
def NameBlock.find? (block : NameBlock) (name : List String) : Option Nat :=
  let names := entryNames [] (block.lines.flatMap (split ','))
  (names.idxOf? name).map (block.first + ·)

end AccessScopes.Text
