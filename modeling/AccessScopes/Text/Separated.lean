/-!
# `AccessScopes.Text.Separated`: pieces and the text that joins them

`split` cuts a text at every occurrence of a separator, and `join` puts the pieces back with the
separator between them. Cutting always gives at least one piece, and a text with n separators
gives n + 1 pieces, empty ones included.

* `joinChars_splitChars`: joining the pieces of a text gives the text back.
* `sep_not_mem_of_mem_split`: no piece holds the separator.
* `splitChars_joinChars`: cutting joined pieces gives the pieces back, if there is at least one
  piece and none of them holds the separator.
* `eq_or_mem_of_mem_joinChars`: the characters of joined pieces.
-/

set_option autoImplicit false

namespace AccessScopes.Text

/-- The pieces between the separators. -/
def splitChars (sep : Char) : List Char → List (List Char)
  | [] => [[]]
  | c :: rest =>
    if c = sep then [] :: splitChars sep rest
    else match splitChars sep rest with
      | [] => [[c]]
      | piece :: pieces => (c :: piece) :: pieces

/-- The pieces with the separator between them. -/
def joinChars (sep : Char) : List (List Char) → List Char
  | [] => []
  | [piece] => piece
  | piece :: pieces => piece ++ sep :: joinChars sep pieces

/-- Cuts a text at every separator. -/
def split (sep : Char) (text : String) : List String :=
  (splitChars sep text.toList).map String.ofList

/-- Joins pieces with a separator. -/
def join (sep : Char) (pieces : List String) : String :=
  String.ofList (joinChars sep (pieces.map String.toList))

/-- Cutting gives at least one piece, also of the empty text. -/
theorem splitChars_ne_nil (sep : Char) (text : List Char) : splitChars sep text ≠ [] := by
  cases text with
  | nil => simp [splitChars]
  | cons c rest =>
    simp only [splitChars]
    split
    · simp
    · split <;> simp

/-- Joining puts a separator behind the first of several pieces. -/
theorem joinChars_cons {sep : Char} {piece : List Char} {pieces : List (List Char)}
    (h : pieces ≠ []) :
    joinChars sep (piece :: pieces) = piece ++ sep :: joinChars sep pieces := by
  cases pieces with
  | nil => exact absurd rfl h
  | cons => rfl

/-- Joining keeps every character of every piece. -/
theorem mem_joinChars_of_mem {sep c : Char} {pieces : List (List Char)} {piece : List Char}
    (hpiece : piece ∈ pieces) (hc : c ∈ piece) : c ∈ joinChars sep pieces := by
  induction pieces with
  | nil => exact absurd hpiece List.not_mem_nil
  | cons first rest ih =>
    cases rest with
    | nil =>
      rw [List.mem_singleton.mp hpiece] at hc
      exact hc
    | cons second rest =>
      rw [joinChars_cons (List.cons_ne_nil second rest), List.mem_append, List.mem_cons]
      rcases List.mem_cons.mp hpiece with rfl | hrest
      · exact Or.inl hc
      · exact Or.inr (Or.inr (ih hrest))

/-- Joining adds nothing but separators. -/
theorem eq_or_mem_of_mem_joinChars {sep c : Char} {pieces : List (List Char)}
    (h : c ∈ joinChars sep pieces) : c = sep ∨ ∃ piece ∈ pieces, c ∈ piece := by
  induction pieces with
  | nil => exact absurd h List.not_mem_nil
  | cons first rest ih =>
    cases rest with
    | nil => exact Or.inr ⟨first, List.mem_cons_self, h⟩
    | cons second rest =>
      rw [joinChars_cons (List.cons_ne_nil second rest), List.mem_append, List.mem_cons] at h
      rcases h with h | h | h
      · exact Or.inr ⟨first, List.mem_cons_self, h⟩
      · exact Or.inl h
      · rcases ih h with hsep | ⟨piece, hpiece, hc⟩
        · exact Or.inl hsep
        · exact Or.inr ⟨piece, List.mem_cons_of_mem _ hpiece, hc⟩

/-- Joining the pieces of a text gives the text back. -/
theorem joinChars_splitChars (sep : Char) (text : List Char) :
    joinChars sep (splitChars sep text) = text := by
  induction text with
  | nil => rfl
  | cons c rest ih =>
    have hne := splitChars_ne_nil sep rest
    simp only [splitChars]
    split
    · next h => rw [joinChars_cons hne, ih, h]; rfl
    · split
      · next h => exact absurd h hne
      · next piece pieces h =>
        rw [h] at ih
        cases pieces with
        | nil => simpa [joinChars] using ih
        | cons => simpa [joinChars] using ih

/-- A piece without separators is cut off at the separator after it. -/
theorem splitChars_append_sep {sep : Char} {piece : List Char} (h : sep ∉ piece)
    (rest : List Char) : splitChars sep (piece ++ sep :: rest) = piece :: splitChars sep rest := by
  induction piece with
  | nil => simp [splitChars]
  | cons c piece ih =>
    have hc : ¬ c = sep := fun e => h (by simp [e])
    simp [splitChars, hc, ih (fun m => h (List.mem_cons_of_mem _ m))]

/-- A text without separators is its own only piece. -/
theorem splitChars_of_not_mem {sep : Char} {piece : List Char} (h : sep ∉ piece) :
    splitChars sep piece = [piece] := by
  induction piece with
  | nil => rfl
  | cons c piece ih =>
    have hc : ¬ c = sep := fun e => h (by simp [e])
    simp [splitChars, hc, ih (fun m => h (List.mem_cons_of_mem _ m))]

/-- No piece holds the separator. -/
theorem sep_not_mem_of_mem_splitChars {sep : Char} {text piece : List Char}
    (h : piece ∈ splitChars sep text) : sep ∉ piece := by
  induction text generalizing piece with
  | nil =>
    rw [List.mem_singleton.mp h]
    exact List.not_mem_nil
  | cons c rest ih =>
    rw [splitChars] at h
    split at h
    · rcases List.mem_cons.mp h with rfl | h
      · exact List.not_mem_nil
      · exact ih h
    · next hc =>
      split at h
      · next hnil => exact absurd hnil (splitChars_ne_nil sep rest)
      · next first pieces hpieces =>
        -- The character goes to the front of the first piece of the rest.
        rw [hpieces] at ih
        rcases List.mem_cons.mp h with rfl | h
        · rw [List.mem_cons, not_or]
          exact ⟨fun heq => hc heq.symm, ih List.mem_cons_self⟩
        · exact ih (List.mem_cons_of_mem _ h)

/-- No piece of a text holds the separator. -/
theorem sep_not_mem_of_mem_split {sep : Char} {text piece : String} (h : piece ∈ split sep text) :
    sep ∉ piece.toList := by
  obtain ⟨chars, hchars, rfl⟩ := List.mem_map.mp h
  rw [String.toList_ofList]
  exact sep_not_mem_of_mem_splitChars hchars

/-- Cutting joined pieces gives them back. There has to be a piece, since the empty text has one,
and none may hold the separator. -/
theorem splitChars_joinChars {sep : Char} {pieces : List (List Char)} (hne : pieces ≠ [])
    (hsep : ∀ piece ∈ pieces, sep ∉ piece) : splitChars sep (joinChars sep pieces) = pieces := by
  induction pieces with
  | nil => exact absurd rfl hne
  | cons piece pieces ih =>
    have hpiece := hsep piece (by simp)
    by_cases hp : pieces = []
    · subst hp
      exact splitChars_of_not_mem hpiece
    · rw [joinChars_cons hp, splitChars_append_sep hpiece,
        ih hp fun q hq => hsep q (List.mem_cons_of_mem _ hq)]

end AccessScopes.Text
