import AccessScopes.Value.Text

/-!
# `AccessScopes.Proofs.Audit.Sanitize`: what sanitising makes of a text

A text that was sanitised can be shown, and it is not much longer than the limit:

* `isPrintable_of_mem_sanitize`: its characters are printable, for every limit.
* `length_sanitize_le`: beyond a limit that is not negative there is only the mark.

For such a limit `ShownAs` says what becomes of a text, without a word on how it is done.

* `shownAs_iff`: sanitising does what it says, and no other result would.
* `ShownAs.again`: whatever stands for a text also stands for itself. So a text that was sanitised
  stays as it is. A negative limit has no such law: each time it takes from the end, so that the
  mark itself is cut.
* `shownAs_sanitizeValue` states both for the values that a record can hold.
-/

set_option autoImplicit false

namespace AccessScopes.Audit

variable {limit : Int} {text : String} {c : Char}

/-- What stands for a character is printable. -/
theorem isPrintable_showChar (c : Char) : Text.isPrintable (showChar c) = true := by
  unfold showChar
  split
  · next h => exact h
  · decide +kernel

/-- The mark of a text that was cut is printable. -/
theorem isPrintable_of_mem_truncationMark (h : c ∈ truncationMark.toList) :
    Text.isPrintable c = true := by
  have hall : truncationMark.toList.all Text.isPrintable = true := by decide +kernel
  exact List.all_eq_true.mp hall c h

/-- Whatever the limit is, the characters that it leaves stand at the front. -/
theorem isPrefix_cut (limit : Int) (chars : List Char) : cut limit chars <+: chars := by
  unfold cut
  split
  · exact List.take_prefix _ _
  · exact List.take_prefix _ _

/-- What is left of a text is not longer than the limit. -/
theorem length_cut_le (h : 0 ≤ limit) (chars : List Char) :
    ((cut limit chars).length : Int) ≤ limit := by
  rw [cut, if_neg (by omega), List.length_take]
  omega

/-- The characters come from the text, where all of them are shown, or from the mark. -/
theorem isPrintable_of_mem_sanitize (h : c ∈ (sanitize limit text).toList) :
    Text.isPrintable c = true := by
  have hshown : ∀ d ∈ text.toList.map showChar, Text.isPrintable d = true := by
    intro d hd
    obtain ⟨e, -, rfl⟩ := List.mem_map.mp hd
    exact isPrintable_showChar e
  rw [sanitize] at h
  split at h
  · rw [String.toList_ofList, List.mem_append] at h
    rcases h with h | h
    · exact hshown c ((isPrefix_cut limit _).subset h)
    · exact isPrintable_of_mem_truncationMark h
  · rw [String.toList_ofList] at h
    exact hshown c h

/-- A sanitised text exceeds the limit by no more than the mark. -/
theorem length_sanitize_le (h : 0 ≤ limit) (text : String) :
    ((sanitize limit text).length : Int) ≤ limit + 14 := by
  have hcut : ((cut limit (text.toList.map showChar)).length : Int) ≤ limit := length_cut_le h _
  have hmark : truncationMark.toList.length = 14 := by decide
  rw [sanitize]
  split
  · rw [String.length_ofList, List.length_append, hmark]
    omega
  · rw [String.length_ofList]
    omega

/-! ### What stands for a text -/

/-- Whether a text can stand for another one in a record that leaves it `m` characters. -/
structure ShownAs (m : Nat) (text shown : String) : Prop where
  printable : ∀ c ∈ shown.toList, Text.isPrintable c = true
  /-- A text that fits keeps its length. -/
  length_eq : text.length ≤ m → shown.length = text.length
  /-- Of a longer one there are `m` characters and the mark. -/
  cut_off : m < text.length →
    ∃ front : String, front.length = m ∧ shown = front ++ "...<truncated>"
  /-- As far as the limit goes, each character is the one of the text or a question mark. -/
  char_eq : ∀ i c, i < m → text.toList[i]? = some c →
    shown.toList[i]? = some (if Text.isPrintable c = true then c else '?')

variable {m : Nat} {shown : String}

/-- Each character is shown as one character. -/
theorem length_map_showChar (text : String) :
    (text.toList.map showChar).length = text.length := by
  rw [List.length_map, String.length_toList]

/-- A text within the limit is shown in full. -/
theorem sanitize_of_length_le (h : text.length ≤ m) :
    sanitize m text = String.ofList (text.toList.map showChar) := by
  rw [sanitize, if_neg (by rw [length_map_showChar]; omega)]

/-- Of a text beyond the limit its beginning is shown, with the mark behind it. -/
theorem sanitize_of_lt_length (h : m < text.length) :
    sanitize m text = String.ofList ((text.toList.map showChar).take m) ++ truncationMark := by
  rw [sanitize, if_pos (by rw [length_map_showChar]; omega), cut, if_neg (by omega),
    Int.toNat_natCast, String.ofList_append, String.ofList_toList]

/-- The part of a long text that is shown has the length of the limit. -/
theorem length_take_showChar (h : m < text.length) :
    ((text.toList.map showChar).take m).length = m := by
  rw [List.length_take, length_map_showChar]
  omega

/-- Up to the limit the result consists of the shown characters of the text. -/
theorem take_toList_sanitize (m : Nat) (text : String) :
    (sanitize m text).toList.take m = (text.toList.map showChar).take m := by
  rcases Nat.lt_or_ge m text.length with hlt | hle
  · rw [sanitize_of_lt_length hlt, String.toList_append, String.toList_ofList,
      List.take_left' (length_take_showChar hlt)]
  · rw [sanitize_of_length_le hle, String.toList_ofList]

/-- A sanitised text stands for the text that it was made from. -/
theorem shownAs_sanitize (m : Nat) (text : String) : ShownAs m text (sanitize m text) where
  printable := fun _ hc => isPrintable_of_mem_sanitize hc
  length_eq := by
    intro hle
    rw [sanitize_of_length_le hle, String.length_ofList, length_map_showChar]
  cut_off := by
    intro hlt
    refine ⟨String.ofList ((text.toList.map showChar).take m), ?_, sanitize_of_lt_length hlt⟩
    rw [String.length_ofList, length_take_showChar hlt]
  char_eq := by
    intro i c hi hc
    rw [← List.getElem?_take_of_lt hi, take_toList_sanitize, List.getElem?_take_of_lt hi,
      List.getElem?_map, hc]
    rfl

namespace ShownAs

/-- The converse of `take_toList_sanitize`: the conditions fix the characters up to the limit. -/
theorem take_toList_eq (h : ShownAs m text shown) :
    shown.toList.take m = (text.toList.map showChar).take m := by
  apply List.ext_getElem?
  intro i
  rcases Nat.lt_or_ge i m with hi | hi
  · rw [List.getElem?_take_of_lt hi, List.getElem?_take_of_lt hi, List.getElem?_map]
    cases hc : text.toList[i]? with
    | some c => exact h.char_eq i c hi hc
    | none =>
      -- The text ends before the limit, so the other one ends where it ends.
      have hend : text.length ≤ i := by
        rw [← String.length_toList]
        exact List.getElem?_eq_none_iff.mp hc
      have hlength : shown.toList.length = text.length := by
        rw [String.length_toList]
        exact h.length_eq (by omega)
      exact List.getElem?_eq_none (by omega)
  · rw [List.getElem?_take_eq_none hi, List.getElem?_take_eq_none hi]

/-- Nothing else stands for a text but what sanitising makes of it. -/
theorem eq_sanitize (h : ShownAs m text shown) : shown = sanitize m text := by
  rcases Nat.lt_or_ge m text.length with hlt | hle
  · obtain ⟨front, hfront, rfl⟩ := h.cut_off hlt
    have hlength : front.toList.length = m := by rw [String.length_toList, hfront]
    have hchars : front.toList = (text.toList.map showChar).take m := by
      rw [← h.take_toList_eq, String.toList_append, List.take_left' hlength]
    rw [sanitize_of_lt_length hlt, ← hchars, String.ofList_toList]
    rfl
  · -- Both fit, so the limit takes nothing from them.
    have hlength : shown.toList.length ≤ m := by rwa [String.length_toList, h.length_eq hle]
    have hchars : shown.toList = text.toList.map showChar := by
      rw [← List.take_of_length_le hlength, h.take_toList_eq,
        List.take_of_length_le (by rwa [length_map_showChar])]
    rw [sanitize_of_length_le hle, ← hchars, String.ofList_toList]

/-- What stands for a text stands for itself: if it is too long, it was cut off at the limit. -/
theorem again (h : ShownAs m text shown) : ShownAs m shown shown where
  printable := h.printable
  length_eq := fun _ => rfl
  cut_off := by
    intro hlt
    refine h.cut_off (Nat.lt_of_not_le fun hle => ?_)
    have hlength : shown.length = text.length := h.length_eq hle
    omega
  char_eq := by
    intro i c _ hc
    rw [if_pos (h.printable c (List.mem_of_getElem? hc)), hc]

end ShownAs

/-- Sanitising does what `ShownAs` says, and no other result would. -/
theorem shownAs_iff : ShownAs m text shown ↔ shown = sanitize m text := by
  constructor
  · exact ShownAs.eq_sanitize
  · rintro rfl
    exact shownAs_sanitize m text

/-- A text that was sanitised stays as it is. -/
theorem sanitize_sanitize (m : Nat) (text : String) :
    sanitize m (sanitize m text) = sanitize m text :=
  (shownAs_sanitize m text).again.eq_sanitize.symm

example : sanitize (-1) (sanitize (-1) "api") ≠ sanitize (-1) "api" := by decide +kernel

/-! ### Values -/

/-- A value is sanitised as its text, unless there is no value. -/
theorem sanitizeValue_of_ne_null {v : Value} (h : v ≠ .null) (limit : Int) :
    sanitizeValue limit v = sanitize limit v.plain := by
  cases v with
  | null => exact absurd rfl h
  | _ => rfl

/-- What a record holds of a value that is not missing, for every limit that is not negative:

1. What it holds stands for the text of the value, and nothing else would.
2. To sanitise it once more changes nothing. -/
theorem shownAs_sanitizeValue {v : Value} (h : v ≠ .null) (m : Nat) :
    (∀ shown, ShownAs m v.plain shown ↔ shown = sanitizeValue m v)
      ∧ sanitizeValue m (.text (sanitizeValue m v)) = sanitizeValue m v := by
  rw [sanitizeValue_of_ne_null h]
  exact ⟨fun _ => shownAs_iff, sanitize_sanitize m v.plain⟩

/-- Of a text with a line break, four characters long, the limit 3 leaves the first three. -/
theorem shownAs_sanitizeValue_broken :
    let v : Value := .text "a\nbc"
    let shown : String := "a?b...<truncated>"
    v ≠ .null ∧ sanitizeValue 3 v = shown ∧ ShownAs 3 v.plain shown
      ∧ sanitizeValue 3 (.text shown) = shown := by
  intro v shown
  have hv : v ≠ .null := nofun
  have hshown : sanitizeValue 3 v = shown := by decide +kernel
  obtain ⟨hiff, hagain⟩ := shownAs_sanitizeValue hv 3
  refine ⟨hv, hshown, (hiff shown).mpr hshown.symm, ?_⟩
  rw [← hshown]
  exact hagain

end AccessScopes.Audit
