import AccessScopes.Proofs.Scope.Coverage

/-!
# `AccessScopes.Proofs.Scope.Text`: scopes and their texts

Every scope has a text, and a text is that of a scope if it is cut into pieces that are not empty.

* `ofText_eq_ok_iff`: a text is read as the scope whose text it is.
* `exists_ofText_iff` and `ofText_eq_error_iff`: which texts are read as scopes, and what is wrong
  with all others.
* `writtenBy_iff`: the same by the dots alone, without cutting the text.
* `mem_text_of_covers` and `length_text_le_of_covers`: the text of what covers a scope has no new
  characters but dots and wildcards, and is not longer.
-/

set_option autoImplicit false

namespace AccessScopes

/-- With one more separator behind the last piece, there would be one for each piece. -/
theorem Text.length_joinChars_succ {sep : Char} {pieces : List (List Char)} (h : pieces ≠ []) :
    (joinChars sep pieces).length + 1 = (pieces.map fun piece => piece.length + 1).sum := by
  induction pieces with
  | nil => exact absurd rfl h
  | cons first rest ih =>
    cases rest with
    | nil => simp [joinChars]
    | cons second rest =>
      have hne : second :: rest ≠ [] := List.cons_ne_nil second rest
      rw [List.map_cons, List.sum_cons, ← ih hne, joinChars_cons hne, List.length_append,
        List.length_cons]
      omega

/-- The first piece is empty if the text is, or if the text begins with the separator. -/
theorem Text.head?_splitChars_eq_nil_iff {sep : Char} {text : List Char} :
    (splitChars sep text).head? = some [] ↔ text = [] ∨ [sep] <+: text := by
  cases text with
  | nil => simp [splitChars]
  | cons c rest =>
    rw [List.cons_prefix_cons, splitChars]
    split
    · next hc => simp [hc]
    · next hc =>
      have hne : ¬ sep = c := fun heq => hc heq.symm
      split <;> simp [hne]

/-- A further piece is empty if the text ends with the separator, or holds it twice in a row. The
induction is on the text. -/
theorem Text.nil_mem_tail_splitChars_iff {sep : Char} {text : List Char} :
    [] ∈ (splitChars sep text).tail ↔ [sep] <:+ text ∨ [sep, sep] <:+: text := by
  induction text with
  | nil => simp [splitChars]
  | cons c rest ih =>
    have hfirst : (splitChars sep rest).head? = some [] ↔ rest = [] ∨ [sep] <+: rest :=
      head?_splitChars_eq_nil_iff
    obtain ⟨piece, pieces, hpieces⟩ := List.exists_cons_of_ne_nil (splitChars_ne_nil sep rest)
    rw [hpieces, List.tail_cons] at ih
    rw [hpieces, List.head?_cons, Option.some.injEq] at hfirst
    rw [List.suffix_cons_iff, List.infix_cons_iff, List.cons_prefix_cons, splitChars, hpieces]
    split
    · next hc =>
      -- All pieces of the rest are further pieces now, the first one of them included.
      subst hc
      show [] ∈ piece :: pieces ↔ _
      have hends : [c] = c :: rest ↔ rest = [] := by
        rw [List.cons.injEq, eq_comm]
        simp
      rw [List.mem_cons, eq_comm, hfirst, ih, hends]
      simp only [true_and, or_assoc, or_left_comm]
    · next hc =>
      show [] ∈ pieces ↔ _
      have hne : ¬ sep = c := fun heq => hc heq.symm
      simp [ih, hne]

namespace Scope

/-! ### Reading texts -/

/-- Whether no piece between the dots of a text is empty. -/
def WrittenBy (text : String) : Prop :=
  "" ∉ Text.split separator text

instance (text : String) : Decidable (WrittenBy text) :=
  inferInstanceAs (Decidable (¬ _))

/-- No piece is empty exactly if there is a text, with no dot at either end and no two in a row. -/
theorem writtenBy_iff {text : String} :
    WrittenBy text ↔ text ≠ "" ∧ ¬ [separator] <+: text.toList ∧ ¬ [separator] <:+ text.toList
      ∧ ¬ [separator, separator] <:+: text.toList := by
  have hfirst : (Text.splitChars separator text.toList).head? = some [] ↔ _ :=
    Text.head?_splitChars_eq_nil_iff
  have hfurther : [] ∈ (Text.splitChars separator text.toList).tail ↔ _ :=
    Text.nil_mem_tail_splitChars_iff
  have hempty : "" ∈ Text.split separator text ↔ [] ∈ Text.splitChars separator text.toList := by
    rw [Text.split, List.mem_map]
    simp
  obtain ⟨piece, pieces, hpieces⟩ :=
    List.exists_cons_of_ne_nil (Text.splitChars_ne_nil separator text.toList)
  rw [hpieces, List.head?_cons, Option.some.injEq, String.toList_eq_nil_iff] at hfirst
  rw [hpieces, List.tail_cons] at hfurther
  rw [WrittenBy, hempty, hpieces, List.mem_cons, eq_comm, hfirst, hfurther]
  simp only [not_or, and_assoc, ne_eq]

/-- A text is read as the scope whose text it is. -/
theorem ofText_eq_ok_iff {t : String} {a : Scope} : ofText t = .ok a ↔ a.text = t := by
  constructor
  · intro h
    rw [text, segments_of_ofSegments h]
    simp [Text.join, Text.split, Function.comp_def, Text.joinChars_splitChars]
  · rintro rfl
    exact ofText_text a

/-- Scopes with the same text are the same. -/
theorem eq_of_text_eq {a b : Scope} (h : a.text = b.text) : a = b := by
  have hb : ofText a.text = .ok b := ofText_eq_ok_iff.mpr h.symm
  rw [ofText_text] at hb
  exact Except.ok.inj hb

/-- Cutting leaves at least one piece and no dots, so only an empty piece can be wrong. -/
theorem ofText_eq_error_iff {t : String} {e : ArgumentError} :
    ofText t = .error e ↔ ¬ WrittenBy t ∧ e = .emptySegment (Text.split separator t) := by
  have hne : Text.split separator t ≠ [] := by
    simpa [Text.split] using Text.splitChars_ne_nil separator t.toList
  have hsep : ¬ ∃ s ∈ Text.split separator t, separator ∈ s.toList := by
    rintro ⟨s, hs, hmem⟩
    exact Text.sep_not_mem_of_mem_split hs hmem
  simp only [ofText, ofSegments, hne, hsep, dite_false, WrittenBy, Classical.not_not]
  split
  · next hempty =>
    rw [Except.error.injEq]
    exact ⟨fun he => ⟨hempty, he.symm⟩, fun he => he.2.symm⟩
  · next hempty => exact iff_of_false (fun he => by cases he) fun he => hempty he.1

/-- The texts that are read as scopes are those without empty pieces. -/
theorem exists_ofText_iff {t : String} : (∃ a, ofText t = .ok a) ↔ WrittenBy t := by
  cases h : ofText t with
  | error e => exact iff_of_false nofun (ofText_eq_error_iff.mp h).1
  | ok a =>
    refine iff_of_true ⟨a, rfl⟩ ?_
    by_contra hnot
    rw [ofText_eq_error_iff.mpr ⟨hnot, rfl⟩] at h
    cases h

/-- The texts that scopes have are those without empty pieces. -/
theorem exists_text_iff {t : String} : (∃ a : Scope, a.text = t) ↔ WrittenBy t := by
  simp only [← ofText_eq_ok_iff, exists_ofText_iff]

/-! ### Texts of scopes that cover -/

/-- A segment of what covers is the wildcard or stands in what it covers. -/
theorem mem_of_segmentsCover {a b : List String} (h : segmentsCover a b = true) {s : String}
    (hs : s ∈ a) : s = wildcard ∨ s ∈ b := by
  induction h using segmentsCover_induction with
  | nil b => exact absurd hs List.not_mem_nil
  | cons hst _ ih =>
    rcases List.mem_cons.mp hs with rfl | hs
    · rcases hst with rfl | hwild
      · exact Or.inr List.mem_cons_self
      · exact Or.inl hwild
    · exact (ih hs).imp_right (List.mem_cons_of_mem _)

/-- Segment by segment, what covers is not longer: no segment is shorter than a wildcard. -/
theorem sum_length_le_of_segmentsCover {a b : List String} (h : segmentsCover a b = true)
    (hb : ∀ t ∈ b, t ≠ "") :
    (a.map fun s => s.length + 1).sum ≤ (b.map fun t => t.length + 1).sum := by
  induction h using segmentsCover_induction with
  | nil b => exact Nat.zero_le _
  | @cons s t a b hst _ ih =>
    obtain ⟨ht, hb⟩ := List.forall_mem_cons.mp hb
    have hrest := ih hb
    have hfirst : s.length ≤ t.length := by
      rcases hst with rfl | rfl
      · exact Nat.le_refl _
      · show 1 ≤ t.length
        have hne : t.length ≠ 0 := fun hzero => ht (String.length_eq_zero_iff.mp hzero)
        omega
    rw [List.map_cons, List.map_cons, List.sum_cons, List.sum_cons]
    omega

/-- The text of a scope has every character of every segment. -/
theorem mem_text_of_mem {a : Scope} {s : String} (hs : s ∈ a.segments) {c : Char}
    (hc : c ∈ s.toList) : c ∈ a.text.toList := by
  rw [text, Text.join, String.toList_ofList]
  exact Text.mem_joinChars_of_mem (List.mem_map_of_mem hs) hc

/-- The text of a scope has no characters but dots and those of its segments. -/
theorem eq_or_mem_of_mem_text {a : Scope} {c : Char} (h : c ∈ a.text.toList) :
    c = separator ∨ ∃ s ∈ a.segments, c ∈ s.toList := by
  rw [text, Text.join, String.toList_ofList] at h
  rcases Text.eq_or_mem_of_mem_joinChars h with hsep | ⟨piece, hpiece, hc⟩
  · exact Or.inl hsep
  · obtain ⟨s, hs, rfl⟩ := List.mem_map.mp hpiece
    exact Or.inr ⟨s, hs, hc⟩

/-- The length of a text, segment by segment. Each counts a dot with it, one dot too many. -/
theorem length_text_succ (a : Scope) :
    a.text.length + 1 = (a.segments.map fun s => s.length + 1).sum := by
  have hne : a.segments.map String.toList ≠ [] := by simpa using a.segments_ne
  rw [text, Text.join, String.length_ofList, Text.length_joinChars_succ hne, List.map_map]
  simp [Function.comp_def, String.length_toList]

/-- The text of what covers a scope is not longer than the text of the scope. -/
theorem length_text_le_of_covers {a b : Scope} (h : a.covers b = true) :
    a.text.length ≤ b.text.length := by
  have hsum := sum_length_le_of_segmentsCover h fun t ht => (b.isSegment t ht).1
  rw [← length_text_succ, ← length_text_succ] at hsum
  omega

/-- What covers is written with the characters of what it covers, with dots and with wildcards. -/
theorem mem_text_of_covers {a b : Scope} (h : a.covers b = true) {c : Char}
    (hc : c ∈ a.text.toList) : c = separator ∨ c = '*' ∨ c ∈ b.text.toList := by
  rcases eq_or_mem_of_mem_text hc with hsep | ⟨s, hs, hcs⟩
  · exact Or.inl hsep
  · rcases mem_of_segmentsCover h hs with rfl | hs
    · exact Or.inr (Or.inl (List.mem_singleton.mp hcs))
    · exact Or.inr (Or.inr (mem_text_of_mem hs hcs))

end Scope

end AccessScopes
