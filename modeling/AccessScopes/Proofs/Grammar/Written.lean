import AccessScopes.Grammar.Token
import AccessScopes.Scope.Basic

/-!
# `AccessScopes.Proofs.Grammar.Written`: tokens and written values

A cursor writes three kinds of segments: the wildcard, a token, and a list of tokens in
parentheses. Tokens hold no character that structures a scope, so no kind can be taken for
another:

* `readValues?_enclose` and `eq_enclose_of_readValues?`: reading values in parentheses undoes
  writing them, and nothing but written values is read.
* `readValues?_of_isToken` and `not_isToken_enclose`: a token is no list in parentheses.
* `eq_of_writeValues_eq`: different lists of tokens are written differently.
* `IsWritten` joins the three kinds, and `IsWritten.isSegment` says that each can be a segment of
  a scope.
-/

set_option autoImplicit false

namespace AccessScopes

/-! ### Tokens -/

/-- A token is not empty, is not the wildcard, and has plain characters only. -/
theorem isToken_iff {s : String} :
    isToken s = true ↔ s ≠ "" ∧ s ≠ wildcard ∧ ∀ c ∈ s.toList, isTokenChar c = true := by
  simp only [isToken, Bool.and_eq_true, bne_iff_ne, List.all_eq_true, ne_eq, and_assoc]

/-- The wildcard is no token. -/
theorem ne_wildcard_of_isToken {s : String} (h : isToken s = true) : s ≠ wildcard :=
  (isToken_iff.mp h).2.1

/-- No character of a token structures a scope. -/
theorem not_mem_of_isToken {s : String} {c : Char} (h : isToken s = true) (hc : c ∈ reserved) :
    c ∉ s.toList := by
  intro hmem
  have hchar : isTokenChar c = true := (isToken_iff.mp h).2.2 c hmem
  simp [isTokenChar, hc] at hchar

/-- A token may stand in a scope. -/
theorem isSegment_of_isToken {s : String} (h : isToken s = true) : IsSegment s :=
  ⟨(isToken_iff.mp h).1, not_mem_of_isToken h (by decide)⟩

/-- The check of a name accepts exactly the tokens. -/
theorem checkName_eq_ok_iff {name : String} {u : Unit} :
    checkName name = .ok u ↔ isToken name = true := by
  unfold checkName
  split
  · next h => simp [h]
  · next h => simp [h]

/-! ### Values in parentheses -/

/-- The values in parentheses, however many there are. -/
def enclose (values : List String) : String :=
  String.ofList (valuesOpen :: (Text.join valueSeparator values).toList ++ [valuesClose])

/-- A single value is written without parentheses. -/
theorem writeValues_singleton (v : String) : writeValues [v] = v := rfl

/-- Only a single value is written without parentheses. -/
theorem writeValues_eq_enclose {values : List String} (h : ∀ v, values ≠ [v]) :
    writeValues values = enclose values := by
  unfold writeValues
  split
  · next v => exact absurd rfl (h v)
  · rfl

/-- The characters of values in parentheses. -/
theorem toList_enclose (values : List String) :
    (enclose values).toList
      = valuesOpen :: (Text.join valueSeparator values).toList ++ [valuesClose] := by
  rw [enclose, String.toList_ofList]

/-- Values in parentheses have an opening one. -/
theorem open_mem_enclose (values : List String) : valuesOpen ∈ (enclose values).toList := by
  simp [toList_enclose]

/-- A single value in parentheses tells which value it is. -/
theorem eq_of_enclose_singleton_eq {v w : String} (h : enclose [v] = enclose [w]) : v = w := by
  have hchars : (enclose [v]).toList = (enclose [w]).toList := by rw [h]
  rw [toList_enclose, toList_enclose] at hchars
  exact String.toList_inj.mp (by simpa [Text.join, Text.joinChars] using hchars)

/-- Values in parentheses are no token, as tokens have no parentheses. -/
theorem not_isToken_enclose (values : List String) : ¬ isToken (enclose values) = true := by
  intro h
  exact not_mem_of_isToken h (by decide) (open_mem_enclose values)

/-- Values in parentheses are not the wildcard. -/
theorem enclose_ne_wildcard (values : List String) : enclose values ≠ wildcard := by
  intro h
  have hopen := open_mem_enclose values
  rw [h] at hopen
  exact absurd hopen (by decide)

/-- Values without the separator are read back. -/
theorem readValues?_enclose {values : List String} (hne : values ≠ [])
    (hsep : ∀ v ∈ values, valueSeparator ∉ v.toList) :
    readValues? (enclose values) = some values := by
  have hne' : values.map String.toList ≠ [] := by simpa using hne
  have hsep' : ∀ piece ∈ values.map String.toList, valueSeparator ∉ piece := by
    intro piece hpiece
    obtain ⟨v, hv, rfl⟩ := List.mem_map.mp hpiece
    exact hsep v hv
  simp [readValues?, toList_enclose, Text.split, Text.join, Text.splitChars_joinChars hne' hsep']

/-- Tokens hold no separator, so they are read back. -/
theorem readValues?_enclose_of_isToken {values : List String} (hne : values ≠ [])
    (htoken : ∀ v ∈ values, isToken v = true) : readValues? (enclose values) = some values :=
  readValues?_enclose hne fun v hv => not_mem_of_isToken (htoken v hv) (by decide)

/-- Nothing but values in parentheses is read as values. -/
theorem eq_enclose_of_readValues? {s : String} {values : List String}
    (h : readValues? s = some values) : s = enclose values := by
  unfold readValues? at h
  split at h
  · cases h
  · next c rest hs =>
    split at h
    · next hc =>
      obtain ⟨hopen, hclose⟩ : c = valuesOpen ∧ rest.getLast? = some valuesClose := by
        simpa using hc
      obtain ⟨inner, rfl⟩ := List.getLast?_eq_some_iff.mp hclose
      obtain rfl : Text.split valueSeparator (String.ofList inner) = values := by
        simpa using h
      -- The pieces between the parentheses are joined to what was cut.
      have hjoin : (Text.join valueSeparator
          (Text.split valueSeparator (String.ofList inner))).toList = inner := by
        simp [Text.join, Text.split, Function.comp_def, Text.joinChars_splitChars]
      rw [enclose, hjoin, List.cons_append, ← hopen, ← hs, String.ofList_toList]
    · cases h

/-- No value that is read holds the separator. -/
theorem separator_not_mem_of_readValues? {s : String} {values : List String}
    (h : readValues? s = some values) : ∀ v ∈ values, valueSeparator ∉ v.toList := by
  unfold readValues? at h
  split at h
  · cases h
  · split at h
    · cases h
      intro v hv
      exact Text.sep_not_mem_of_mem_split hv
    · cases h

/-- A token is no list in parentheses. -/
theorem readValues?_of_isToken {s : String} (h : isToken s = true) : readValues? s = none := by
  cases hread : readValues? s with
  | none => rfl
  | some values =>
    rw [eq_enclose_of_readValues? hread] at h
    exact absurd h (not_isToken_enclose values)

/-- Tokens are read back from the segment that is written for them, in parentheses or not. -/
theorem getD_readValues?_writeValues {values : List String} (hne : values ≠ [])
    (htoken : ∀ v ∈ values, isToken v = true) :
    (readValues? (writeValues values)).getD [writeValues values] = values := by
  by_cases hone : ∃ v, values = [v]
  · obtain ⟨v, rfl⟩ := hone
    rw [writeValues_singleton, readValues?_of_isToken (htoken v (List.mem_singleton.mpr rfl))]
    rfl
  · rw [writeValues_eq_enclose fun v hv => hone ⟨v, hv⟩,
      readValues?_enclose_of_isToken hne htoken]
    rfl

/-- Different lists of tokens are written differently. -/
theorem eq_of_writeValues_eq {values others : List String} (hne : values ≠ []) (hne' : others ≠ [])
    (htoken : ∀ v ∈ values, isToken v = true) (htoken' : ∀ v ∈ others, isToken v = true)
    (h : writeValues values = writeValues others) : values = others := by
  rw [← getD_readValues?_writeValues hne htoken, h, getD_readValues?_writeValues hne' htoken']

/-! ### Written segments -/

/-- What a cursor writes as one segment: the wildcard, a token, or tokens in parentheses. -/
inductive IsWritten : String → Prop
  | wildcard : IsWritten wildcard
  | values (values : List String) (hne : values ≠ []) (htoken : ∀ v ∈ values, isToken v = true) :
    IsWritten (writeValues values)

/-- A token may be written, as a value without parentheses. -/
theorem IsWritten.of_isToken {s : String} (h : isToken s = true) : IsWritten s :=
  .values [s] (by simp) (by simpa using h)

/-- A written segment is no single value in parentheses. -/
theorem IsWritten.ne_enclose_singleton {s : String} (h : IsWritten s) {v : String}
    (hv : isToken v = true) : s ≠ enclose [v] := by
  have hread : readValues? (enclose [v]) = some [v] :=
    readValues?_enclose_of_isToken (List.cons_ne_nil v []) (by simpa using hv)
  intro heq
  rw [← heq] at hread
  cases h with
  | wildcard => exact absurd heq.symm (enclose_ne_wildcard [v])
  | values values hne htoken =>
    by_cases hone : ∃ u, values = [u]
    · obtain ⟨u, rfl⟩ := hone
      have hu : isToken u = true := htoken u (List.mem_singleton.mpr rfl)
      rw [writeValues_singleton, readValues?_of_isToken hu] at hread
      cases hread
    · rw [writeValues_eq_enclose fun u hu => hone ⟨u, hu⟩,
        readValues?_enclose_of_isToken hne htoken] at hread
      exact hone ⟨v, Option.some.inj hread⟩

/-- Parentheses and commas bring in no dot. -/
theorem separator_not_mem_enclose {values : List String}
    (h : ∀ v ∈ values, separator ∉ v.toList) : separator ∉ (enclose values).toList := by
  have hjoin : separator ∉ (Text.join valueSeparator values).toList := by
    induction values with
    | nil => simp [Text.join, Text.joinChars]
    | cons v values ih =>
      have hv : separator ∉ v.toList := h v (by simp)
      have hrest := ih fun w hw => h w (List.mem_cons_of_mem _ hw)
      cases values with
      | nil => simpa [Text.join, Text.joinChars] using hv
      | cons w values =>
        simp only [Text.join, List.map_cons, Text.joinChars, String.toList_ofList,
          List.mem_append, List.mem_cons, not_or] at hrest ⊢
        exact ⟨hv, by decide, hrest⟩
  rw [toList_enclose]
  simp only [List.cons_append, List.mem_cons, List.mem_append, List.not_mem_nil, or_false, not_or]
  exact ⟨by decide, hjoin, by decide⟩

/-- Tokens in parentheses may stand in a scope. -/
theorem isSegment_enclose {values : List String} (h : ∀ v ∈ values, isToken v = true) :
    IsSegment (enclose values) := by
  constructor
  · intro hempty
    have hopen := open_mem_enclose values
    rw [hempty] at hopen
    exact absurd hopen (by decide)
  · exact separator_not_mem_enclose fun v hv => not_mem_of_isToken (h v hv) (by decide)

/-- Whatever a cursor writes may stand in a scope. -/
theorem IsWritten.isSegment {s : String} (h : IsWritten s) : IsSegment s := by
  cases h with
  | wildcard => decide
  | values values hne htoken =>
    by_cases hone : ∃ v, values = [v]
    · obtain ⟨v, rfl⟩ := hone
      exact isSegment_of_isToken (htoken v (by simp))
    · rw [writeValues_eq_enclose fun v hv => hone ⟨v, hv⟩]
      exact isSegment_enclose htoken

end AccessScopes
