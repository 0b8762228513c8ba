import AccessScopes.Proofs.Scope.Coverage
import AccessScopes.Proofs.Value.Hashing

/-!
# `AccessScopes.Proofs.Value.Forms`: comparing one scope in several forms

Callers write a single scope in four forms: as its text, as a scope, as a cursor, or as a set of it
alone. Two of these know how to compare themselves, a scope and a scope set, and they do so in
different ways. A scope turns the other side into a scope, but does not take a set. A set turns the
other side into a set, whatever its form. If the left side does not know, the right side is asked
with the comparison turned around.

* `Value.FormOf` says which values are forms of a scope.
* `Comparison.onScopeSets_of_singleton` and `Comparison.onScopes_flip`: both ways of comparing, and
  both directions of asking, are one relation on scopes.
* `Value.compareLeft?_of_forms`: a side that answers gives the answer of this relation, and
  `Value.exists_answer` finds a side that answers.
* `Value.compare_forms`: what the comparisons say about the scopes.
-/

set_option autoImplicit false

namespace AccessScopes

variable {s t : Scope} {a b : ScopeSet} {v w : Value}

/-! ### One relation on scopes -/

/-- Asking the other side is asking the same. -/
theorem Comparison.onScopes_flip (comparison : Comparison) (s t : Scope) :
    comparison.flip.onScopes t s = comparison.onScopes s t := by
  cases comparison with
  | ge | le => rfl
  | gt | lt => simp only [flip, onScopes, bne_comm]

/-- On sets of one scope, the comparison of sets is that of scopes. -/
theorem Comparison.onScopeSets_of_singleton (comparison : Comparison) (ha : a.members = [s])
    (hb : b.members = [t]) : comparison.onScopeSets a b = comparison.onScopes s t := by
  have hforth : a.covers b = s.covers t := by simp [ScopeSet.covers, ha, hb]
  have hback : b.covers a = t.covers s := by simp [ScopeSet.covers, ha, hb]
  -- Only a strict comparison asks whether the sets are the same.
  have hsame : a.same b = (s == t) := by
    rw [Bool.eq_iff_iff, ScopeSet.same_eq_true_iff, ha, hb, beq_iff_eq]
    simp only [List.mem_singleton]
    exact ⟨fun h => (h s).mp rfl, fun h u => by rw [h]⟩
  cases comparison with
  | ge => exact hforth
  | le => exact hback
  | gt => rw [onScopeSets, onScopes, hforth, hsame, bne]
  | lt => rw [onScopeSets, onScopes, hback, hsame, bne]

namespace Value

/-! ### Forms of a scope -/

/-- Whether a value is a form of a scope. -/
inductive FormOf (s : Scope) : Value → Prop
  | text : FormOf s (.text s.text)
  | scope : FormOf s (.scope s)
  | cursor {c : Cursor} (h : c.segments = s.segments) : FormOf s (.cursor c)
  | scopeSet {a : ScopeSet} (h : a.members = [s]) : FormOf s (.scopeSet a)

/-- Whether a value knows how to compare itself. -/
def KnowsOrder : Value → Prop
  | scope _ | scopeSet _ => True
  | _ => False

/-- Every form but a set is taken for the scope. -/
theorem FormOf.asScope? (h : v.FormOf s) :
    v.asScope? = some (.ok s) ∨ ∃ a, v = .scopeSet a := by
  cases h with
  | text => exact Or.inl (congrArg some (Scope.ofText_text s))
  | scope => exact Or.inl rfl
  | @cursor c h =>
    have hscope : c.toScope = .ok s := by rw [Cursor.toScope, h, Scope.ofSegments_segments]
    exact Or.inl (congrArg some hscope)
  | @scopeSet a h => exact Or.inr ⟨a, rfl⟩

/-- Every form is taken for a set of the scope alone. -/
theorem FormOf.asScopeSet? (h : v.FormOf s) :
    ∃ a, v.asScopeSet? = some (.ok a) ∧ a.members = [s] := by
  -- All forms but a set are read as a scope first, and a set is built from it.
  have hone (read : Except ArgumentError Scope) (hread : read = .ok s) :
      ∃ a, some ((read.map fun s => [s]).map ScopeSet.ofList) = some (Except.ok a)
        ∧ a.members = [s] := by
    rw [hread]
    exact ⟨.ofList [s], rfl, rfl⟩
  cases h with
  | text => exact hone _ (Scope.ofText_text s)
  | scope => exact hone _ rfl
  | @cursor c h =>
    refine hone c.toScope ?_
    rw [Cursor.toScope, h, Scope.ofSegments_segments]
  | @scopeSet a h => exact ⟨a, rfl, h⟩

/-! ### Who answers -/

/-- A side that answers gives the answer of the relation on scopes. -/
theorem compareLeft?_of_forms (hv : v.FormOf s) (hw : w.FormOf t) (comparison : Comparison) :
    compareLeft? comparison v w = none
      ∨ compareLeft? comparison v w = some (.ok (comparison.onScopes s t)) := by
  cases hv with
  | text => exact Or.inl rfl
  | cursor h => exact Or.inl rfl
  | scope =>
    -- A scope takes every form but a set.
    rcases hw.asScope? with hscope | ⟨a, rfl⟩
    · rw [compareLeft?, hscope]
      exact Or.inr rfl
    · exact Or.inl rfl
  | @scopeSet a ha =>
    obtain ⟨b, hset, hb⟩ := hw.asScopeSet?
    rw [compareLeft?, hset, ← comparison.onScopeSets_of_singleton ha hb]
    exact Or.inr rfl

/-- A form that knows how to compare itself answers, or the other one does: only a scope that is
compared with a set leaves it to the set. -/
theorem answers_of_knowsOrder (hv : v.FormOf s) (hw : w.FormOf t) (h : v.KnowsOrder)
    (comparison : Comparison) :
    compareLeft? comparison v w ≠ none ∨ compareLeft? comparison.flip w v ≠ none := by
  cases hv with
  | text | cursor _ => exact absurd h id
  | scope =>
    rcases hw.asScope? with hscope | ⟨a, rfl⟩
    · rw [compareLeft?, hscope]
      exact Or.inl nofun
    · exact Or.inr nofun
  | scopeSet _ =>
    obtain ⟨b, hset, -⟩ := hw.asScopeSet?
    rw [compareLeft?, hset]
    exact Or.inl nofun

/-- If one of both sides knows how to compare, a side is found that answers. -/
theorem exists_answer (hv : v.FormOf s) (hw : w.FormOf t) (h : v.KnowsOrder ∨ w.KnowsOrder)
    (comparison : Comparison) :
    compareLeft? comparison v w ≠ none ∨ compareLeft? comparison.flip w v ≠ none := by
  rcases h with h | h
  · exact answers_of_knowsOrder hv hw h comparison
  · have hflip : comparison.flip.flip = comparison := by cases comparison <;> rfl
    have hanswers := answers_of_knowsOrder hw hv h comparison.flip
    rw [hflip] at hanswers
    exact hanswers.symm

/-- Two forms are compared like the scopes, whichever of them answers. -/
theorem compare_eq_onScopes (hv : v.FormOf s) (hw : w.FormOf t)
    (h : v.KnowsOrder ∨ w.KnowsOrder) (comparison : Comparison) :
    compare comparison v w = .ok (comparison.onScopes s t) := by
  rw [compare]
  rcases compareLeft?_of_forms hv hw comparison with hleft | hleft
  · -- The left side does not know, so the right side is asked.
    have hasked : compareLeft? comparison.flip w v ≠ none :=
      (exists_answer hv hw h comparison).resolve_left fun hne => hne hleft
    have hright := (compareLeft?_of_forms hw hv comparison.flip).resolve_left hasked
    rw [hleft, hright, comparison.onScopes_flip]
    rfl
  · rw [hleft]
    rfl

/-! ### What comparisons say -/

/-- Scopes are different if their segments are. -/
theorem scope_bne_eq (s t : Scope) : (s != t) = decide (s.segments ≠ t.segments) := by
  rw [Bool.eq_iff_iff, bne_iff_ne, decide_eq_true_iff]
  exact not_congr ⟨congrArg Scope.segments, Scope.ext⟩

/-- Equality of two words is that of the scopes that they write. -/
theorem equals_iff_of_words (hv : v.word? = some s.text) (hw : w.word? = some t.text)
    {identical : Bool} (hidentical : identical = true → v = w) :
    equals identical v w = true ↔ s = t := by
  have hsame : v.same w = true ↔ s = t := by
    rw [same_of_word? hv hw]
    exact ⟨Scope.eq_of_text_eq, congrArg Scope.text⟩
  rw [equals_of_keyed (keyed_of_word? hv) (keyed_of_word? hw), Bool.or_eq_true, hsame]
  constructor
  · rintro (heq | hid)
    · exact heq
    · -- One object writes one scope.
      rw [hidentical hid, hw, Option.some.injEq] at hv
      exact (Scope.eq_of_text_eq hv).symm
  · exact Or.inl

/-- Comparison does not depend on the form. Take two scopes in any of their forms, of which at least
one is a scope or a scope set.

1. `>=` and `<=` hold exactly if the one covers the other.
2. `>` and `<` hold exactly if the segments are different, too.
3. If both are texts or scopes, they are equal exactly if `>=` holds both ways. -/
theorem compare_forms (hv : v.FormOf s) (hw : w.FormOf t) (h : v.KnowsOrder ∨ w.KnowsOrder) :
    compare .ge v w = .ok (s.covers t)
      ∧ compare .le v w = .ok (t.covers s)
      ∧ compare .gt v w = .ok (s.covers t && decide (s.segments ≠ t.segments))
      ∧ compare .lt v w = .ok (t.covers s && decide (s.segments ≠ t.segments))
      ∧ (v.word? = some s.text → w.word? = some t.text →
          ∀ identical, (identical = true → v = w) →
            (equals identical v w = true
              ↔ compare .ge v w = .ok true ∧ compare .ge w v = .ok true)) := by
  rw [compare_eq_onScopes hv hw h, compare_eq_onScopes hv hw h, compare_eq_onScopes hv hw h,
    compare_eq_onScopes hv hw h, compare_eq_onScopes hw hv h.symm, ← scope_bne_eq]
  refine ⟨rfl, rfl, rfl, rfl, ?_⟩
  intro hvword hwword identical hidentical
  rw [equals_iff_of_words hvword hwword hidentical, Except.ok.injEq, Except.ok.injEq]
  constructor
  · rintro rfl
    exact ⟨s.covers_refl, s.covers_refl⟩
  · rintro ⟨hforth, hback⟩
    exact Scope.ext (Scope.segments_eq_of_covers hforth hback)

/-- A cursor at `api.*` exceeds the set of `api.read`, and this set is asked for the answer. A text
equals the scope that it writes. -/
theorem compare_forms_mixed :
    let any : Scope := ⟨["api", "*"], by decide, by decide⟩
    let read : Scope := ⟨["api", "read"], by decide, by decide⟩
    let above : Value := .cursor ⟨["api", "*"], [⟨["api", "read"], .leaf⟩], by simp⟩
    let below : Value := .scopeSet (.ofList [read])
    above.FormOf any ∧ below.FormOf read ∧ below.KnowsOrder
      ∧ compare .gt above below = .ok true ∧ compare .le above below = .ok false
      ∧ (text "api.read").FormOf read ∧ (scope read).FormOf read
      ∧ equals false (.text "api.read") (.scope read) = true := by
  intro any read above below
  have habove : above.FormOf any := .cursor rfl
  have hbelow : below.FormOf read := .scopeSet rfl
  have htext : (text "api.read").FormOf read := .text
  have hscope : (scope read).FormOf read := .scope
  obtain ⟨-, hle, hgt, -, -⟩ := compare_forms habove hbelow (Or.inr trivial)
  obtain ⟨hge, -, -, -, hequals⟩ := compare_forms htext hscope (Or.inr trivial)
  obtain ⟨hge', -⟩ := compare_forms hscope htext (Or.inl trivial)
  exact ⟨habove, hbelow, trivial, hgt, hle, htext, hscope,
    (hequals rfl rfl false nofun).mpr ⟨hge, hge'⟩⟩

end Value

end AccessScopes
