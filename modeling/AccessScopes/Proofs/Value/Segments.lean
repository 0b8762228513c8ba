import AccessScopes.Proofs.Scope.Text
import AccessScopes.Value.Coercion

/-!
# `AccessScopes.Proofs.Value.Segments`: scopes from segments and from text

A scope is made from the items of a value, each written as text, or from one text that is cut at
its dots. Both ways lead to every scope, and the text of a scope stands for its segments: tables
and sets may use the one in the place of the other.

* `Scope.ofSegments_eq_ok_iff`: which lists of texts are the segments of a scope.
* `Value.segmentsToScope_eq_ok_iff`: the same for the items of a value.
* `Value.text_and_segments` puts this together with what is known about texts.
-/

set_option autoImplicit false

namespace AccessScopes

namespace Scope

/-- Segments make the scope that has them, and no other. -/
theorem ofSegments_eq_ok_iff {segments : List String} {a : Scope} :
    ofSegments segments = .ok a ↔ a.segments = segments := by
  constructor
  · exact segments_of_ofSegments
  · rintro rfl
    exact ofSegments_segments a

/-- Some scope has the given segments exactly if there is one and each of them may be a segment. -/
theorem exists_segments_iff {segments : List String} :
    (∃ a : Scope, a.segments = segments) ↔ segments ≠ [] ∧ ∀ s ∈ segments, IsSegment s := by
  constructor
  · rintro ⟨a, rfl⟩
    exact ⟨a.segments_ne, a.isSegment⟩
  · rintro ⟨hne, hsegment⟩
    exact ⟨⟨segments, hne, hsegment⟩, rfl⟩

end Scope

namespace Value

variable {v : Value} {items : List Value} {a : Scope}

/-- A text is not taken apart into characters. It is read as a whole. -/
theorem segmentsToScope_text (s : String) :
    (text s).segmentsToScope = liftArgument (Scope.ofText s) := rfl

/-- A value that is no text gives its items as segments. -/
theorem segmentsToScope_eq_ok_iff (htext : ∀ s, v ≠ text s) (hitems : v.items? = some items) :
    v.segmentsToScope = .ok a ↔ a.segments = items.map plain := by
  have hsegments : v.segmentsToScope = liftArgument (Scope.ofSegments (items.map plain)) := by
    unfold segmentsToScope
    split
    · next s => exact absurd rfl (htext s)
    · rw [Value.items, hitems]
      rfl
  rw [hsegments, liftArgument_eq_ok_iff, Scope.ofSegments_eq_ok_iff]

/-- Scopes, their texts and their segments stand for each other. A value that is no text and can be
gone through makes the scope whose segments are its items, and it makes one exactly if there is an
item, and no item is written as nothing or with a dot. A text makes a scope exactly if it is not
empty, has no dot at either end and no two dots in a row. Every scope is made from its text and from
the list of its segments; the text of what a text makes is this text; and two scopes have the same
text exactly if they have the same segments. -/
theorem text_and_segments :
    (∀ v items, (∀ s, v ≠ text s) → v.items? = some items →
        (∀ a, v.segmentsToScope = .ok a ↔ a.segments = items.map plain)
          ∧ ((∃ a, v.segmentsToScope = .ok a)
            ↔ items ≠ [] ∧ ∀ item ∈ items, item.plain ≠ "" ∧ separator ∉ item.plain.toList))
      ∧ (∀ s, (∃ a, (text s).segmentsToScope = .ok a)
          ↔ s ≠ "" ∧ ¬ [separator] <+: s.toList ∧ ¬ [separator] <:+ s.toList
            ∧ ¬ [separator, separator] <:+: s.toList)
      ∧ (∀ a : Scope, (text a.text).segmentsToScope = .ok a
          ∧ (list (a.segments.map text)).segmentsToScope = .ok a)
      ∧ (∀ s (a : Scope), (text s).segmentsToScope = .ok a → a.text = s)
      ∧ ∀ a b : Scope, a.text = b.text ↔ a.segments = b.segments := by
  refine ⟨?_, ?_, ?_, ?_, ?_⟩
  · intro v items htext hitems
    have hscope : ∀ a, v.segmentsToScope = .ok a ↔ a.segments = items.map plain :=
      fun a => segmentsToScope_eq_ok_iff htext hitems
    refine ⟨hscope, ?_⟩
    simp only [hscope]
    rw [Scope.exists_segments_iff, ne_eq, List.map_eq_nil_iff, List.forall_mem_map]
    exact Iff.rfl
  · intro s
    simp only [segmentsToScope_text, liftArgument_eq_ok_iff]
    rw [Scope.exists_ofText_iff, Scope.writtenBy_iff]
  · intro a
    constructor
    · rw [segmentsToScope_text, Scope.ofText_text]
      rfl
    · have hplain : (a.segments.map text).map plain = a.segments := by
        rw [List.map_map]
        exact List.map_id' a.segments
      exact (segmentsToScope_eq_ok_iff (by simp) rfl).mpr hplain.symm
  · intro s a h
    rw [segmentsToScope_text, liftArgument_eq_ok_iff] at h
    exact Scope.ofText_eq_ok_iff.mp h
  · intro a b
    constructor
    · intro h
      rw [Scope.eq_of_text_eq h]
    · intro h
      rw [Scope.ext h]

/-- A tuple of a text and a number makes the scope `accounts.1`; with a dot in the text, or with an
empty text behind it, the tuple makes none. -/
theorem text_and_segments_numbered :
    (∃ a, (tuple [text "accounts", int 1]).segmentsToScope = .ok a ∧ a.text = "accounts.1")
      ∧ (∀ a, (tuple [text "accounts.own", int 1]).segmentsToScope ≠ .ok a)
      ∧ ∀ a, (tuple [text "accounts", text ""]).segmentsToScope ≠ .ok a := by
  have hmake : ∀ items : List Value, (∃ a, (tuple items).segmentsToScope = .ok a)
      ↔ items ≠ [] ∧ ∀ item ∈ items, item.plain ≠ "" ∧ separator ∉ item.plain.toList :=
    fun items => (text_and_segments.1 (tuple items) items (by simp) rfl).2
  have hshown : plain (int 1) = "1" := by
    decide +kernel
  refine ⟨?_, fun a h => ?_, fun a h => ?_⟩
  · obtain ⟨a, ha⟩ := (hmake [text "accounts", int 1]).mpr (by decide +kernel)
    refine ⟨a, ha, ?_⟩
    have hsegments : a.segments = ["accounts", "1"] := by
      rw [(text_and_segments.1 (tuple [text "accounts", int 1]) _ (by simp) rfl).1 a] at ha
      rw [ha, List.map_cons, List.map_cons, hshown]
      rfl
    rw [Scope.text, hsegments]
    decide +kernel
  · have hitem := ((hmake _).mp ⟨a, h⟩).2 (text "accounts.own") List.mem_cons_self
    exact hitem.2 (by decide +kernel)
  · have hitem := ((hmake _).mp ⟨a, h⟩).2 (text "") (by simp)
    exact hitem.1 rfl

end Value

end AccessScopes
