import AccessScopes.Proofs.Audit.Rejections
import AccessScopes.Proofs.Audit.Sanitize
import AccessScopes.Proofs.Guard.Decision
import AccessScopes.Proofs.Scope.Text

/-!
# `AccessScopes.Proofs.Audit.Cleanliness`: which records are safe to show

A text is clean if all of it can be shown and it is not much longer than the limit. Text fields are
sanitised, so they are clean. Lists of scopes are recorded as they are, and a scope may be written
with any characters and at any length.

* `record_clean_iff`: a record is clean exactly if the texts that its event lists are clean.
* `CleanText.of_covers`: what covers a scope is not longer than it, and has no other characters but
  dots and wildcards. So what a caller was granted makes a record no worse than what was required.
* `records_clean_iff`: the records of readings are clean, and the record of a guard is clean exactly
  if its required scopes are.
* `record_not_clean`: a required scope with a line break in it.
-/

set_option autoImplicit false

namespace AccessScopes

namespace Audit

/-- Whether all of a text can be shown, and it is not longer than a limit and the mark behind it,
which has 14 characters. -/
structure CleanText (limit : Int) (text : String) : Prop where
  printable : ∀ c ∈ text.toList, Text.isPrintable c = true
  length_le : (text.length : Int) ≤ limit + 14

/-- The texts in a field. -/
def Field.strings : Field → List String
  | .absent => []
  | .text value => [value]
  | .texts values => values
  | .count _ => []

/-- Whether all texts in a field are clean. -/
def Field.Clean (limit : Int) (field : Field) : Prop :=
  ∀ text ∈ field.strings, CleanText limit text

/-- Whether all fields of a record are clean. -/
def Record.Clean (limit : Int) (r : Record) : Prop :=
  ∀ field ∈ r.fields, field.2.Clean limit

/-- The texts that an event lists. -/
def Event.listed : Event → List String
  | .scopeParsed _ _ => []
  | .hierarchyRejected _ _ _ _ _ => []
  | .authorizationGranted required matched _ => required ++ matched
  | .authorizationDenied required _ missing _ => required ++ missing

variable {config : Config} {limit : Int}

/-- What covers a scope with a clean text has a clean text. It is not longer and has no new
characters. -/
theorem CleanText.of_covers {a b : Scope} (hcovers : a.covers b = true)
    (h : CleanText limit b.text) : CleanText limit a.text where
  printable := by
    intro c hc
    rcases Scope.mem_text_of_covers hcovers hc with rfl | rfl | hc
    · decide
    · decide
    · exact h.printable c hc
  length_le := by
    have hlength : a.text.length ≤ b.text.length := Scope.length_text_le_of_covers hcovers
    have hlimit := h.length_le
    omega

/-- A sanitised text is clean. -/
theorem cleanText_sanitize (h : 0 ≤ limit) (text : String) :
    CleanText limit (sanitize limit text) :=
  ⟨fun _ hc => isPrintable_of_mem_sanitize hc, length_sanitize_le h text⟩

/-! ### The record of one event -/

/-- A text field is clean, as it is sanitised. -/
theorem clean_text (h : 0 ≤ config.maxLength) (value : String) :
    (config.text value).Clean config.maxLength := by
  intro t ht
  obtain rfl : t = sanitize config.maxLength value := List.mem_singleton.mp ht
  exact cleanText_sanitize h value

/-- A field whose text may be missing is clean, as it is sanitised. -/
theorem clean_optionalText (h : 0 ≤ config.maxLength) (value : Option String) :
    (config.optionalText value).Clean config.maxLength := by
  cases value with
  | none => exact nofun
  | some value => exact clean_text h value

/-- A field of a record is clean, or it is one of the lists of the event. -/
theorem clean_or_listed (h : 0 ≤ config.maxLength) (event : Event) :
    ∀ field ∈ (config.record event).fields, field.2.Clean config.maxLength
      ∨ ∃ ts, field.2 = .texts ts ∧ ∀ t ∈ ts, t ∈ event.listed := by
  have hcount : ∀ n, (Field.count n).Clean config.maxLength := fun _ _ ht => nomatch ht
  cases event with
  | scopeParsed tree scope =>
    simp [Config.record, clean_text h]
  | hierarchyRejected tree key path reason route =>
    simp [Config.record, clean_text h, clean_optionalText h]
  | authorizationGranted required matched mode =>
    simp +contextual [Config.record, Event.listed, clean_text h]
  | authorizationDenied required count missing mode =>
    simp +contextual [Config.record, Event.listed, clean_text h, hcount]

/-- Every text that an event lists stands in a field of its record, as it is. -/
theorem exists_field_of_mem_listed {event : Event} {t : String} (ht : t ∈ event.listed) :
    ∃ field ∈ (config.record event).fields, t ∈ field.2.strings := by
  cases event with
  | scopeParsed tree scope => exact absurd ht List.not_mem_nil
  | hierarchyRejected tree key path reason route => exact absurd ht List.not_mem_nil
  | authorizationGranted required matched mode =>
    rcases List.mem_append.mp ht with ht | ht
    · exact ⟨("required_scopes", .texts required), by simp [Config.record], ht⟩
    · exact ⟨("matched_scopes", .texts matched), by simp [Config.record], ht⟩
  | authorizationDenied required count missing mode =>
    rcases List.mem_append.mp ht with ht | ht
    · exact ⟨("required_scopes", .texts required), by simp [Config.record], ht⟩
    · exact ⟨("missing_scopes", .texts missing), by simp [Config.record], ht⟩

/-- Of a record, only what its event lists can fail to be clean. -/
theorem record_clean_iff (h : 0 ≤ config.maxLength) (event : Event) :
    (config.record event).Clean config.maxLength
      ↔ ∀ t ∈ event.listed, CleanText config.maxLength t := by
  constructor
  · intro hclean t ht
    obtain ⟨field, hfield, ht⟩ := exists_field_of_mem_listed ht
    exact hclean field hfield t ht
  · intro hlisted field hfield
    rcases clean_or_listed h event field hfield with hclean | ⟨ts, hts, hmem⟩
    · exact hclean
    · rw [hts]
      exact fun t ht => hlisted t (hmem t ht)

/-- Every text field of a record is clean, whatever the event. -/
theorem cleanText_of_mem_fields (h : 0 ≤ config.maxLength) {event : Event} {name s : String}
    (hfield : (name, Field.text s) ∈ (config.record event).fields) :
    CleanText config.maxLength s := by
  rcases clean_or_listed h event _ hfield with hclean | ⟨ts, hts, -⟩
  · exact hclean s List.mem_cons_self
  · cases hts

/-- Every record is written for one of the events. -/
theorem exists_event_of_mem_records {events : List Event} {r : Record}
    (hr : r ∈ config.records events) : ∃ event ∈ events, r = config.record event := by
  obtain ⟨event, hevent, rfl⟩ := List.mem_map.mp (List.mem_filter.mp hr).1
  exact ⟨event, hevent, rfl⟩

/-- Events that list nothing leave clean records. -/
theorem clean_of_mem_records (h : 0 ≤ config.maxLength) {events : List Event}
    (hlisted : ∀ event ∈ events, event.listed = []) {r : Record} (hr : r ∈ config.records events) :
    r.Clean config.maxLength := by
  obtain ⟨event, hevent, rfl⟩ := exists_event_of_mem_records hr
  rw [record_clean_iff h, hlisted event hevent]
  exact nofun

end Audit

/-! ### Readings and guards -/

open Audit

/-- Readings list no texts. All that they record is sanitised. -/
theorem Grammar.listed_of_parseValue {g : Grammar} {v : Value} {event : Event}
    (hevent : event ∈ (g.parseValue v).2) : event.listed = [] := by
  rcases g.parseValue_cases v with ⟨_, hparse⟩ | ⟨r, -, hparse⟩ | ⟨s, hparse⟩
  · rw [hparse] at hevent
    cases hevent
  · rw [hparse] at hevent
    rw [List.mem_singleton.mp hevent]
    rfl
  · rw [hparse] at hevent
    rw [List.mem_singleton.mp hevent]
    rfl

/-- The handling of a rejection lists no texts. -/
theorem Rejection.listed_of_events {r : Rejection} {route : String} {event : Event}
    (hevent : event ∈ r.events route) : event.listed = [] := by
  rw [Rejection.events] at hevent
  split at hevent
  · cases hevent
  · rw [List.mem_singleton.mp hevent]
    rfl

namespace Guard

variable {guard : Guard} {grants : ScopeSet}

/-- A guard lists required scopes and scopes that cover required ones. -/
theorem exists_covers_of_mem_listed {t : String} (ht : t ∈ (guard.judge grants).2.listed) :
    ∃ r ∈ guard.required.members, ∃ s : Scope, s.covers r = true ∧ t = s.text := by
  -- Required scopes cover themselves, and the missing ones are among them.
  have hrequired : ∀ scopes : List Scope, (∀ r ∈ scopes, r ∈ guard.required.members) →
      t ∈ scopes.map Scope.text →
        ∃ r ∈ guard.required.members, ∃ s : Scope, s.covers r = true ∧ t = s.text := by
    intro scopes hscopes ht
    obtain ⟨r, hr, rfl⟩ := List.mem_map.mp ht
    exact ⟨r, hscopes r hr, r, Scope.covers_refl r, rfl⟩
  rw [judge] at ht
  split at ht
  · rcases List.mem_append.mp ht with ht | ht
    · exact hrequired guard.required.members (fun _ hr => hr) ht
    · obtain ⟨s, hs, rfl⟩ := List.mem_map.mp (mem_distinct.mp ht)
      obtain ⟨r, hr, hresolve⟩ := mem_hits_iff.mp hs
      exact ⟨r, hr, s, ScopeSet.covers_of_resolve hresolve, rfl⟩
  · rcases List.mem_append.mp ht with ht | ht
    · exact hrequired guard.required.members (fun _ hr => hr) ht
    · exact hrequired (guard.missing grants) (fun _ hr => (List.mem_filter.mp hr).1) ht

/-- A guard lists every required scope, whether it allows or denies. -/
theorem text_mem_listed {r : Scope} (hr : r ∈ guard.required.members) :
    r.text ∈ (guard.judge grants).2.listed := by
  have htext : r.text ∈ guard.required.texts := List.mem_map_of_mem hr
  rw [judge]
  split
  · exact List.mem_append_left _ htext
  · exact List.mem_append_left _ htext

/-- What a guard records is its judgement of some grants. -/
theorem exists_grants_of_mem_events {aliases : Option AliasTable} {granted : Value} {event : Event}
    (hevent : event ∈ (guard.run aliases granted).2) :
    ∃ grants, event = (guard.judge grants).2 := by
  rw [Guard.run] at hevent
  split at hevent
  · cases hevent
  · next grants _ => exact ⟨grants, List.mem_singleton.mp hevent⟩

/-- The required scopes alone decide whether the record of a guard is clean. -/
theorem record_judge_clean_iff {config : Config} (h : 0 ≤ config.maxLength) :
    (config.record (guard.judge grants).2).Clean config.maxLength
      ↔ ∀ r ∈ guard.required.members, CleanText config.maxLength r.text := by
  rw [record_clean_iff h]
  constructor
  · exact fun hlisted r hr => hlisted r.text (text_mem_listed hr)
  · intro hrequired t ht
    obtain ⟨r, hr, s, hcovers, rfl⟩ := exists_covers_of_mem_listed ht
    exact (hrequired r hr).of_covers hcovers

end Guard

/-- Which records are clean, for every configuration with a limit that is not negative:

1. Every record of a reading, and every record of a rejection that a handler leaves.
2. The record of a guard exactly if its required scopes are written in clean texts, whatever the
   caller was granted. Apart from the lists of scopes, all of its text fields are clean. -/
theorem Audit.records_clean_iff {config : Config} (h : 0 ≤ config.maxLength) :
    (∀ (g : Grammar) v, ∀ record ∈ config.records (g.parseValue v).2,
        record.Clean config.maxLength)
      ∧ (∀ (r : Rejection) route, ∀ record ∈ config.records (r.events route),
        record.Clean config.maxLength)
      ∧ ∀ (guard : Guard) aliases granted, ∀ record ∈ config.records (guard.run aliases granted).2,
        (record.Clean config.maxLength
            ↔ ∀ r ∈ guard.required.members, CleanText config.maxLength r.text)
          ∧ ∀ name s, (name, Field.text s) ∈ record.fields → CleanText config.maxLength s := by
  refine ⟨?_, ?_, ?_⟩
  · intro g v record hrecord
    exact clean_of_mem_records h (fun _ hevent => Grammar.listed_of_parseValue hevent) hrecord
  · intro r route record hrecord
    exact clean_of_mem_records h (fun _ hevent => Rejection.listed_of_events hevent) hrecord
  · intro guard aliases granted record hrecord
    obtain ⟨event, hevent, rfl⟩ := exists_event_of_mem_records hrecord
    obtain ⟨grants, rfl⟩ := Guard.exists_grants_of_mem_events hevent
    exact ⟨Guard.record_judge_clean_iff h, fun _ _ hfield => cleanText_of_mem_fields h hfield⟩

/-- Even with the limit 0 the record of a guard that requires `api.read` is clean: the mode is
replaced by the mark, and the scopes are not longer than the mark. -/
theorem Audit.records_clean_iff_read :
    let config : Config := ⟨.info, 0⟩
    let read : Scope := ⟨["api", "read"], by decide, by decide⟩
    let guard : Guard := ⟨.ofList [read], .all⟩
    let record : Record := ⟨"authz.success", .info, .benign,
      [("required_scopes", .texts ["api.read"]), ("matched_scopes", .texts ["*.read"]),
        ("mode", .text "...<truncated>")]⟩
    0 ≤ config.maxLength ∧ config.records (guard.run none (.text "*.read")).2 = [record]
      ∧ record.Clean config.maxLength := by
  intro config read guard record
  have hlimit : 0 ≤ config.maxLength := Int.le_refl 0
  have hrecords : config.records (guard.run none (.text "*.read")).2 = [record] := by
    decide +kernel
  obtain ⟨-, -, hguard⟩ := records_clean_iff hlimit
  have hmem : record ∈ config.records (guard.run none (.text "*.read")).2 := by
    rw [hrecords]
    exact List.mem_singleton_self record
  obtain ⟨hclean, -⟩ := hguard guard none (.text "*.read") record hmem
  refine ⟨hlimit, hrecords, hclean.mpr ?_⟩
  intro r hr
  obtain rfl : r = read := List.mem_singleton.mp hr
  have hall : read.text.toList.all Text.isPrintable = true := by decide +kernel
  exact ⟨List.all_eq_true.mp hall, by decide⟩

/-- A line break in a required scope is recorded as it is. -/
theorem Audit.record_not_clean :
    let config : Config := ⟨.info, 100⟩
    let broken : Scope := ⟨["api\nread"], by decide, by decide⟩
    let guard : Guard := ⟨.ofList [broken], .all⟩
    ∃ record ∈ config.records (guard.run none (.scope broken)).2,
      ¬ record.Clean config.maxLength := by
  intro config broken guard
  let record : Record := ⟨"authz.success", .info, .benign,
    [("required_scopes", .texts ["api\nread"]), ("matched_scopes", .texts ["api\nread"]),
      ("mode", .text "all")]⟩
  have hrecords : config.records (guard.run none (.scope broken)).2 = [record] := by
    decide +kernel
  refine ⟨record, by rw [hrecords]; exact List.mem_singleton_self record, fun hclean => ?_⟩
  have htext : CleanText config.maxLength "api\nread" :=
    hclean _ List.mem_cons_self _ List.mem_cons_self
  exact absurd (htext.printable '\n' (by decide)) (by decide)

end AccessScopes
