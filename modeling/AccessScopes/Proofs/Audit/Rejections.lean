import AccessScopes.Proofs.Grammar.Rejection
import AccessScopes.Response

/-!
# `AccessScopes.Proofs.Audit.Rejections`: one record for each rejection

A rejection can be recorded in two places: by the grammar that reads a scope, and by the handler
that answers the client. The mark on the rejection tells the handler whether the grammar has done
it. A cursor that is moved directly records nothing, so its rejections are left to the handler.

* `Rejection.Fresh`: a rejection as it comes from a grammar, not yet marked and with a reason in
  words. By `Cursor.fresh_of_run` and `Grammar.fresh_of_navigate`, all of them come like this.
* `Grammar.parseValue_cases`: the three ways in which a reading can end, with its events.
* `Audit.records_rejected`: what is written about one.
* `Grammar.rejection_recorded_once`: reading and handling together leave exactly one record.
-/

set_option autoImplicit false

namespace AccessScopes

/-! ### Rejections as they come -/

/-- Every reason of the library's own has fixed words in it. -/
theorem Reason.text_ne_empty {reason : Reason} (h : reason.Own) : reason.text ≠ "" := by
  have hfront : ∀ {s : String} (t : String), s ≠ "" → s ++ t ≠ "" := fun t hs heq =>
    hs (String.append_eq_empty_iff.mp heq).1
  have hback : ∀ (s : String) {t : String}, t ≠ "" → s ++ t ≠ "" := fun s _ ht heq =>
    ht (String.append_eq_empty_iff.mp heq).2
  cases reason with
  | unknownRoot => exact (by decide : "unknown root" ≠ "")
  | undeclared node => exact hfront (Text.quote node) (by decide : "not declared under " ≠ "")
  | noChildren node => exact hback (Text.quote node) (by decide : " has no children" ≠ "")
  | noConstraint node =>
    exact hfront (Text.quote node) (by decide : "no value constraint under " ≠ "")
  | mismatch value pattern =>
    exact hfront (Text.quote pattern)
      (hback (Text.quote value) (by decide : " does not match " ≠ ""))
  | noValue => exact (by decide : "no value given" ≠ "")
  | noNode => exact (by decide : "no grammar node matches" ≠ "")
  | stated text => exact absurd rfl (h text)

/-- Whether a rejection has not been recorded, and gives a reason in words. -/
structure Rejection.Fresh (r : Rejection) : Prop where
  unaudited : r.audited = false
  reason_ne : r.reason.text ≠ ""

/-- A move that is refused gives a rejection as it comes, not yet marked. -/
theorem Cursor.fresh_of_move {c : Cursor} {m : Move} {r : Rejection} (h : c.move m = .error r) :
    r.Fresh := by
  obtain ⟨reason, hown, rfl⟩ := exists_reason_of_move h
  exact ⟨rfl, Reason.text_ne_empty hown⟩

/-- A run ends with the rejection of one of its moves. The path of it begins with the segments that
the cursor had at the start. -/
theorem Cursor.fresh_of_run {c : Cursor} {ms : List Move} {r : Rejection}
    (h : c.run ms = .error r) : r.Fresh ∧ c.segments <+: r.path := by
  induction ms generalizing c with
  | nil => cases h
  | cons m ms ih =>
    rw [run] at h
    cases hmove : c.move m with
    | error e =>
      rw [hmove] at h
      obtain rfl : e = r := Except.error.inj h
      obtain ⟨-, hpath⟩ := rejection_of_move hmove
      rw [hpath]
      exact ⟨fresh_of_move hmove, List.prefix_rfl⟩
    | ok next =>
      -- The path begins with the segments behind the first move, which begin with those before it.
      rw [hmove] at h
      obtain ⟨hfresh, hpath⟩ := ih h
      refine ⟨hfresh, List.IsPrefix.trans ?_ hpath⟩
      rw [segments_of_move hmove]
      exact List.prefix_append _ _

namespace Grammar

variable {g : Grammar}

/-- A reading that is refused gives a rejection as it comes, before the grammar marks it. -/
theorem fresh_of_navigate {s : Scope} {r : Rejection} (h : g.navigate s.segments = .error r) :
    r.Fresh := by
  obtain ⟨first, rest, hsegments⟩ := List.exists_cons_of_ne_nil s.segments_ne
  rw [hsegments] at h
  rcases navigate_eq_error_iff.mp h with ⟨-, rfl⟩ | ⟨_, _, _, d, -, -, hread⟩
  · exact ⟨rfl, Reason.text_ne_empty nofun⟩
  · exact Cursor.fresh_of_move hread

/-- A reading can end in three ways: with an unusable argument, with a rejection, or with a scope.
Nothing is recorded about the first, and one event about each of the others. -/
theorem parseValue_cases (g : Grammar) (v : Value) :
    (∃ e, g.parseValue v = (.error (.argument e), []))
      ∨ (∃ r : Rejection, r.Fresh ∧ g.parseValue v
          = (.error (.rejection { r with audited := true }), [rejectedEvent g.root r none]))
      ∨ ∃ s : Scope, g.parseValue v = (.ok s, [.scopeParsed g.root s.text]) := by
  unfold parseValue
  split
  · next e _ => exact Or.inl ⟨e, rfl⟩
  · next s _ =>
    unfold parse
    split
    · next r hnavigate => exact Or.inr (Or.inl ⟨r, fresh_of_navigate hnavigate, rfl⟩)
    · split
      · next e _ => exact Or.inl ⟨e, rfl⟩
      · next result _ => exact Or.inr (Or.inr ⟨result, rfl⟩)

/-- A reading of something that is no scope records nothing. -/
theorem events_of_argument {v : Value} {e : ArgumentError}
    (h : (g.parseValue v).1 = .error (.argument e)) : (g.parseValue v).2 = [] := by
  rcases g.parseValue_cases v with ⟨_, hparse⟩ | ⟨_, -, hparse⟩ | ⟨_, hparse⟩
  · rw [hparse]
  · rw [hparse] at h
    cases h
  · rw [hparse] at h
    cases h

/-- A reading that is refused records the rejection once, and marks it. -/
theorem events_of_rejection {v : Value} {e : Rejection}
    (h : (g.parseValue v).1 = .error (.rejection e)) :
    ∃ r : Rejection, r.Fresh ∧ e = { r with audited := true }
      ∧ (g.parseValue v).2 = [rejectedEvent g.root r none] := by
  rcases g.parseValue_cases v with ⟨_, hparse⟩ | ⟨r, hfresh, hparse⟩ | ⟨_, hparse⟩
  · rw [hparse] at h
    cases h
  · rw [hparse] at h ⊢
    cases h
    exact ⟨r, hfresh, rfl, rfl⟩
  · rw [hparse] at h
    cases h

/-- A reading that succeeds records the scope it read. -/
theorem events_of_accepted {v : Value} {s : Scope} (h : (g.parseValue v).1 = .ok s) :
    (g.parseValue v).2 = [.scopeParsed g.root s.text] := by
  rcases g.parseValue_cases v with ⟨_, hparse⟩ | ⟨_, -, hparse⟩ | ⟨_, hparse⟩
  · rw [hparse] at h
    cases h
  · rw [hparse] at h
    cases h
  · rw [hparse] at h ⊢
    cases h
    rfl

end Grammar

/-- A rejection that comes fresh is left to the handler. -/
theorem Rejection.Fresh.events {r : Rejection} (hr : r.Fresh) (route : String) :
    r.events route = [Grammar.rejectedEvent (r.path.headD "<unknown>") r (some route)] := by
  rw [Rejection.events, hr.unaudited]
  rfl

/-! ### Records -/

namespace Audit

variable {config : Config}

/-- At these thresholds warnings are written. -/
theorem writes_warning (h : config.threshold ∈ [Level.debug, .info, .warning]) :
    config.writes .warning = true := by
  rw [Config.writes]
  revert h
  cases config.threshold <;> decide

/-- At these thresholds warnings are left out. -/
theorem not_writes_warning (h : config.threshold ∈ [Level.error, .critical]) :
    config.writes .warning = false := by
  rw [Config.writes]
  revert h
  cases config.threshold <;> decide

/-- A single event is written if its level is, and else not at all. -/
theorem records_singleton (config : Config) (event : Event) :
    config.records [event]
      = if config.writes (config.record event).level then [config.record event] else [] := by
  rw [Config.records, List.map_singleton, List.filter_cons, List.filter_nil]

/-- The record of a rejection: the name of the grammar, the key, the path and the reason, and the
route if there is one; all of them sanitised. -/
def rejectionRecord (config : Config) (tree : String) (r : Rejection) (route : Option String) :
    Record :=
  ⟨"scope.hierarchy_rejected", .warning, .malformed,
    [("tree", .text (sanitize config.maxLength tree)),
      ("key", .text (sanitize config.maxLength r.key)),
      ("path", .text (sanitize config.maxLength (Text.join separator r.path))),
      ("reason", .text (sanitize config.maxLength r.reason.text)),
      ("route", (route.map fun t => Field.text (sanitize config.maxLength t)).getD .absent)]⟩

/-- The record of an accepted scope. -/
def parsedRecord (config : Config) (tree : String) (s : Scope) : Record :=
  ⟨"scope.parsed", .debug, .benign,
    [("tree", .text (sanitize config.maxLength tree)),
      ("scope", .text (sanitize config.maxLength s.text))]⟩

/-- The record of a rejection names the grammar, the key, the segments before it, the reason and the
route, all sanitised. -/
theorem record_rejected {r : Rejection} (hr : r.Fresh) (tree : String) (route : Option String) :
    config.record (Grammar.rejectedEvent tree r route) = rejectionRecord config tree r route := by
  have hreason : r.reason.text.isEmpty = false := by
    simpa [String.isEmpty_iff] using hr.reason_ne
  cases route with
  | none => simp [Config.record, Grammar.rejectedEvent, rejectionRecord, hreason, Config.text,
      Config.optionalText]
  | some t => simp [Config.record, Grammar.rejectedEvent, rejectionRecord, hreason, Config.text,
      Config.optionalText]

/-- Where warnings are written, a rejection that comes fresh leaves one record. -/
theorem records_rejected (hwrites : config.writes .warning = true) {r : Rejection} (hr : r.Fresh)
    (tree : String) (route : Option String) :
    config.records [Grammar.rejectedEvent tree r route]
      = [rejectionRecord config tree r route] := by
  rw [records_singleton, record_rejected hr]
  exact if_pos hwrites

/-- Where warnings are not written, nothing is written about a rejection or an accepted scope. -/
theorem records_eq_nil (hsilent : config.writes .warning = false) {event : Event}
    (hlevel : (config.record event).level.rank ≤ Level.warning.rank) :
    config.records [event] = [] := by
  rw [records_singleton, if_neg]
  intro hwrites
  rw [Config.writes_of_rank_le hlevel hwrites] at hsilent
  cases hsilent

end Audit

/-! ### Exactly one record -/

open Audit

/-- A rejection is recorded once. For every grammar, every value and every configuration:

1. Where warnings are written, a reading that ends in a rejection leaves exactly one record, the one
   of this rejection. The rejection is marked, so a handler has nothing to add, on any route.
2. A reading that ends with an unusable argument leaves no record.
3. A reading that accepts leaves a record of what it accepted where the lowest level is written, and
   no record otherwise.
4. Where warnings are written, the handler leaves exactly one record of a rejection that comes from
   moving a cursor. If it was moved from the root, this record is under the name of the grammar.
5. Where warnings are not written, neither a reading nor a handler leaves any record. -/
theorem Grammar.rejection_recorded_once (g : Grammar) (v : Value) (config : Config) :
    (config.threshold ∈ [.debug, .info, .warning] → ∀ e,
        (g.parseValue v).1 = .error (.rejection e) →
          config.records (g.parseValue v).2 = [rejectionRecord config g.root e none]
            ∧ e.audited = true ∧ ∀ route, e.events route = [])
      ∧ (∀ e, (g.parseValue v).1 = .error (.argument e) →
          config.records (g.parseValue v).2 = [])
      ∧ (∀ s, (g.parseValue v).1 = .ok s → config.records (g.parseValue v).2
          = if config.threshold = .debug then [parsedRecord config g.root s] else [])
      ∧ (config.threshold ∈ [.debug, .info, .warning] → ∀ (c : Cursor) ms r route,
          c.run ms = .error r →
            config.records (r.events route)
                = [rejectionRecord config (r.path.headD "<unknown>") r (some route)]
              ∧ (c = .ofGrammar g → config.records (r.events route)
                = [rejectionRecord config g.root r (some route)]))
      ∧ (config.threshold ∈ [.error, .critical] →
          config.records (g.parseValue v).2 = []
            ∧ ∀ (r : Rejection) route, config.records (r.events route) = []) := by
  refine ⟨?_, ?_, ?_, ?_, ?_⟩
  · intro hthreshold e he
    obtain ⟨r, hfresh, rfl, hevents⟩ := events_of_rejection he
    rw [hevents, records_rejected (writes_warning hthreshold) hfresh]
    exact ⟨rfl, rfl, fun _ => rfl⟩
  · intro e he
    rw [events_of_argument he]
    rfl
  · intro s hs
    rw [events_of_accepted hs, records_singleton, Config.writes]
    cases config.threshold <;> rfl
  · intro hthreshold c ms r route hrun
    obtain ⟨hfresh, hpath⟩ := Cursor.fresh_of_run hrun
    have hrecords : config.records (r.events route)
        = [rejectionRecord config (r.path.headD "<unknown>") r (some route)] := by
      rw [hfresh.events, records_rejected (writes_warning hthreshold) hfresh]
    refine ⟨hrecords, ?_⟩
    rintro rfl
    -- The first segment of the path is the root, from which the run started.
    obtain ⟨rest, hrest⟩ := hpath
    rw [hrecords, ← hrest]
    rfl
  · intro hthreshold
    have hsilent : config.writes .warning = false := not_writes_warning hthreshold
    constructor
    · rcases g.parseValue_cases v with ⟨_, hparse⟩ | ⟨r, -, hparse⟩ | ⟨s, hparse⟩
      · rw [hparse]
        rfl
      · rw [hparse]
        exact records_eq_nil hsilent (Nat.le_refl _)
      · rw [hparse]
        exact records_eq_nil hsilent (show 10 ≤ 30 by omega)
    · intro r route
      rw [Rejection.events]
      split
      · rfl
      · exact records_eq_nil hsilent (Nat.le_refl _)

/-- `api.(alice).write` is rejected at `write`, and recorded by the grammar alone. The same
rejection from a cursor is recorded by the handler, with its route. -/
theorem Grammar.rejection_recorded_once_overlapping :
    let config : Config := ⟨.warning, 100⟩
    let r : Rejection := ⟨"write", ["api", "alice"], .undeclared "*", false⟩
    let read : Rejection := { r with audited := true }
    (overlapping.parseValue (.text "api.(alice).write")).1 = .error (.rejection read)
      ∧ config.records (overlapping.parseValue (.text "api.(alice).write")).2
        = [rejectionRecord config "api" read none]
      ∧ read.events "/orders" = []
      ∧ (Cursor.ofGrammar overlapping).run [.value ["alice"], .step "write"] = .error r
      ∧ config.records (r.events "/orders") = [rejectionRecord config "api" r (some "/orders")] := by
  intro config r read
  have hparse : (overlapping.parseValue (.text "api.(alice).write")).1
      = .error (.rejection read) := by
    decide +kernel
  have hrun : (Cursor.ofGrammar overlapping).run [.value ["alice"], .step "write"]
      = .error r := by
    -- The rejection is compared without the cursor that there might be instead.
    have hrejection : ((Cursor.ofGrammar overlapping).run
        [.value ["alice"], .step "write"]).map (fun _ => ()) = .error r := by
      decide +kernel
    exact map_eq_error_iff.mp hrejection
  obtain ⟨hread, -, -, hmoved, -⟩ :=
    rejection_recorded_once overlapping (.text "api.(alice).write") config
  have hthreshold : config.threshold ∈ [Level.debug, .info, .warning] := by decide
  obtain ⟨hrecords, -, hevents⟩ := hread hthreshold read hparse
  obtain ⟨-, hroot⟩ := hmoved hthreshold _ _ r "/orders" hrun
  rw [overlapping_root] at hrecords hroot
  exact ⟨hparse, hrecords, hevents "/orders", hrun, hroot rfl⟩

end AccessScopes
