import AccessScopes.Proofs.Grammar.RoundTrip

/-!
# `AccessScopes.Proofs.Grammar.Reparsing`: reading a scope that was read before

A grammar reads `(a)` as the single value `a` and writes it without the parentheses. Where `a` is
a name in reach too, the written segment means that name. So the result of a reading can stand for
another place than the one that was read, and may even be rejected when it is read again.

* `Cursor.map_written_readMoves`: only `(a)` is written in another way than it was read, so what
  was written is written again as it is.
* `Cursor.Unshadowed` excludes the critical segments, and `Cursor.unshadowed_cons_iff` does so one
  by one. Without them the second reading ends with the same cursor
  (`Cursor.navigateFrom_written_of_unshadowed`).
* `Cursor.navigateFrom_written_of_shadowed` follows the second reading from the first critical
  segment on: it takes the name and goes on below it.
* `Grammar.parseValue_parsed` puts both together: the second reading never gives another result,
  and it accepts exactly if what follows the first critical segment is allowed behind the name
  too. Without critical segments there is nothing to ask (`Cursor.Unshadowed.rereadable`).
  `Grammar.parseValue_parsed_rejected` is a scope for which the answer is no.
-/

set_option autoImplicit false

namespace AccessScopes

namespace Cursor

variable {c d next last : Cursor}

/-! ### What a reading writes -/

/-- Written segments are written again as they are. -/
theorem map_written_readMoves {segments : List String} (hwritten : ∀ s ∈ segments, IsWritten s)
    (h : Grammar.navigateFrom c segments = .ok last) :
    (c.readMoves segments).map Move.written = segments := by
  induction segments generalizing c with
  | nil => rfl
  | cons segment rest ih =>
    obtain ⟨next, hread, hrest⟩ := Grammar.navigateFrom_cons.mp h
    obtain ⟨hsegment, hothers⟩ := List.forall_mem_cons.mp hwritten
    rw [readMoves_cons hread, List.map_cons, ih hothers hrest]
    rcases written_moveFor c segment with hsame | ⟨v, henclose, hvalue, -⟩
    · rw [hsame]
    · -- A single value in parentheses is read, but never written.
      have hmove : c.move (.value [v]) = .ok next := by
        rw [← hvalue]
        exact hread
      have hv : isToken v = true := isToken_of_value hmove v (List.mem_singleton.mpr rfl)
      exact absurd henclose (hsegment.ne_enclose_singleton hv)

/-! ### The critical segments -/

/-- Whether no segment is a single value in parentheses that is a name in reach where it is
read. -/
def Unshadowed (c : Cursor) (segments : List String) : Prop :=
  ∀ front v back d, segments = front ++ enclose [v] :: back →
    Grammar.navigateFrom c front = .ok d → d.hasStep v = false

/-- Where nothing is read, no segment is critical. -/
theorem unshadowed_nil : c.Unshadowed [] := by
  intro front v back d hsegments
  cases front <;> cases hsegments

/-- No segment is critical exactly if the first one is not, and none of the rest where it leads. -/
theorem unshadowed_cons_iff {segment : String} {rest : List String} :
    c.Unshadowed (segment :: rest)
      ↔ (∀ v, segment = enclose [v] → c.hasStep v = false)
        ∧ ∀ next, c.read segment = .ok next → next.Unshadowed rest := by
  constructor
  · intro h
    constructor
    · intro v hsegment
      exact h [] v rest c (by rw [hsegment, List.nil_append]) rfl
    · intro next hread front v back d hrest hnavigate
      exact h (segment :: front) v back d (by rw [hrest, List.cons_append])
        (Grammar.navigateFrom_cons.mpr ⟨next, hread, hnavigate⟩)
  · rintro ⟨hfirst, hrest⟩ front v back d hsegments hnavigate
    cases front with
    | nil =>
      obtain rfl : c = d := Except.ok.inj hnavigate
      exact hfirst v (List.cons.inj hsegments).1
    | cons first front =>
      obtain ⟨rfl, hback⟩ := List.cons.inj hsegments
      obtain ⟨next, hread, hfront⟩ := Grammar.navigateFrom_cons.mp hnavigate
      exact hrest next hread front v back d hback hfront

/-- A segment that is read as a single value is no name in reach, unless it has parentheses. -/
theorem hasStep_of_moveFor_value {segment v : String} (h : c.moveFor segment = .value [v])
    (henclose : segment = enclose [v] → c.hasStep v = false) : c.hasStep v = false := by
  rcases written_moveFor c segment with hwritten | ⟨u, hsegment, hvalue, -⟩
  · rw [h] at hwritten
    obtain rfl : v = segment := hwritten
    rw [Bool.eq_false_iff]
    intro hstep
    rw [moveFor_of_hasStep hstep] at h
    cases h
  · rw [h] at hvalue
    cases hvalue
    exact henclose hsegment

/-- Without critical segments no move of the reading is a value that is written like a name in
reach. -/
theorem Unshadowed.avoidsNames {segments : List String} (h : c.Unshadowed segments) :
    c.AvoidsNames (c.readMoves segments) := by
  -- The induction is on the segments; a value behind the first move is found in the rest.
  induction segments generalizing c with
  | nil =>
    intro before v after d hms
    simp [readMoves] at hms
  | cons segment rest ih =>
    intro before v after d hms hrun
    cases before with
    | nil =>
      obtain rfl : c = d := Except.ok.inj hrun
      rw [readMoves, List.nil_append, List.cons.injEq] at hms
      exact hasStep_of_moveFor_value hms.1 ((unshadowed_cons_iff.mp h).1 v)
    | cons m before =>
      obtain ⟨next, hmove, hbefore⟩ := run_cons.mp hrun
      rw [readMoves, List.cons_append, List.cons.injEq] at hms
      have hread : c.read segment = .ok next := by
        rw [read, hms.1]
        exact hmove
      rw [hread] at hms
      exact ih ((unshadowed_cons_iff.mp h).2 next hread) before v after d hms.2 hbefore

/-- Without critical segments, reading what was written ends with the same cursor. -/
theorem navigateFrom_written_of_unshadowed {segments : List String} (hc : c.WellFormed)
    (h : Grammar.navigateFrom c segments = .ok last) (hshadow : c.Unshadowed segments) :
    Grammar.navigateFrom c ((c.readMoves segments).map Move.written) = .ok last :=
  Grammar.navigateFrom_of_run hc (run_readMoves h) hshadow.avoidsNames

/-- If there are critical segments, there is a first one. -/
theorem exists_first_shadowed {segments : List String} (h : ¬ c.Unshadowed segments) :
    ∃ front v back d, segments = front ++ enclose [v] :: back ∧ c.Unshadowed front
      ∧ Grammar.navigateFrom c front = .ok d ∧ d.hasStep v = true := by
  simp only [Unshadowed, Classical.not_forall, Bool.not_eq_false, exists_prop] at h
  obtain ⟨front, v, back, d, hsegments, hnavigate, hstep⟩ := h
  induction hlength : front.length using Nat.strongRecOn generalizing front v back d with
  | ind n ih =>
    by_cases hfront : c.Unshadowed front
    · exact ⟨front, v, back, d, hsegments, hfront, hnavigate, hstep⟩
    · -- An earlier critical segment ends a shorter front.
      simp only [Unshadowed, Classical.not_forall, Bool.not_eq_false, exists_prop] at hfront
      obtain ⟨front', v', back', d', hsplit, hnavigate', hstep'⟩ := hfront
      have hshorter : front'.length < n := by
        rw [← hlength, hsplit, List.length_append, List.length_cons]
        omega
      refine ih front'.length hshorter front' v' (back' ++ enclose [v] :: back) d' ?_ hnavigate'
        hstep' rfl
      rw [hsegments, hsplit, List.append_assoc, List.cons_append]

/-- A single token in parentheses is read as a value wherever it is read at all. -/
theorem moveFor_enclose_singleton {v : String} (hc : c.WellFormed) (hv : isToken v = true)
    (h : c.read (enclose [v]) = .ok next) : c.moveFor (enclose [v]) = .value [v] := by
  by_cases haccepts : c.acceptsValues = true
  · exact moveFor_enclose hc haccepts (List.cons_ne_nil v []) (by simpa using hv)
  · -- Without a slot the parentheses would have to be a name.
    have hstep : c.moveFor (enclose [v]) = .step (enclose [v]) := by simp [moveFor, haccepts]
    rw [read, hstep] at h
    have hreach : c.hasStep (enclose [v]) = true := hasStep_of_step (enclose_ne_wildcard [v]) h
    rw [hasStep_enclose hc [v]] at hreach
    cases hreach

/-- What a reading writes from a single value in parentheses on. -/
theorem map_written_readMoves_enclose {front back : List String} {v : String} (hc : c.WellFormed)
    (hv : isToken v = true) (hfront : Grammar.navigateFrom c front = .ok d)
    (hread : d.read (enclose [v]) = .ok next) :
    (c.readMoves (front ++ enclose [v] :: back)).map Move.written
      = (c.readMoves front).map Move.written
        ++ v :: (next.readMoves back).map Move.written := by
  have hd : d.WellFormed := hc.run (run_readMoves hfront)
  rw [readMoves_append hfront, readMoves_cons hread, moveFor_enclose_singleton hd hv hread,
    List.map_append, List.map_cons]
  rfl

/-- At the first critical segment the first reading takes the value. The second takes the name, and
then reads there what the first one wrote behind the value. -/
theorem navigateFrom_written_of_shadowed {front back : List String} {v : String}
    (hc : c.WellFormed) (h : Grammar.navigateFrom c (front ++ enclose [v] :: back) = .ok last)
    (hfront : c.Unshadowed front) (hd : Grammar.navigateFrom c front = .ok d)
    (hstep : d.hasStep v = true) :
    Grammar.navigateFrom c ((c.readMoves (front ++ enclose [v] :: back)).map Move.written)
        = .ok next
      ↔ ∃ below, d.step v = .ok below
        ∧ Grammar.navigateFrom below
            (((c.readMoves (front ++ enclose [v] :: back)).map Move.written).drop
              (front.length + 1)) = .ok next := by
  have hv : isToken v = true := isToken_of_hasStep (hc.run (run_readMoves hd)) hstep
  have hagain : Grammar.navigateFrom c ((c.readMoves front).map Move.written) = .ok d :=
    navigateFrom_written_of_unshadowed hc hd hfront
  obtain ⟨d', hd', hback⟩ := Grammar.navigateFrom_append.mp h
  obtain rfl : d = d' := Except.ok.inj (hd.symm.trans hd')
  obtain ⟨below, hread, -⟩ := Grammar.navigateFrom_cons.mp hback
  have hlength : front.length = ((c.readMoves front).map Move.written).length := by
    rw [List.length_map, length_readMoves hd]
  rw [map_written_readMoves_enclose hc hv hd hread, hlength, ← List.drop_drop, List.drop_left,
    List.drop_one, List.tail_cons, Grammar.navigateFrom_append]
  have hname : d.read v = d.step v := by
    rw [read, moveFor_of_hasStep hstep]
    rfl
  -- Up to the critical segment both readings agree, and there the second one takes the name.
  constructor
  · rintro ⟨e, he, hrest⟩
    obtain rfl : d = e := Except.ok.inj (hagain.symm.trans he)
    obtain ⟨named, hnamed, hlast⟩ := Grammar.navigateFrom_cons.mp hrest
    exact ⟨named, by rw [← hname, hnamed], hlast⟩
  · rintro ⟨named, hnamed, hlast⟩
    exact ⟨d, hagain, Grammar.navigateFrom_cons.mpr ⟨named, by rw [hname, hnamed], hlast⟩⟩

/-- Whether the second reading gets through: what the first one wrote behind the first critical
segment is accepted behind the name as well. -/
def Rereadable (c : Cursor) (segments written : List String) : Prop :=
  ∀ front v back d, segments = front ++ enclose [v] :: back → c.Unshadowed front →
    Grammar.navigateFrom c front = .ok d → d.hasStep v = true →
      ∃ next last, d.step v = .ok next
        ∧ Grammar.navigateFrom next (written.drop (front.length + 1)) = .ok last

/-- Without critical segments there is nothing to ask. -/
theorem Unshadowed.rereadable {segments : List String} (h : c.Unshadowed segments)
    (written : List String) : c.Rereadable segments written := by
  intro front v back d hsegments _ hnavigate hstep
  rw [h front v back d hsegments hnavigate] at hstep
  cases hstep

/-- The second reading gets through exactly under that condition. -/
theorem navigateFrom_written_iff {segments : List String} (hc : c.WellFormed)
    (h : Grammar.navigateFrom c segments = .ok last) :
    (∃ again, Grammar.navigateFrom c ((c.readMoves segments).map Move.written) = .ok again)
      ↔ c.Rereadable segments ((c.readMoves segments).map Move.written) := by
  constructor
  · rintro ⟨again, hagain⟩ front v back d rfl hfront hd hstep
    obtain ⟨below, hbelow, hrest⟩ :=
      (navigateFrom_written_of_shadowed hc h hfront hd hstep).mp hagain
    exact ⟨below, again, hbelow, hrest⟩
  · intro hreread
    by_cases hshadow : c.Unshadowed segments
    · exact ⟨last, navigateFrom_written_of_unshadowed hc h hshadow⟩
    · obtain ⟨front, v, back, d, rfl, hfront, hd, hstep⟩ := exists_first_shadowed hshadow
      obtain ⟨below, again, hbelow, hrest⟩ := hreread front v back d rfl hfront hd hstep
      exact ⟨again, (navigateFrom_written_of_shadowed hc h hfront hd hstep).mpr
        ⟨below, hbelow, hrest⟩⟩

end Cursor

namespace Grammar

variable {g : Grammar}

/-! ### The second reading of a scope -/

/-- Reading the result of a reading is reading what the first one wrote. -/
theorem navigateFrom_of_parse {s r : Scope} (h : (g.parse s).1 = .ok r) :
    ∃ segments last, s.segments = g.root :: segments
      ∧ navigateFrom (.ofGrammar g) segments = .ok last
      ∧ r.segments = g.root :: ((Cursor.ofGrammar g).readMoves segments).map Move.written := by
  obtain ⟨last, hnavigate, hscope⟩ := parse_eq_ok_iff.mp h
  obtain ⟨segments, hsegments, hfrom⟩ := navigate_eq_ok_iff.mp hnavigate
  refine ⟨segments, last, hsegments, hfrom, ?_⟩
  rw [Scope.segments_of_ofSegments hscope, Cursor.segments_of_navigateFrom hfrom]
  rfl

/-- A scope of written segments is read as itself, if it is read at all. -/
theorem parse_eq_self {s r : Scope} {segments : List String}
    (hsegments : s.segments = g.root :: segments) (hwritten : ∀ t ∈ segments, IsWritten t)
    (h : (g.parse s).1 = .ok r) : r = s := by
  obtain ⟨segments', last, hsegments', hfrom, hr⟩ := navigateFrom_of_parse h
  obtain rfl : segments = segments' := (List.cons.inj (hsegments.symm.trans hsegments')).2
  rw [Cursor.map_written_readMoves hwritten hfrom] at hr
  exact Scope.ext (hr.trans hsegments.symm)

/-- Reading what a reading gave. For every grammar that can be built and every value that it
accepts, the second reading gives the same scope or is rejected. It gives the scope exactly if
what the first reading wrote behind the first critical segment is accepted behind the name too; so
always, if there is no critical segment. -/
theorem parseValue_parsed (hg : g.Built) {v : Value} {s r : Scope} (hv : v.toScope = .ok s)
    (h : (g.parseValue v).1 = .ok r) :
    (∀ again, (g.parseValue (.scope r)).1 = .ok again → again = r)
      ∧ ((g.parseValue (.scope r)).1 = .ok r
        ↔ (Cursor.ofGrammar g).Rereadable s.segments.tail r.segments.tail) := by
  have hc : (Cursor.ofGrammar g).WellFormed := Cursor.wellFormed_ofGrammar hg.wellFormed
  have hscope : g.parseValue (.scope r) = g.parse r := rfl
  rw [parseValue, hv] at h
  obtain ⟨segments, last, hsegments, hfrom, hr⟩ := navigateFrom_of_parse h
  have hwritten : ∀ t ∈ ((Cursor.ofGrammar g).readMoves segments).map Move.written,
      IsWritten t := by
    intro t ht
    obtain ⟨m, hm, rfl⟩ := List.mem_map.mp ht
    exact Cursor.isWritten_of_run hc (Cursor.run_readMoves hfrom) m hm
  -- All that the first reading wrote is written again as it is.
  have hsame : ∀ again, (g.parse r).1 = .ok again → again = r := by
    intro again hagain
    exact parse_eq_self hr hwritten hagain
  rw [hscope, hsegments, hr, List.tail_cons, List.tail_cons,
    ← Cursor.navigateFrom_written_iff hc hfrom]
  refine ⟨hsame, ?_⟩
  constructor
  · intro hagain
    obtain ⟨again, hnavigate, -⟩ := parse_eq_ok_iff.mp hagain
    obtain ⟨written, hwrittenSegments, hread⟩ := navigate_eq_ok_iff.mp hnavigate
    obtain rfl := (List.cons.inj (hr.symm.trans hwrittenSegments)).2
    exact ⟨again, hread⟩
  · rintro ⟨again, hread⟩
    have hrun := Cursor.run_readMoves hread
    obtain ⟨result, hresult, -⟩ := toScope_of_run hg.wellFormed hrun
    have hparse : (g.parse r).1 = .ok result :=
      parse_eq_ok_iff.mpr ⟨again, navigate_eq_ok_iff.mpr ⟨_, hr, hread⟩, hresult⟩
    rw [hparse, hsame result hparse]

/-- `api.(alice).read` is read as `api.alice.read`, which is read as itself: `alice` is no name. -/
theorem parseValue_parsed_overlapping :
    ∃ s r, (Value.text "api.(alice).read").toScope = .ok s
      ∧ (overlapping.parseValue (.text "api.(alice).read")).1 = .ok r
      ∧ r.text = "api.alice.read" ∧ (overlapping.parseValue (.scope r)).1 = .ok r := by
  have hfirst : ∃ r, (overlapping.parseValue (.text "api.(alice).read")).1 = .ok r
      ∧ r.text = "api.alice.read" := exists_result_of_text (by decide +kernel)
  obtain ⟨r, hr, htext⟩ := hfirst
  let s : Scope := ⟨["api", "(alice)", "read"], by decide, by decide⟩
  have hs : (Value.text "api.(alice).read").toScope = .ok s := rfl
  obtain ⟨-, hagain⟩ := parseValue_parsed overlapping_built hs hr
  have hclear : (Cursor.ofGrammar overlapping).Unshadowed ["(alice)", "read"] := by
    refine Cursor.unshadowed_cons_iff.mpr ⟨fun v hv => ?_, fun next _ =>
      Cursor.unshadowed_cons_iff.mpr ⟨fun v hv => ?_, fun _ _ => Cursor.unshadowed_nil⟩⟩
    · obtain rfl : "alice" = v := eq_of_enclose_singleton_eq hv
      decide +kernel
    · -- What follows `(alice)` is not in parentheses.
      exact absurd (show isToken (enclose [v]) = true by rw [← hv]; decide)
        (not_isToken_enclose [v])
  exact ⟨s, r, hs, hr, htext, hagain.mpr (hclear.rereadable _)⟩

/-- `api.(admin).read` is read as `api.admin.read`. That is rejected: it means the name `admin`,
and only the slot leads on to `read`. -/
theorem parseValue_parsed_rejected :
    ∃ r, (overlapping.parseValue (.text "api.(admin).read")).1 = .ok r
      ∧ r.text = "api.admin.read" ∧ (overlapping.parseValue (.scope r)).1.isOk = false := by
  have hfirst : ∃ r, (overlapping.parseValue (.text "api.(admin).read")).1 = .ok r
      ∧ r.text = "api.admin.read" := exists_result_of_text (by decide +kernel)
  obtain ⟨r, hr, htext⟩ := hfirst
  refine ⟨r, hr, htext, ?_⟩
  show (overlapping.parse r).1.isOk = false
  rw [← parseValue_text, htext]
  decide +kernel

end Grammar

end AccessScopes
