import AccessScopes.Proofs.Grammar.Reading
import AccessScopes.Value.Coercion

/-!
# `AccessScopes.Proofs.Grammar.RoundTrip`: from moves to text and back

A cursor writes its moves as one text. `Grammar.parse` gets only the text and has to guess each
move from its segment and the places in reach. The guess is right for every move but one: a single
value that is written like a name in reach is read as that name.

* `Cursor.moveFor_written`: the guess at one segment.
* `Cursor.AvoidsNames` excludes the wrong guess along a run, and `Grammar.navigateFrom_of_run` is
  the induction over runs.
* `Grammar.parseValue_text_of_run`: the text of a cursor is read as the scope of the cursor, and
  the reading ends with the very same cursor.
-/

set_option autoImplicit false

namespace AccessScopes

namespace Cursor

variable {c next last : Cursor}

/-! ### The move of a segment -/

/-- Values in parentheses are never a name in reach. -/
theorem hasStep_enclose (hc : c.WellFormed) (values : List String) :
    c.hasStep (enclose values) = false := by
  rw [Bool.eq_false_iff]
  intro h
  exact not_isToken_enclose values (isToken_of_hasStep hc h)

/-- The wildcard is always a step. -/
theorem moveFor_wildcard (c : Cursor) : c.moveFor wildcard = .step wildcard := by
  simp [moveFor]

/-- A name in reach is a step. -/
theorem moveFor_of_hasStep {key : String} (h : c.hasStep key = true) :
    c.moveFor key = .step key := by
  simp [moveFor, h]

/-- What is no step is read as values, where values are accepted at all. -/
theorem moveFor_of_not_hasStep {segment : String} (hne : segment ≠ wildcard)
    (hstep : c.hasStep segment = false) (haccepts : c.acceptsValues = true) :
    c.moveFor segment = .value ((readValues? segment).getD [segment]) := by
  simp [moveFor, hne, hstep, haccepts]

/-- Tokens in parentheses are read as values, where values are accepted at all. -/
theorem moveFor_enclose (hc : c.WellFormed) (haccepts : c.acceptsValues = true)
    {values : List String} (hne : values ≠ []) (htoken : ∀ v ∈ values, isToken v = true) :
    c.moveFor (enclose values) = .value values := by
  rw [moveFor_of_not_hasStep (enclose_ne_wildcard values) (hasStep_enclose hc values) haccepts,
    readValues?_enclose_of_isToken hne htoken, Option.getD_some]

/-- A move that succeeds is found again in the segment that it writes, unless it is a single value
that is written like a name in reach. -/
theorem moveFor_written (hc : c.WellFormed) {m : Move} (h : c.move m = .ok next)
    (hname : ∀ v, m = .value [v] → c.hasStep v = false) : c.moveFor m.written = m := by
  cases m with
  | step key =>
    by_cases hkey : key = wildcard
    · rw [hkey]
      exact moveFor_wildcard c
    · exact moveFor_of_hasStep (hasStep_of_step hkey h)
  | value values =>
    have htoken := isToken_of_value h
    have haccepts := acceptsValues_of_value h
    -- A single value is written as it is, several in parentheses, which no token has.
    by_cases hone : ∃ v, values = [v]
    · obtain ⟨v, rfl⟩ := hone
      have hv : isToken v = true := htoken v (List.mem_singleton.mpr rfl)
      show c.moveFor v = .value [v]
      rw [moveFor_of_not_hasStep (ne_wildcard_of_isToken hv) (hname v rfl) haccepts,
        readValues?_of_isToken hv, Option.getD_none]
    · rw [Move.written, writeValues_eq_enclose fun v hv => hone ⟨v, hv⟩]
      exact moveFor_enclose hc haccepts (ne_nil_of_value h) htoken

/-! ### Runs that are read back -/

/-- Whether no single value of a run is written like a name in reach at that moment. -/
def AvoidsNames (c : Cursor) (ms : List Move) : Prop :=
  ∀ before v after d, ms = before ++ .value [v] :: after → c.run before = .ok d →
    d.hasStep v = false

/-- The first move of such a run is no single value that is a name in reach. -/
theorem AvoidsNames.head {m : Move} {ms : List Move} (h : c.AvoidsNames (m :: ms)) :
    ∀ v, m = .value [v] → c.hasStep v = false := by
  rintro v rfl
  exact h [] v ms c rfl rfl

/-- The run behind the first move of such a run is one, too. -/
theorem AvoidsNames.tail {m : Move} {ms : List Move} (h : c.AvoidsNames (m :: ms))
    (hmove : c.move m = .ok next) : next.AvoidsNames ms := by
  intro before v after d hms hrun
  exact h (m :: before) v after d (by rw [hms, List.cons_append])
    (run_cons.mpr ⟨next, hmove, hrun⟩)

end Cursor

namespace Grammar

variable {g : Grammar}

/-- Reading the segments that a run writes is making the run again. The induction is on the run;
each move is found again at the cursor where it was made. -/
theorem navigateFrom_of_run {c last : Cursor} {ms : List Move} (hc : c.WellFormed)
    (hrun : c.run ms = .ok last) (hnames : c.AvoidsNames ms) :
    navigateFrom c (ms.map Move.written) = .ok last := by
  induction ms generalizing c with
  | nil => exact hrun
  | cons m ms ih =>
    obtain ⟨next, hmove, hrest⟩ := Cursor.run_cons.mp hrun
    rw [List.map_cons, navigateFrom_cons]
    refine ⟨next, ?_, ih (hc.move hmove) hrest (hnames.tail hmove)⟩
    rw [Cursor.read, Cursor.moveFor_written hc hmove hnames.head]
    exact hmove

/-- What a run from the root writes is read back to the same cursor. -/
theorem navigate_of_run {c : Cursor} {ms : List Move} (hg : g.WellFormed)
    (hrun : (Cursor.ofGrammar g).run ms = .ok c) (hnames : (Cursor.ofGrammar g).AvoidsNames ms) :
    g.navigate c.segments = .ok c := by
  have hsegments : c.segments = g.root :: ms.map Move.written := Cursor.segments_of_run hrun
  rw [hsegments, navigate_root]
  exact navigateFrom_of_run (Cursor.wellFormed_ofGrammar hg) hrun hnames

/-- Reading the text of a scope is reading the scope. -/
theorem parseValue_text (g : Grammar) (s : Scope) :
    g.parseValue (.text s.text) = g.parse s := by
  simp [parseValue, Value.toScope, Scope.ofText_text]

/-- A reading with a known text of the result. The result itself is a scope with its proofs, so a
run is evaluated by the text. -/
theorem exists_result_of_text {v : Value} {text : String}
    (h : (g.parseValue v).1.toOption.map Scope.text = some text) :
    ∃ r, (g.parseValue v).1 = .ok r ∧ r.text = text := by
  cases hresult : (g.parseValue v).1 with
  | error e =>
    rw [hresult] at h
    cases h
  | ok r =>
    rw [hresult] at h
    exact ⟨r, rfl, Option.some.inj h⟩

/-- The text of a cursor is read back. For every grammar that can be built, and every run of moves
from its root that succeeds and in which no single value is written like a name in reach, the
segments form a scope `s`. The text of the cursor writes this scope, the grammar accepts the text
with `s` as the result, and the reading ends with the same cursor, its places in the same
order. -/
theorem parseValue_text_of_run (hg : g.Built) {ms : List Move} {c : Cursor}
    (hrun : (Cursor.ofGrammar g).run ms = .ok c) (hnames : (Cursor.ofGrammar g).AvoidsNames ms) :
    ∃ s, c.toScope = .ok s ∧ Scope.ofText c.text = .ok s
      ∧ (g.parseValue (.text c.text)).1 = .ok s ∧ g.navigate s.segments = .ok c := by
  obtain ⟨s, hscope, hsegments⟩ := toScope_of_run hg.wellFormed hrun
  have htext : c.text = s.text := by rw [Cursor.text, Scope.text, hsegments]
  have hnavigate : g.navigate s.segments = .ok c := by
    rw [hsegments]
    exact navigate_of_run hg.wellFormed hrun hnames
  refine ⟨s, hscope, ?_, ?_, hnavigate⟩
  · rw [htext, Scope.ofText_text]
  · rw [htext, parseValue_text]
    exact parse_eq_ok_iff.mpr ⟨c, hnavigate, hscope⟩

/-- A grammar in which a value can be written like a name: below the root stand the name `admin`
and a slot for lower-case values, and only the slot leads on, to `read`. -/
def overlapping : Grammar :=
  let empty : Grammar := ⟨"api", .leaf, false⟩
  let named := (empty.declare [] (.child "admin")).1
  let slotted := (named.declare [] (.wild ["own"] (some (.written "^[a-z]+$")))).1
  (slotted.declare ["*"] (.child "read")).1.finish

/-- The grammar of the example is built by declarations. -/
theorem overlapping_built : overlapping.Built := by
  have hroot : ofRoot "api" = .ok ⟨"api", .leaf, false⟩ := rfl
  exact ((((Built.root hroot).declare _ _).declare _ _).declare _ _).finish

/-- The name of its root. -/
theorem overlapping_root : overlapping.root = "api" := by
  decide +kernel

/-- A value that is no name in reach is read back, with a name behind it. -/
theorem parseValue_text_of_run_overlapping :
    ∃ c s, (Cursor.ofGrammar overlapping).run [.value ["alice"], .step "read"] = .ok c
      ∧ c.segments = ["api", "alice", "read"] ∧ c.toScope = .ok s
      ∧ (overlapping.parseValue (.text c.text)).1 = .ok s
      ∧ overlapping.navigate s.segments = .ok c := by
  cases hrun : (Cursor.ofGrammar overlapping).run [.value ["alice"], .step "read"] with
  | error r =>
    have hok : ((Cursor.ofGrammar overlapping).run
        [.value ["alice"], .step "read"]).isOk = true := by
      decide +kernel
    rw [hrun] at hok
    cases hok
  | ok c =>
    have hnames : (Cursor.ofGrammar overlapping).AvoidsNames
        [.value ["alice"], .step "read"] := by
      intro before v after d hms hbefore
      -- The only value is the first move.
      rcases before with - | ⟨m, - | ⟨m', before⟩⟩
      · simp only [List.nil_append, List.cons.injEq, Move.value.injEq, and_true] at hms
        rw [← hms.1, ← Except.ok.inj hbefore]
        decide +kernel
      · simp at hms
      · simp at hms
    obtain ⟨s, hscope, -, hparse, hnavigate⟩ :=
      parseValue_text_of_run overlapping_built hrun hnames
    have hsegments : c.segments = ["api", "alice", "read"] := by
      rw [Cursor.segments_of_run hrun, Cursor.ofGrammar, overlapping_root]
      rfl
    exact ⟨c, s, rfl, hsegments, hscope, hparse, hnavigate⟩

end Grammar

end AccessScopes
