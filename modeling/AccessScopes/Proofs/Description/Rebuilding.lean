import AccessScopes.Proofs.Cursor.Constraint
import AccessScopes.Proofs.Description.Describable
import AccessScopes.Proofs.Grammar.Declared
import AccessScopes.Proofs.Grammar.Declaring

/-!
# `AccessScopes.Proofs.Description.Rebuilding`: a grammar from its own description

A description keeps the text of every pattern, and nothing else of it. So a grammar that is built
from the description of another has in place of each pattern the one that is read from its text.

* `Grammar.rebuild_eq_ok_iff`: there is such a grammar exactly if the names, aliases and patterns
  keep within the limits of a description, and which grammar it is.
* `Grammar.accepts_behind_path_iff`: what a pattern admits can be seen from outside, by a scope that
  is the declared path of its node and one value in parentheses.
* `Grammar.DeclaredByText.fromText`: patterns that are declared by texts are what their texts say.
* `Grammar.rebuilt_reads_alike`: the rebuilt grammar has the same description and the same declared
  scopes. It reads alike exactly if every pattern admits what the pattern that is read from its
  text admits.
* `Grammar.rebuilt_reads_less`: a pattern for letters in any case does not.
-/

set_option autoImplicit false

namespace AccessScopes

open Description

namespace Pattern

variable {p : Pattern}

/-- The pattern that is read from the text of a pattern. -/
def reread (p : Pattern) : Pattern :=
  reading p.source

/-- Whether a pattern is the one that its text says. -/
def FromText (p : Pattern) : Prop :=
  Pattern.ofText? p.source false = .ok p

/-- Whether the text of a pattern says a pattern that admits the same values. -/
def SaidByText (p : Pattern) : Prop :=
  ∃ again, Pattern.ofText? p.source false = .ok again
    ∧ ∀ value, again.admitsValue value = p.admitsValue value

/-- What is read from a text is the pattern that its text says. -/
theorem fromText_reading {source : String} (h : Readable source) : (reading source).FromText := by
  rw [FromText, source_reading]
  exact ofText?_eq_ok_iff.mpr ⟨h, rfl⟩

/-- The text of a pattern says it if it can be read as a pattern that is alike. -/
theorem saidByText_iff : p.SaidByText ↔ Readable p.source ∧ p.Alike p.reread := by
  constructor
  · rintro ⟨again, hread, hsame⟩
    obtain ⟨hreadable, rfl⟩ := ofText?_eq_ok_iff.mp hread
    exact ⟨hreadable, source_reading p.source, hsame⟩
  · rintro ⟨hreadable, halike⟩
    exact ⟨_, ofText?_eq_ok_iff.mpr ⟨hreadable, rfl⟩, halike.admitsValue⟩

end Pattern

/-- Whether a step gives a pattern, if any, as a text and not as one that has been read before, with
options that the text may not say. -/
def Declaration.ByText : Declaration → Prop
  | .wild _ (some (.ready _)) => False
  | _ => True

namespace Grammar

variable {g r : Grammar}

/-! ### The rebuilt grammar -/

/-- A grammar stays well-formed under other patterns. -/
theorem wellFormed_mapPattern (hg : g.WellFormed) (f : Pattern → Pattern) :
    (g.mapPattern f).WellFormed :=
  ⟨hg.root_token, hg.node.mapConstraint f⟩

/-- A grammar can be rebuilt exactly if its description keeps within the limits. The rebuilt one is
sealed, and has the patterns that are read from the texts of the others. -/
theorem rebuild_eq_ok_iff (hg : g.WellFormed) :
    g.rebuild = .ok r ↔ (IsName g.root ∧ g.describe.node.Describable)
      ∧ r = (g.mapPattern Pattern.reread).finish := by
  have hdescribe : g.describe.node.WellFormed := hg.node.mapConstraint Pattern.source
  -- To tell the text of a pattern and to read it is to reread the pattern.
  have hnode : g.describe.node.mapConstraint Pattern.reading
      = g.node.mapConstraint Pattern.reread := Node.mapConstraint_mapConstraint _ _ g.node
  rw [rebuild, ofValue_eq_ok_iff]
  simp only [checkGrammar_toValue_iff]
  constructor
  · rintro ⟨_, ⟨hlimits, rfl⟩, hbuilt⟩
    obtain ⟨-, -, rfl⟩ := (ofDescription_eq_ok_iff hdescribe).mp hbuilt
    refine ⟨hlimits, ?_⟩
    rw [hnode]
    rfl
  · rintro ⟨hlimits, rfl⟩
    refine ⟨_, ⟨hlimits, rfl⟩, (ofDescription_eq_ok_iff hdescribe).mpr
      ⟨hlimits.1.1, hlimits.2.readable, ?_⟩⟩
    rw [hnode]
    rfl

/-- The texts of the patterns, which is all that is described of them, are read and told again. -/
theorem describe_of_rebuild (hg : g.WellFormed) (h : g.rebuild = .ok r) :
    r.describe = g.describe := by
  obtain ⟨-, rfl⟩ := (rebuild_eq_ok_iff hg).mp h
  have hsource : Pattern.source ∘ Pattern.reread = Pattern.source :=
    funext fun p => Pattern.source_reading p.source
  show (⟨g.root, (g.node.mapConstraint Pattern.reread).mapConstraint Pattern.source⟩ :
    GrammarDescription) = g.describe
  rw [Node.mapConstraint_mapConstraint, hsource]
  rfl

/-- A rebuilt grammar has the same declared scopes. -/
theorem declaredScopes_of_rebuild (hg : g.WellFormed) (h : g.rebuild = .ok r) :
    r.declaredScopes = g.declaredScopes := by
  obtain ⟨-, rfl⟩ := (rebuild_eq_ok_iff hg).mp h
  have hpaths : ((g.mapPattern Pattern.reread).finish).paths = g.paths :=
    Node.paths_mapConstraint Pattern.reread g.node [g.root]
  rw [declaredScopes, declaredScopes, hpaths]

/-- Patterns that are what their texts say are read again as they are. -/
theorem mapPattern_reread_eq_self (h : g.node.AllConstraints Pattern.FromText) :
    g.mapPattern Pattern.reread = g := by
  have hreread : g.node.AllConstraints fun p => p.reread = p :=
    h.mono fun p hp => (Pattern.ofText?_eq_ok_iff.mp hp).2.symm
  rw [mapPattern, Node.mapConstraint_eq_self hreread]

/-! ### What a pattern admits, seen from outside -/

variable {p : Place}

/-- A declared path with one token in parentheses behind it is a scope. -/
theorem exists_scope_behind_path (hg : g.WellFormed) (hp : p ∈ g.walk) {value : String}
    (hvalue : isToken value = true) : ∃ s : Scope, s.segments = p.path ++ [enclose [value]] := by
  obtain ⟨d, -, hd⟩ := exists_declaredScope hg hp
  have hsegment : ∀ segment ∈ p.path ++ [enclose [value]], IsSegment segment := by
    rw [List.forall_mem_append, List.forall_mem_singleton]
    refine ⟨fun segment hmem => d.isSegment segment (hd ▸ hmem), isSegment_enclose ?_⟩
    simpa using hvalue
  exact ⟨⟨_, by simp, hsegment⟩, rfl⟩

/-- A token is admitted by the pattern at a place exactly if it can be read there in parentheses.
Nothing but a value can be meant by these, whatever names there are. -/
theorem accepts_behind_path_iff (hg : g.WellFormed) (hp : p ∈ g.walk)
    {w : WildSlot Pattern × Node Pattern} {pattern : Pattern} (hw : p.node.wild = some w)
    (hpattern : w.1.constraint = some pattern) {value : String} (hvalue : isToken value = true)
    {s : Scope} (hs : s.segments = p.path ++ [enclose [value]]) :
    g.accepts s = true ↔ pattern.admitsValue value = true := by
  obtain ⟨c, hc, -, hplaces⟩ := navigate_path hg hp
  have hwf : c.WellFormed := by
    intro q hq
    rw [hplaces, List.mem_singleton] at hq
    exact hq ▸ wellFormed_of_mem_walk hg hp
  have haccepts : c.acceptsValues = true := by
    rw [Cursor.acceptsValues, hplaces, List.any_cons, hw]
    rfl
  have hread : c.read (enclose [value]) = c.move (.value [value]) := by
    rw [Cursor.read, Cursor.moveFor_enclose hwf haccepts (List.cons_ne_nil value [])
      (by simpa using hvalue)]
  have hmove : (∃ last, c.move (.value [value]) = .ok last) ↔ pattern.admitsValue value = true := by
    obtain ⟨slot, subtree⟩ := w
    have hslot : slot.constraint = some pattern := hpattern
    rw [Cursor.exists_move_iff, hplaces, List.forall_mem_singleton,
      Move.exists_successors_value_iff, hw]
    simp [hslot]
  have hne : p.path ≠ [] := List.length_pos_iff.mp (length_path_pos hg hp)
  rw [accepts_iff hg, hs, ← hmove]
  constructor
  · rintro ⟨last, hlast⟩
    obtain ⟨d, hd, hstep⟩ := (navigate_append hne).mp hlast
    obtain rfl : c = d := Except.ok.inj (hc.symm.trans hd)
    obtain ⟨next, hnext, -⟩ := navigateFrom_cons.mp hstep
    exact ⟨next, hread ▸ hnext⟩
  · rintro ⟨next, hnext⟩
    exact ⟨next, (navigate_append hne).mpr
      ⟨c, hc, navigateFrom_cons.mpr ⟨next, hread.trans hnext, rfl⟩⟩⟩

/-- Grammars that differ in their patterns only, and accept the same texts, have patterns that admit
the same values. -/
theorem alike_of_accepts_iff (hg : g.WellFormed) {f : Pattern → Pattern}
    (h : ∀ s : Scope, (g.mapPattern f).accepts s = g.accepts s) :
    g.node.AllConstraints fun x => ∀ value, (f x).admitsValue value = x.admitsValue value := by
  refine .of_forall_get? hg.node fun address m w x hm hw hx value => ?_
  by_cases hvalue : isToken value = true
  · have hp : (⟨g.root :: address, m⟩ : Place) ∈ g.walk :=
      (mem_walk_iff hg).mpr ⟨address, place?_eq_some_iff.mpr ⟨hm, rfl⟩⟩
    have hq : (⟨g.root :: address, m.mapConstraint f⟩ : Place) ∈ (g.mapPattern f).walk := by
      refine (mem_walk_iff (wellFormed_mapPattern hg f)).mpr
        ⟨address, place?_eq_some_iff.mpr ⟨?_, rfl⟩⟩
      rw [mapPattern, Node.get?_mapConstraint, hm, Option.map_some]
    -- The same scope asks both patterns about the value.
    obtain ⟨s, hs⟩ := exists_scope_behind_path hg hp hvalue
    have hhere := accepts_behind_path_iff hg hp hw hx hvalue hs
    have hthere := accepts_behind_path_iff (wellFormed_mapPattern hg f) hq
      (Node.wild_mapConstraint_of_wild f hw) (by rw [hx, Option.map_some]) hvalue hs
    rw [Bool.eq_iff_iff, ← hthere, ← hhere, h]
  · -- What is no token is admitted by no pattern at all.
    simp [Pattern.admitsValue, hvalue]

/-! ### Grammars declared by texts -/

/-- The grammars that are declared from a root with texts for all patterns. -/
inductive DeclaredByText : Grammar → Prop
  | root {name : String} {g : Grammar} (h : ofRoot name = .ok g) : g.DeclaredByText
  | declare {g : Grammar} (h : g.DeclaredByText) (address : Address) {d : Declaration}
    (hd : d.ByText) : (g.declare address d).1.DeclaredByText
  | finish {g : Grammar} (h : g.DeclaredByText) : g.finish.DeclaredByText

/-- Declaring a name brings in no pattern. -/
theorem allConstraints_add {P : Pattern → Prop} (h : g.node.AllConstraints P) (address : Address)
    (name : String) : (g.add address name).1.node.AllConstraints P := by
  rcases g.add_cases address name with ⟨e, heq⟩ | ⟨-, -, heq⟩ | ⟨-, -, -, heq⟩
  · rw [heq]
    exact h
  · rw [heq]
    exact h
  · rw [heq]
    exact h.update (fun m hm => hm.addChild name) address

/-- Declaring a chain of names brings in no pattern. -/
theorem allConstraints_addChain {P : Pattern → Prop} (h : g.node.AllConstraints P)
    (address : Address) (names : List String) :
    (g.addChain address names).1.node.AllConstraints P :=
  addChain_preserves (P := fun g => g.node.AllConstraints P)
    (fun a n h => allConstraints_add h a n) h address names

/-- The pattern of a slot that was declared by a text is the one that its text says. -/
theorem fromText_of_declare {aliases : List String} {constraint : Option Constraint}
    {slot : WildSlot Pattern} (hd : (Declaration.wild aliases constraint).ByText)
    (h : WildSlot.declare aliases constraint = .ok slot) :
    ∀ p, slot.constraint = some p → p.FromText := by
  -- By text means: there is a text for the pattern, or nothing.
  obtain ⟨source?, rfl⟩ : ∃ source? : Option String, constraint = source?.map .written := by
    cases constraint with
    | none => exact ⟨none, rfl⟩
    | some constraint =>
      cases constraint with
      | written source => exact ⟨some source, rfl⟩
      | ready pattern => exact hd.elim
  obtain ⟨-, hread, rfl⟩ := WildSlot.declare_written_eq_ok_iff.mp h
  intro p hp
  obtain ⟨source, hsource, rfl⟩ := Option.map_eq_some_iff.mp hp
  exact Pattern.fromText_reading (hread source hsource)

/-- Where all patterns are declared by texts, each is the one that its text says. -/
theorem DeclaredByText.fromText (h : g.DeclaredByText) :
    g.node.AllConstraints Pattern.FromText := by
  induction h with
  | root h =>
    obtain ⟨_, -, h⟩ := bind_eq_ok_iff.mp h
    cases h
    exact ⟨nofun, nofun, nofun⟩
  | finish _ ih => exact ih
  | @declare g _ address d hd ih =>
    cases d with
    | child name => exact allConstraints_add ih address name
    | chain path => exact allConstraints_addChain ih address _
    | wild aliases constraint =>
      rw [Grammar.declare]
      rcases g.addWild_cases address aliases constraint with ⟨e, heq⟩ | ⟨slot, hslot, -, -, heq⟩
      · rw [heq]
        exact ih
      · rw [heq]
        exact ih.update (fun m hm => hm.setWild (fromText_of_declare hd hslot)) address

/-! ### Rebuilt grammars -/

/-- What a rebuilt grammar keeps. For every grammar that can be built and rebuilt: the rebuilt one
has the same description and the same declared scopes. If every pattern admits the values that the
pattern said by its text admits, then the rebuilt grammar gives the same answer to every value, with
the same records. If not, then there is a text that only one of the two accepts. And a grammar that
is declared with texts for patterns is rebuilt as the same grammar, sealed. -/
theorem rebuilt_reads_alike (hg : g.Built) (h : g.rebuild = .ok r) :
    r.describe = g.describe ∧ r.declaredScopes = g.declaredScopes
      ∧ (g.node.AllConstraints Pattern.SaidByText → ∀ v, r.parseValue v = g.parseValue v)
      ∧ (¬ g.node.AllConstraints Pattern.SaidByText → ∃ text,
          (r.parseValue (.text text)).1.isOk ≠ (g.parseValue (.text text)).1.isOk)
      ∧ (g.DeclaredByText → r = g.finish) := by
  have hwf : g.WellFormed := hg.wellFormed
  have hdescribe : r.describe = g.describe := describe_of_rebuild hwf h
  have hscopes : r.declaredScopes = g.declaredScopes := declaredScopes_of_rebuild hwf h
  obtain ⟨⟨-, hlimits⟩, rfl⟩ := (rebuild_eq_ok_iff hwf).mp h
  have hreadable : g.node.AllConstraints (Pattern.Readable ∘ Pattern.source) :=
    Node.allConstraints_mapConstraint_iff.mp hlimits.readable
  refine ⟨hdescribe, hscopes, ?_, ?_, ?_⟩
  · intro hsaid v
    exact parseValue_mapPattern hwf (hsaid.mono fun p hp => (Pattern.saidByText_iff.mp hp).2) v
  · -- If all texts were read alike, the patterns would admit the same values.
    intro hnot
    by_contra hsame
    push Not at hsame
    have haccepts : ∀ s : Scope, (g.mapPattern Pattern.reread).accepts s = g.accepts s := by
      intro s
      have htext := hsame s.text
      rw [parseValue_text, parseValue_text] at htext
      exact htext
    refine hnot ((hreadable.and (alike_of_accepts_iff hwf haccepts)).mono fun p hp => ?_)
    exact Pattern.saidByText_iff.mpr ⟨hp.1, Pattern.source_reading p.source, hp.2⟩
  · intro hdeclared
    rw [mapPattern_reread_eq_self hdeclared.fromText]

/-- The overlapping grammar, whose pattern is declared by a text, is rebuilt as it is. -/
theorem rebuilt_reads_alike_overlapping :
    ∃ r, overlapping.rebuild = .ok r ∧ r = overlapping.finish
      ∧ ∀ v, r.parseValue v = overlapping.parseValue v := by
  have hroot : ofRoot "api" = .ok ⟨"api", .leaf, false⟩ := rfl
  have hdeclared : overlapping.DeclaredByText :=
    ((((DeclaredByText.root hroot).declare [] (d := .child "admin") trivial).declare []
      (d := .wild ["own"] (some (.written "^[a-z]+$"))) trivial).declare ["*"]
      (d := .child "read") trivial).finish
  obtain ⟨r, hr⟩ := exists_eq_ok_of_isOk (show overlapping.rebuild.isOk = true by decide +kernel)
  obtain ⟨-, -, halike, -, hsame⟩ := rebuilt_reads_alike overlapping_built hr
  have hsaid : overlapping.node.AllConstraints Pattern.SaidByText :=
    hdeclared.fromText.mono fun p hp => ⟨p, hp, fun _ => rfl⟩
  exact ⟨r, hr, hsame hdeclared, halike hsaid⟩

/-- A grammar with a slot for letters in any case, by a pattern whose text does not say so. -/
def anyCased : Grammar :=
  let empty : Grammar := ⟨"api", .leaf, false⟩
  match Pattern.ofText? "^[a-z]+$" true with
  | .ok pattern => (empty.declare [] (.wild [] (some (.ready pattern)))).1.finish
  | .error _ => empty

/-- The grammar of the example is built by declarations. -/
theorem anyCased_built : anyCased.Built := by
  have hroot : ofRoot "api" = .ok ⟨"api", .leaf, false⟩ := rfl
  unfold anyCased
  cases Pattern.ofText? "^[a-z]+$" true with
  | ok pattern => exact ((Built.root hroot).declare _ _).finish
  | error fault => exact .root hroot

/-- The grammar with the slot for letters in any case is rebuilt, with the same description and the
same declared scopes. But the rebuilt one refuses `api.ABC`, which the other accepts. -/
theorem rebuilt_reads_less :
    anyCased.Built ∧ ∃ r, anyCased.rebuild = .ok r ∧ r.describe = anyCased.describe
      ∧ r.declaredScopes = anyCased.declaredScopes
      ∧ (anyCased.parseValue (.text "api.ABC")).1.isOk = true
      ∧ (r.parseValue (.text "api.ABC")).1.isOk = false := by
  have hwf : anyCased.WellFormed := anyCased_built.wellFormed
  have hrebuilt : anyCased.rebuild.toOption.map (fun r => (r.parseValue (.text "api.ABC")).1.isOk)
      = some false := by
    decide +kernel
  cases hr : anyCased.rebuild with
  | error e =>
    rw [hr] at hrebuilt
    cases hrebuilt
  | ok r =>
    rw [hr] at hrebuilt
    exact ⟨anyCased_built, r, rfl, describe_of_rebuild hwf hr, declaredScopes_of_rebuild hwf hr,
      by decide +kernel, Option.some.inj hrebuilt⟩

end Grammar

end AccessScopes
