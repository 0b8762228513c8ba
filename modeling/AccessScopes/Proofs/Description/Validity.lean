import AccessScopes.Proofs.Description.Complaints
import AccessScopes.Proofs.Description.Rebuilding

/-!
# `AccessScopes.Proofs.Description.Validity`: which values describe a grammar

A caller hands in a value of plain data: nothing, truth values, numbers, texts, lists and tables. The
value is checked by one layer and the grammar is built by another one, which checks the names and
patterns again. `IsGrammar` says which values are right, without reference to either.

* `checks_of_plain`: each check accepts what is right, by induction on the value.
* `sound_of_plain`: what a check accepts keeps within the limits of a description, so it can be built.
* `tooLarge?_eq_none`: what a check has to say about patterns is about texts that the value holds, so
  only such a text can bring a failure that tells no problems.
* `Grammar.ofValue_of_plain`: a plain value describes a grammar exactly if it is right. Otherwise the
  failure tells the problems with the value, and nothing else ever goes wrong.
-/

set_option autoImplicit false

namespace AccessScopes

/-- Whether a text fails to be read as a pattern because of a repeat that is too large to count. -/
def Pattern.TooLarge (source : String) : Prop :=
  ∃ fault, Pattern.ofText? source false = .error fault ∧ fault.cause = .repeatTooLarge

/-- To see whether a text counts too much, one reads it. -/
instance Pattern.decidableTooLarge (source : String) : Decidable (Pattern.TooLarge source) :=
  match h : Pattern.ofText? source false with
  | .ok _ => .isFalse (by
      rintro ⟨fault, hfault, -⟩
      rw [h] at hfault
      cases hfault)
  | .error fault => decidable_of_iff (fault.cause = .repeatTooLarge) (by
      simp only [Pattern.TooLarge, h, Except.error.injEq, exists_eq_left'])

namespace Description

/-! ### Right values -/

/-- Whether a value is right for the aliases of a slot: a list of at most 64 different names. -/
def IsAliases (v : Value) : Prop :=
  ∃ aliases : List String, v = .list (aliases.map .text) ∧ aliases.length ≤ aliasLimit
    ∧ (∀ a ∈ aliases, IsName a) ∧ aliases.Nodup

/-- Whether a value is right for a pattern: nothing, or a text of 1 to 256 characters that can be read
as a pattern. -/
def IsPattern (v : Value) : Prop :=
  v = .null ∨ ∃ source, v = .text source ∧ patternBounds.Admit source ∧ Pattern.Readable source

mutual

/-- Whether a value is right for a node: a table with no keys but `children` and `any`. Behind `any`
stands a wild slot or nothing. -/
inductive IsNode : Value → Prop
  | mk {fields : List (Value × Value)}
    (known : ∀ f ∈ fields, ∃ key ∈ nodeFields, f.1 = .text key)
    (children : ∀ v, (.text "children", v) ∈ fields → IsChildTable v)
    (any : ∀ v, (.text "any", v) ∈ fields → v ≠ .null → IsWild v) : IsNode (.table fields)

/-- Whether a value is right for a wild slot: a table with the keys of a node, `aliases` and
`pattern`, and no others. -/
inductive IsWild : Value → Prop
  | mk {fields : List (Value × Value)}
    (known : ∀ f ∈ fields, ∃ key ∈ wildFields, f.1 = .text key)
    (children : ∀ v, (.text "children", v) ∈ fields → IsChildTable v)
    (any : ∀ v, (.text "any", v) ∈ fields → v ≠ .null → IsWild v)
    (aliases : ∀ v, (.text "aliases", v) ∈ fields → IsAliases v)
    (pattern : ∀ v, (.text "pattern", v) ∈ fields → IsPattern v) : IsWild (.table fields)

/-- Whether a value is right for children: a table of nodes under names. -/
inductive IsChildTable : Value → Prop
  | mk {entries : List (Value × Value)}
    (names : ∀ e ∈ entries, ∃ name, e.1 = .text name ∧ IsName name)
    (nodes : ∀ e ∈ entries, IsNode e.2) : IsChildTable (.table entries)

end

/-- Whether a value is right for a grammar: a table with a name as `root`, possibly a node as
`grammar`, and no other keys. -/
def IsGrammar (v : Value) : Prop :=
  ∃ fields, v = .table fields
    ∧ (∃ root, (.text "root", .text root) ∈ fields ∧ IsName root)
    ∧ (∀ v, (.text "grammar", v) ∈ fields → IsNode v)
    ∧ ∀ f ∈ fields, ∃ key ∈ ["root", "grammar"], f.1 = .text key

variable {v : Value} {fields : List (Value × Value)}

/-! ### What is accepted -/

/-- Aliases are accepted exactly if they are right where they are given. -/
theorem exists_checkAliases_iff (hnodup : (fields.map Prod.fst).Nodup)
    (hplain : ∀ f ∈ fields, f.2.Plain) :
    (∃ aliases, checkAliases fields = .ok aliases)
      ↔ ∀ v, (.text "aliases", v) ∈ fields → IsAliases v := by
  unfold checkAliases
  rw [exists_optionalField_iff hnodup]
  refine forall_congr' fun v => imp_congr_right fun hmem => exists_congr fun aliases => ?_
  rw [refine_refuseAliases_eq_ok_iff]
  -- A tuple is accepted as well, but is no plain value.
  have htuple : v ≠ .tuple (aliases.map .text) := by
    rintro rfl
    cases hplain _ hmem
  simp [htuple]

/-- A pattern is accepted exactly if it is right where it is given. -/
theorem exists_checkPattern_iff (hnodup : (fields.map Prod.fst).Nodup) :
    (∃ pattern, checkPattern fields = .ok pattern)
      ↔ ∀ v, (.text "pattern", v) ∈ fields → IsPattern v := by
  unfold checkPattern
  rw [exists_optionalField_iff hnodup]
  refine forall_congr' fun v => imp_congr_right fun _ => ?_
  simp only [checkPatternValue_eq_ok_iff]
  constructor
  · rintro ⟨pattern, rfl, hpattern⟩
    cases pattern with
    | none => exact Or.inl rfl
    | some source => exact Or.inr ⟨source, rfl, hpattern source rfl⟩
  · rintro (rfl | ⟨source, rfl, hpattern⟩)
    · exact ⟨none, rfl, nofun⟩
    · exact ⟨some source, rfl, by rintro _ ⟨⟩; exact hpattern⟩

/-- A table of children is accepted exactly if its keys are names of nodes that are accepted. -/
theorem exists_checkChildTable_iff {entries : List (Value × Value)} :
    (∃ children, checkChildTable (.table entries) = .ok children)
      ↔ ∀ e ∈ entries, (∃ name, e.1 = .text name ∧ IsName name) ∧ ∃ n, checkNode e.2 = .ok n := by
  simp only [checkChildTable_eq_ok_iff, Value.table.injEq, exists_eq_left']
  induction entries with
  | nil => exact iff_of_true ⟨[], .nil, by simp⟩ (by simp)
  | cons e rest ih =>
    rw [List.forall_mem_cons, ← ih]
    constructor
    · rintro ⟨children, hentries, htoken⟩
      cases hentries with
      | @cons _ c _ others hc hothers =>
        obtain ⟨hkey, hbounds, hnode⟩ := hc
        rw [List.forall_mem_cons] at htoken
        exact ⟨⟨⟨c.1, hkey, htoken.1, hbounds⟩, c.2, hnode⟩, others, hothers, htoken.2⟩
    · rintro ⟨⟨⟨name, hkey, htoken, hbounds⟩, n, hnode⟩, others, hothers, htokens⟩
      exact ⟨(name, n) :: others, .cons ⟨hkey, hbounds, hnode⟩ hothers,
        List.forall_mem_cons.mpr ⟨htoken, htokens⟩⟩

/-- The field of children is accepted exactly if its value is, where it is given. -/
theorem exists_childrenField_iff (hnodup : (fields.map Prod.fst).Nodup) :
    (∃ children, optionalField "children" [] checkChildTable fields = .ok children)
      ↔ ∀ v, (.text "children", v) ∈ fields → ∃ children, checkChildTable v = .ok children :=
  exists_optionalField_iff hnodup

/-- The field of a slot is accepted exactly if its value is, where it is given and not null. -/
theorem exists_anyField_iff (hnodup : (fields.map Prod.fst).Nodup) :
    (∃ wild, optionalField "any" none checkAnyValue fields = .ok wild)
      ↔ ∀ v, (.text "any", v) ∈ fields → v ≠ .null → ∃ w, checkWild v = .ok w := by
  rw [exists_optionalField_iff hnodup]
  refine forall_congr' fun v => imp_congr_right fun _ => ?_
  simp only [checkAnyValue_eq_ok_iff]
  by_cases hnull : v = .null
  · exact iff_of_true ⟨none, Or.inl ⟨hnull, rfl⟩⟩ fun hne => absurd hnull hne
  · constructor
    · rintro ⟨wild, ⟨hv, -⟩ | ⟨w, -, hw⟩⟩ -
      · exact absurd hv hnull
      · exact ⟨w, hw⟩
    · intro h
      obtain ⟨w, hw⟩ := h hnull
      exact ⟨some w, Or.inr ⟨w, rfl, hw⟩⟩

/-- A node is accepted exactly if its keys are known and what stands behind them is accepted. -/
theorem exists_checkNode_iff (hnodup : (fields.map Prod.fst).Nodup) :
    (∃ n, checkNode (.table fields) = .ok n)
      ↔ (∀ f ∈ fields, ∃ key ∈ nodeFields, f.1 = .text key)
        ∧ (∀ v, (.text "children", v) ∈ fields → ∃ children, checkChildTable v = .ok children)
        ∧ ∀ v, (.text "any", v) ∈ fields → v ≠ .null → ∃ w, checkWild v = .ok w := by
  rw [← exists_childrenField_iff hnodup, ← exists_anyField_iff hnodup]
  simp only [checkNode_eq_ok_iff, Value.table.injEq, exists_eq_left']
  constructor
  · rintro ⟨n, hchildren, hwild, hknown⟩
    exact ⟨hknown, ⟨_, hchildren⟩, _, hwild⟩
  · rintro ⟨hknown, ⟨children, hchildren⟩, wild, hwild⟩
    exact ⟨.mk children wild, hchildren, hwild, hknown⟩

/-- A wild slot is accepted exactly if its keys are known and what stands behind them is accepted. -/
theorem exists_checkWild_iff (hnodup : (fields.map Prod.fst).Nodup)
    (hplain : ∀ f ∈ fields, f.2.Plain) :
    (∃ w, checkWild (.table fields) = .ok w)
      ↔ (∀ f ∈ fields, ∃ key ∈ wildFields, f.1 = .text key)
        ∧ (∀ v, (.text "children", v) ∈ fields → ∃ children, checkChildTable v = .ok children)
        ∧ (∀ v, (.text "any", v) ∈ fields → v ≠ .null → ∃ w, checkWild v = .ok w)
        ∧ (∀ v, (.text "aliases", v) ∈ fields → IsAliases v)
        ∧ ∀ v, (.text "pattern", v) ∈ fields → IsPattern v := by
  rw [← exists_childrenField_iff hnodup, ← exists_anyField_iff hnodup,
    ← exists_checkAliases_iff hnodup hplain, ← exists_checkPattern_iff hnodup]
  simp only [checkWild_eq_ok_iff, Value.table.injEq, exists_eq_left']
  constructor
  · rintro ⟨w, hchildren, hwild, haliases, hpattern, hknown⟩
    exact ⟨hknown, ⟨_, hchildren⟩, ⟨_, hwild⟩, ⟨_, haliases⟩, _, hpattern⟩
  · rintro ⟨hknown, ⟨children, hchildren⟩, ⟨wild, hwild⟩, ⟨aliases, haliases⟩, pattern, hpattern⟩
    exact ⟨(⟨aliases, pattern⟩, .mk children wild), hchildren, hwild, haliases, hpattern, hknown⟩

/-- What is right is accepted, and nothing else. The induction is on the value; at a table it is known
of everything behind the keys. -/
theorem checks_of_plain (hv : v.Plain) :
    ((∃ n, checkNode v = .ok n) ↔ IsNode v) ∧ ((∃ w, checkWild v = .ok w) ↔ IsWild v)
      ∧ ((∃ children, checkChildTable v = .ok children) ↔ IsChildTable v) := by
  induction hv with
  | table distinct _ values _ ih =>
    -- A node uses the other two below its keys, and a table of children the first.
    refine ⟨?_, ?_, ?_⟩
    · rw [exists_checkNode_iff distinct]
      constructor
      · rintro ⟨hknown, hchildren, hany⟩
        exact ⟨hknown, fun v hmem => (ih _ hmem).2.2.mp (hchildren v hmem),
          fun v hmem hne => (ih _ hmem).2.1.mp (hany v hmem hne)⟩
      · rintro ⟨hknown, hchildren, hany⟩
        exact ⟨hknown, fun v hmem => (ih _ hmem).2.2.mpr (hchildren v hmem),
          fun v hmem hne => (ih _ hmem).2.1.mpr (hany v hmem hne)⟩
    · rw [exists_checkWild_iff distinct values]
      constructor
      · rintro ⟨hknown, hchildren, hany, haliases, hpattern⟩
        exact ⟨hknown, fun v hmem => (ih _ hmem).2.2.mp (hchildren v hmem),
          fun v hmem hne => (ih _ hmem).2.1.mp (hany v hmem hne), haliases, hpattern⟩
      · rintro ⟨hknown, hchildren, hany, haliases, hpattern⟩
        exact ⟨hknown, fun v hmem => (ih _ hmem).2.2.mpr (hchildren v hmem),
          fun v hmem hne => (ih _ hmem).2.1.mpr (hany v hmem hne), haliases, hpattern⟩
    · rw [exists_checkChildTable_iff]
      constructor
      · intro h
        exact ⟨fun e he => (h e he).1, fun e he => (ih e he).1.mp (h e he).2⟩
      · rintro ⟨hnames, hnodes⟩
        exact fun e he => ⟨hnames e he, (ih e he).1.mpr (hnodes e he)⟩
  | _ =>
    refine ⟨iff_of_false ?_ nofun, iff_of_false ?_ nofun, iff_of_false ?_ nofun⟩
    · rintro ⟨n, ⟨⟩⟩
    · rintro ⟨w, ⟨⟩⟩
    · rintro ⟨children, ⟨⟩⟩

/-- A plain value is accepted exactly if it is right. -/
theorem exists_checkGrammar_iff (hv : v.Plain) : (∃ d, checkGrammar v = .ok d) ↔ IsGrammar v := by
  simp only [checkGrammar_eq_ok_iff, IsGrammar]
  cases hv with
  | @table fields distinct _ values =>
    have hnode : (∃ n, optionalField "grammar" .leaf checkNode fields = .ok n)
        ↔ ∀ v, (.text "grammar", v) ∈ fields → IsNode v := by
      rw [exists_optionalField_iff distinct]
      exact forall_congr' fun v => imp_congr_right fun hmem => (checks_of_plain (values _ hmem)).1
    simp only [Value.table.injEq, exists_eq_left', field?_eq_some_iff distinct, ← hnode]
    constructor
    · rintro ⟨d, hroot, hbounds, htoken, hd, hknown⟩
      exact ⟨⟨d.root, hroot, htoken, hbounds⟩, ⟨_, hd⟩, hknown⟩
    · rintro ⟨⟨root, hroot, htoken, hbounds⟩, ⟨n, hn⟩, hknown⟩
      exact ⟨⟨root, n⟩, hroot, hbounds, htoken, hn, hknown⟩
  | _ => simp

/-! ### What is built -/

/-- A field that may be left out has its default, or what its value is accepted as. -/
theorem of_optionalField {α : Type} {P : α → Prop} {name : String} {default a : α}
    {check : Value → Checked α} (h : optionalField name default check fields = .ok a)
    (hnodup : (fields.map Prod.fst).Nodup) (hdefault : P default)
    (hcheck : ∀ v, (.text name, v) ∈ fields → check v = .ok a → P a) : P a := by
  rcases optionalField_eq_ok_iff.mp h with ⟨-, rfl⟩ | ⟨v, hv, ha⟩
  · exact hdefault
  · exact hcheck v ((field?_eq_some_iff hnodup).mp hv) ha

/-- What is accepted as the aliases and the pattern of a slot keeps within the limits. -/
theorem slot_describable {slot : WildSlot String} (hnodup : (fields.map Prod.fst).Nodup)
    (haliases : checkAliases fields = .ok slot.aliases)
    (hpattern : checkPattern fields = .ok slot.constraint) : slot.Describable := by
  have hlist : slot.aliases.length ≤ aliasLimit ∧ (∀ a ∈ slot.aliases, IsName a)
      ∧ slot.aliases.Nodup :=
    of_optionalField (P := fun aliases : List String => aliases.length ≤ aliasLimit
      ∧ (∀ a ∈ aliases, IsName a) ∧ aliases.Nodup) haliases hnodup (by simp)
      fun v _ hv => (refine_refuseAliases_eq_ok_iff.mp hv).2
  have hread : ∀ source, slot.constraint = some source →
      patternBounds.Admit source ∧ Pattern.Readable source :=
    of_optionalField (P := fun pattern : Option String => ∀ source, pattern = some source →
      patternBounds.Admit source ∧ Pattern.Readable source) hpattern hnodup nofun
      fun v _ hv => (checkPatternValue_eq_ok_iff.mp hv).2
  exact ⟨hlist.2.1, hlist.2.2, hlist.1, hread⟩

/-- Every child that was accepted comes from an entry of the table. -/
theorem exists_entry_of_mem {entries : List (Value × Value)}
    {children : List (String × Node String)}
    (h : List.Forall₂ (fun e c => e.1 = .text c.1 ∧ nameBounds.Admit c.1 ∧ checkNode e.2 = .ok c.2)
      entries children) {c : String × Node String} (hc : c ∈ children) :
    nameBounds.Admit c.1 ∧ ∃ e ∈ entries, checkNode e.2 = .ok c.2 := by
  induction h with
  | nil => exact absurd hc List.not_mem_nil
  | @cons e c' _ _ hfirst _ ih =>
    rcases List.mem_cons.mp hc with rfl | hc
    · exact ⟨hfirst.2.1, e, List.mem_cons_self, hfirst.2.2⟩
    · obtain ⟨hbounds, e', he', hnode⟩ := ih hc
      exact ⟨hbounds, e', List.mem_cons_of_mem _ he', hnode⟩

/-- What a check accepts keeps within the limits, and no node of it has two children of one name,
because no table has two equal keys. -/
theorem sound_of_plain (hv : v.Plain) :
    (∀ n, checkNode v = .ok n → n.Describable ∧ n.NamesDistinct)
      ∧ (∀ w, checkWild v = .ok w → w.1.Describable ∧ w.2.Describable ∧ w.2.NamesDistinct)
      ∧ ∀ children, checkChildTable v = .ok children → (children.map Prod.fst).Nodup
        ∧ ∀ c ∈ children, IsName c.1 ∧ c.2.Describable ∧ c.2.NamesDistinct := by
  induction hv with
  | @table fields distinct _ values _ ih =>
    -- Nodes and slots have the same parts.
    have hparts : ∀ n : Node String,
        optionalField "children" [] checkChildTable fields = .ok n.children →
        optionalField "any" none checkAnyValue fields = .ok n.wild →
        n.Describable ∧ n.NamesDistinct := by
      intro n hchildren hwild
      have hchild : (n.children.map Prod.fst).Nodup
          ∧ ∀ c ∈ n.children, IsName c.1 ∧ c.2.Describable ∧ c.2.NamesDistinct :=
        of_optionalField (P := fun cs : List (String × Node String) => (cs.map Prod.fst).Nodup
          ∧ ∀ c ∈ cs, IsName c.1 ∧ c.2.Describable ∧ c.2.NamesDistinct) hchildren distinct
          (by simp) fun v hmem hv => (ih _ hmem).2.2 _ hv
      have hslot : ∀ w, n.wild = some w →
          w.1.Describable ∧ w.2.Describable ∧ w.2.NamesDistinct := by
        refine of_optionalField (P := fun wild : Option (WildSlot String × Node String) => ∀ w,
          wild = some w → w.1.Describable ∧ w.2.Describable ∧ w.2.NamesDistinct) hwild distinct
          nofun fun v hmem hv => ?_
        rintro w hw
        rcases checkAnyValue_eq_ok_iff.mp hv with ⟨-, hnone⟩ | ⟨w', hsome, hcheck⟩
        · rw [hnone] at hw
          cases hw
        · obtain rfl : w' = w := Option.some.inj (hsome.symm.trans hw)
          exact (ih _ hmem).2.1 _ hcheck
      refine ⟨⟨?_, fun w hw => (hslot w hw).1, fun c hc => (hchild.2 c hc).2.1,
        fun w hw => (hslot w hw).2.1⟩, ⟨hchild.1, fun c hc => (hchild.2 c hc).2.2,
        fun w hw => (hslot w hw).2.2⟩⟩
      intro name hname
      obtain ⟨c, hc, rfl⟩ := List.mem_map.mp hname
      exact (hchild.2 c hc).1
    refine ⟨fun n hn => ?_, fun w hw => ?_, fun children hchildren => ?_⟩
    · obtain ⟨_, ⟨⟩, hchildren, hwild, -⟩ := checkNode_eq_ok_iff.mp hn
      exact hparts n hchildren hwild
    · obtain ⟨_, ⟨⟩, hchildren, hwild, haliases, hpattern, -⟩ := checkWild_eq_ok_iff.mp hw
      exact ⟨slot_describable distinct haliases hpattern, hparts w.2 hchildren hwild⟩
    · obtain ⟨_, ⟨⟩, hentries, htoken⟩ := checkChildTable_eq_ok_iff.mp hchildren
      refine ⟨names_nodup_of_forall₂ (fun _ _ h => h.1) hentries distinct, fun c hc => ?_⟩
      obtain ⟨hbounds, e, he, hnode⟩ := exists_entry_of_mem hentries hc
      exact ⟨⟨htoken c hc, hbounds⟩, (ih e he).1 _ hnode⟩
  | _ => exact ⟨nofun, nofun, nofun⟩

/-- The description of a grammar that is accepted keeps within the limits. -/
theorem sound_of_checkGrammar (hv : v.Plain) {d : GrammarDescription}
    (h : checkGrammar v = .ok d) :
    IsName d.root ∧ d.node.Describable ∧ d.node.NamesDistinct := by
  obtain ⟨fields, rfl, -, hbounds, htoken, hnode, -⟩ := checkGrammar_eq_ok_iff.mp h
  cases hv with
  | table distinct _ values =>
    refine ⟨⟨htoken, hbounds⟩, of_optionalField
      (P := fun n : Node String => n.Describable ∧ n.NamesDistinct) hnode distinct ?_ ?_⟩
    · -- Where the field is left out, there is nothing below the root.
      exact ⟨⟨nofun, nofun, nofun, nofun⟩, ⟨List.nodup_nil, nofun, nofun⟩⟩
    · exact fun v hmem hn => (sound_of_plain (values _ hmem)).1 _ hn

end Description

/-! ### Grammars from values -/

open Description

/-- Among problems that are justified none tells of a repeat too large, if the value holds no text
with such a repeat. -/
theorem tooLarge?_eq_none {v : Value} {problems : List Problem}
    (hjustified : ∀ p ∈ problems, p.complaint.Justified v)
    (hcounted : ∀ source, v.Holds source → ¬ Pattern.TooLarge source) :
    tooLarge? problems = none := by
  rw [tooLarge?, List.findSome?_eq_none_iff]
  intro p hp
  have hp := hjustified p hp
  split
  · next source fault hcomplaint =>
    rw [hcomplaint] at hp
    split
    · next hcause => exact absurd ⟨fault, hp.2, hcause⟩ (hcounted source hp.1)
    · rfl
  · rfl

namespace Grammar

/-- Which values describe a grammar. For every value of plain data: a grammar can be built from it
exactly if it is right for one. If reading texts as patterns either succeeds or tells what is wrong
with the text, then every failure tells the problems of the value. A grammar that is built is sealed,
its description is what was read from the value, and from this description it is built again. -/
theorem ofValue_of_plain {v : Value} (hv : v.Plain) :
    ((∃ g, Grammar.ofValue v = .ok g) ↔ IsGrammar v)
      ∧ ((∀ source, v.Holds source → ¬ Pattern.TooLarge source) →
          ∀ failure, Grammar.ofValue v = .error failure →
            ∃ problems, failure = .description .grammar problems)
      ∧ ∀ g, Grammar.ofValue v = .ok g → g.Built ∧ g.isSealed = true
          ∧ checkGrammar v = .ok g.describe ∧ g.rebuild = .ok g := by
  -- What the first layer lets through, the second one builds.
  have hbuilds : ∀ d, checkGrammar v = .ok d →
      ofDescription d = .ok ⟨d.root, d.node.mapConstraint Pattern.reading, true⟩ := by
    intro d hd
    obtain ⟨hroot, hnode, hdistinct⟩ := sound_of_checkGrammar hv hd
    exact ofDescription_of_describable hroot hnode hdistinct
  refine ⟨?_, ?_, ?_⟩
  · rw [← exists_checkGrammar_iff hv]
    simp only [ofValue_eq_ok_iff]
    constructor
    · rintro ⟨g, d, hd, -⟩
      exact ⟨d, hd⟩
    · rintro ⟨d, hd⟩
      exact ⟨_, d, hd, hbuilds d hd⟩
  · intro hcounted failure hfailure
    rcases bind_eq_error_iff.mp hfailure with hcheck | ⟨d, hd, herror⟩
    · cases hresult : checkGrammar v with
      | ok d =>
        rw [hresult] at hcheck
        cases hcheck
      | error problems =>
        have hnone : tooLarge? problems = none :=
          tooLarge?_eq_none (checkGrammar_complains hv problems hresult) hcounted
        rw [hresult] at hcheck
        obtain rfl := Except.error.inj hcheck
        exact ⟨problems, by simp only [hnone]⟩
    · -- The second layer has nothing left to refuse.
      rw [liftChecked, mapError_eq_ok_iff] at hd
      rw [hbuilds d hd] at herror
      cases herror
  · intro g hg
    obtain ⟨d, hd, hbuilt⟩ := ofValue_eq_ok_iff.mp hg
    obtain ⟨hroot, hnode, hdistinct⟩ := sound_of_checkGrammar hv hd
    have hwf : d.node.WellFormed := hnode.wellFormed hdistinct
    have hdescribe : g.describe = d := describe_of_ofDescription hwf hbuilt
    have hagain : g.Built := .described hdistinct hbuilt
    refine ⟨hagain, ?_, hdescribe ▸ hd, ?_⟩
    · obtain ⟨-, -, rfl⟩ := (ofDescription_eq_ok_iff hwf).mp hbuilt
      rfl
    · rw [rebuild, ofValue_eq_ok_iff, hdescribe]
      exact ⟨d, checkGrammar_toValue_iff.mpr ⟨⟨hroot, hnode⟩, rfl⟩, hbuilt⟩

/-- A grammar with a slot for lower-case values, and `read` below the slot. -/
def nestedValue : Value :=
  .table [(.text "root", .text "api"),
    (.text "grammar", .table [(.text "any",
      .table [(.text "pattern", .text "^[a-z]+$"), (.text "aliases", .list [.text "own"]),
        (.text "children", .table [(.text "read", .table [(.text "any", .null)])])])])]

/-- The value of the example is plain data. -/
theorem nestedValue_plain : nestedValue.Plain := by
  have hread : (Value.table [(.text "read", .table [(.text "any", .null)])]).Plain :=
    .cons (by simp) (.cons (by simp) .null .nil) .nil
  have haliases : (Value.list [.text "own"]).Plain := .list (by simpa using .text "own")
  have hslot : (Value.table [(.text "pattern", .text "^[a-z]+$"),
      (.text "aliases", .list [.text "own"]),
      (.text "children", .table [(.text "read", .table [(.text "any", .null)])])]).Plain :=
    .cons (by simp) (.text _) (.cons (by simp) haliases (.cons (by simp) hread .nil))
  exact .cons (by simp) (.text _) (.cons (by simp) (.cons (by simp) hslot .nil) .nil)

/-- The nested value is right and describes a grammar. A root that is no name is refused as such. -/
theorem ofValue_of_plain_nested :
    IsGrammar nestedValue ∧ (∃ g, Grammar.ofValue nestedValue = .ok g ∧ g.rebuild = .ok g)
      ∧ ∃ problems, Grammar.ofValue (.table [(.text "root", .text "(")])
        = .error (.description .grammar problems) := by
  obtain ⟨hright, -, hbuilt⟩ := ofValue_of_plain nestedValue_plain
  obtain ⟨g, hg⟩ := exists_eq_ok_of_isOk
    (show (Grammar.ofValue nestedValue).isOk = true by decide +kernel)
  have hplain : (Value.table [(.text "root", .text "(")]).Plain := .cons (by simp) (.text _) .nil
  have hcounted : ∀ source, (Value.table [(.text "root", .text "(")]).Holds source →
      ¬ Pattern.TooLarge source := by
    intro source hholds
    cases hholds with
    | table hmem h =>
      rw [List.mem_singleton] at hmem
      subst hmem
      cases h
      decide +kernel
  obtain ⟨-, hrefused, -⟩ := ofValue_of_plain hplain
  cases hfailure : Grammar.ofValue (.table [(.text "root", .text "(")]) with
  | ok g' =>
    have hnot : (Grammar.ofValue (.table [(.text "root", .text "(")])).isOk = false := by
      decide +kernel
    rw [hfailure] at hnot
    cases hnot
  | error failure =>
    obtain ⟨problems, rfl⟩ := hrefused hcounted failure hfailure
    exact ⟨hright.mp ⟨g, hg⟩, ⟨g, hg, (hbuilt g hg).2.2.2⟩, problems, rfl⟩

end Grammar

end AccessScopes
