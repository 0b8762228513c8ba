import AccessScopes.Description.Validation
import AccessScopes.Proofs.Grammar.Constraint

/-!
# `AccessScopes.Proofs.Description.Checks`: what the checks of a description accept

One lemma for each check says when it succeeds and with which result. The checks of nodes call each
other; their lemmas say one level, in terms of the checks one level below.

* `checkText_eq_ok_iff`, `checkTexts_eq_ok_iff` and `checkPatternValue_eq_ok_iff`: the contents of
  fields.
* `field?_eq_some_iff`: where no two keys are equal, the value of a field is the one that stands
  with its name.
* `checkNode_eq_ok_iff`, `checkWild_eq_ok_iff` and `checkChildTable_eq_ok_iff`: nodes, wild slots
  and tables of children. `checkGrammar_eq_ok_iff`: grammars.
-/

set_option autoImplicit false

namespace AccessScopes.Description

variable {v : Value} {fields : List (Value × Value)}

/-! ### Contents -/

/-- Whether the number of characters of a text is within bounds. -/
def Bounds.Admit (bounds : Bounds) (s : String) : Prop :=
  bounds.least ≤ s.length ∧ s.length ≤ bounds.most

/-- A text is accepted as it is, if its length is within bounds. -/
theorem checkText_eq_ok_iff {bounds : Bounds} {s : String} :
    checkText bounds v = .ok s ↔ v = .text s ∧ bounds.Admit s := by
  cases v with
  | text t =>
    rw [checkText, Value.text.injEq, Bounds.Admit]
    split
    · next hshort =>
      refine iff_of_false nofun ?_
      rintro ⟨rfl, hleast, -⟩
      omega
    · split
      · next hlong =>
        refine iff_of_false nofun ?_
        rintro ⟨rfl, -, hmost⟩
        omega
      · next hshort hlong =>
        rw [Except.ok.injEq]
        constructor
        · rintro rfl
          exact ⟨rfl, by omega, by omega⟩
        · exact fun h => h.1
  | _ => exact iff_of_false nofun nofun

/-- A check of every item is a check of all, whatever the items are told by. -/
theorem mapIdx_eq_map_ok_iff {P : String → Prop} {items : List Value} {texts : List String}
    {f : Nat → Value → Checked String} (hf : ∀ i item s, f i item = .ok s ↔ item = .text s ∧ P s) :
    items.mapIdx f = texts.map .ok ↔ items = texts.map .text ∧ ∀ s ∈ texts, P s := by
  induction items generalizing texts f with
  | nil => cases texts <;> simp
  | cons item rest ih =>
    cases texts with
    | nil => simp
    | cons s others =>
      rw [List.mapIdx_cons, List.map_cons, List.map_cons, List.cons.injEq, List.cons.injEq, hf,
        ih fun i => hf (i + 1), List.forall_mem_cons]
      exact and_and_and_comm

/-- Items that are all checked as texts within bounds. -/
theorem all_checkText_eq_ok_iff {bounds : Bounds} {items : List Value} {texts : List String} :
    Checked.all (items.mapIdx fun i item => (checkText bounds item).under (.index i)) = .ok texts
      ↔ items = texts.map .text ∧ ∀ s ∈ texts, bounds.Admit s := by
  rw [Checked.all_eq_ok]
  exact mapIdx_eq_map_ok_iff fun i item s => by rw [Checked.under_eq_ok, checkText_eq_ok_iff]

/-- A list of texts within bounds, and not too many of them. A tuple is taken as well. -/
theorem checkTexts_eq_ok_iff {bounds : Bounds} {limit : Option Nat} {texts : List String} :
    checkTexts bounds limit v = .ok texts
      ↔ (v = .list (texts.map .text) ∨ v = .tuple (texts.map .text))
        ∧ (∀ n, limit = some n → texts.length ≤ n) ∧ ∀ s ∈ texts, bounds.Admit s := by
  have hitems : ∀ items : List Value,
      (if limit.any (· < items.length) then .fail .tooMany
        else Checked.all (items.mapIdx fun i item => (checkText bounds item).under (.index i)))
          = .ok texts
        ↔ items = texts.map .text ∧ (∀ n, limit = some n → texts.length ≤ n)
          ∧ ∀ s ∈ texts, bounds.Admit s := by
    intro items
    -- The items are counted before they are read, but there are as many of them as texts.
    have hlimit : items = texts.map .text →
        (limit.any (· < items.length) = false ↔ ∀ n, limit = some n → texts.length ≤ n) := by
      rintro rfl
      cases limit <;> simp
    split
    · next htoo =>
      refine iff_of_false nofun ?_
      rintro ⟨hmap, hcount, -⟩
      rw [(hlimit hmap).mpr hcount] at htoo
      cases htoo
    · next hfew =>
      rw [all_checkText_eq_ok_iff]
      constructor
      · rintro ⟨hmap, hbounds⟩
        exact ⟨hmap, (hlimit hmap).mp (by simpa using hfew), hbounds⟩
      · rintro ⟨hmap, -, hbounds⟩
        exact ⟨hmap, hbounds⟩
  cases v with
  | list items => simp [checkTexts, hitems]
  | tuple items => simp [checkTexts, hitems]
  | _ => exact iff_of_false nofun (by simp)

/-- A name is not refused exactly if it is a token. -/
theorem refuseName_eq_none_iff {name : String} : refuseName name = none ↔ isToken name = true := by
  simp [refuseName]

/-- Names are not refused exactly if all of them are tokens. -/
theorem refuseNames_eq_none_iff {names : List String} :
    refuseNames names = none ↔ ∀ name ∈ names, isToken name = true := by
  simp [refuseNames, List.findSome?_eq_none_iff, refuseName_eq_none_iff]

/-- Aliases are not refused exactly if they are different tokens. -/
theorem refuseAliases_eq_none_iff {aliases : List String} :
    refuseAliases aliases = none ↔ (∀ a ∈ aliases, isToken a = true) ∧ aliases.Nodup := by
  rw [refuseAliases, ← refuseNames_eq_none_iff]
  cases refuseNames aliases with
  | some complaint => simp
  | none => simp

/-- The text of a pattern is not refused exactly if it can be read as a pattern. -/
theorem refusePattern_eq_none_iff {source : String} :
    refusePattern source = none ↔ Pattern.Readable source := by
  unfold refusePattern Pattern.Readable
  cases Pattern.ofText? source false with
  | ok p => simp
  | error fault => simp

/-- A pattern is nothing, or a text within bounds that can be read. -/
theorem checkPatternValue_eq_ok_iff {pattern : Option String} :
    checkPatternValue v = .ok pattern
      ↔ v = ((pattern.map Value.text).getD .null)
        ∧ ∀ source, pattern = some source → patternBounds.Admit source ∧ Pattern.Readable source := by
  have hvalue : ∀ v, ((checkText patternBounds v).refine refusePattern).map some = .ok pattern
      ↔ ∃ source, pattern = some source ∧ v = .text source ∧ patternBounds.Admit source
        ∧ Pattern.Readable source := by
    intro v
    simp only [Checked.map_eq_ok, Checked.refine_eq_ok, checkText_eq_ok_iff,
      refusePattern_eq_none_iff]
    constructor
    · rintro ⟨source, ⟨⟨hv, hbounds⟩, hread⟩, hsome⟩
      exact ⟨source, hsome.symm, hv, hbounds, hread⟩
    · rintro ⟨source, hsome, hv, hbounds, hread⟩
      exact ⟨source, ⟨⟨hv, hbounds⟩, hread⟩, hsome.symm⟩
  cases pattern with
  | none =>
    cases v with
    | null => simp [checkPatternValue]
    | _ => simp [checkPatternValue, hvalue]
  | some source =>
    cases v with
    | null => simp [checkPatternValue]
    | text t => simp [checkPatternValue, hvalue]
    | _ => simp [checkPatternValue, hvalue]

/-- A key is accepted if it is a text whose length is within bounds. -/
theorem checkKey_eq_ok_iff {bounds : Bounds} {key : Value} {s : String} :
    checkKey bounds key = .ok s ↔ key = .text s ∧ bounds.Admit s := by
  rw [checkKey, Checked.under_eq_ok, Checked.under_eq_ok, checkText_eq_ok_iff]

/-! ### Fields -/

/-- Where no two keys are equal, a field has the value that stands with its name. -/
theorem field?_eq_some_iff {name : String} (hnodup : (fields.map Prod.fst).Nodup) :
    field? name fields = some v ↔ (.text name, v) ∈ fields := by
  induction fields with
  | nil => simp [field?]
  | cons first rest ih =>
    obtain ⟨key, value⟩ := first
    rw [List.map_cons, List.nodup_cons] at hnodup
    have hrest := ih hnodup.2
    by_cases hkey : key = .text name
    · -- No later key is equal, so this entry is the only one of the name.
      subst hkey
      have hnot : (Value.text name, v) ∉ rest := fun hmem =>
        hnodup.1 (List.mem_map.mpr ⟨_, hmem, rfl⟩)
      simp [field?, hnot, eq_comm]
    · have hstep : field? name ((key, value) :: rest) = field? name rest := by
        cases key with
        | text k =>
          rw [field?, if_neg]
          rintro rfl
          exact hkey rfl
        | _ => rfl
      rw [hstep, hrest, List.mem_cons, Prod.mk.injEq]
      simp [Ne.symm hkey]

/-- The value of a field stands in one of the fields. -/
theorem exists_mem_of_field? {name : String} (h : field? name fields = some v) :
    ∃ f ∈ fields, f.2 = v := by
  induction fields with
  | nil => cases h
  | cons first rest ih =>
    obtain ⟨key, value⟩ := first
    have hrest : field? name rest = some v → ∃ f ∈ (key, value) :: rest, f.2 = v := by
      intro hv
      obtain ⟨f, hf, heq⟩ := ih hv
      exact ⟨f, List.mem_cons_of_mem _ hf, heq⟩
    cases key with
    | text k =>
      rw [field?] at h
      split at h
      · exact ⟨_, List.mem_cons_self, Option.some.inj h⟩
      · exact hrest h
    | _ => exact hrest h

/-- A field that may be left out: it is not there and has its default, or its value is checked. -/
theorem optionalField_eq_ok_iff {α : Type} {name : String} {default a : α}
    {check : Value → Checked α} :
    optionalField name default check fields = .ok a
      ↔ field? name fields = none ∧ a = default
        ∨ ∃ v, field? name fields = some v ∧ check v = .ok a := by
  rw [optionalField]
  cases field? name fields with
  | none => simp [eq_comm]
  | some value => simp

/-- A field that may be left out is in order if every value under its name is. -/
theorem exists_optionalField_iff {α : Type} {name : String} {default : α}
    {check : Value → Checked α} (hnodup : (fields.map Prod.fst).Nodup) :
    (∃ a, optionalField name default check fields = .ok a)
      ↔ ∀ v, (.text name, v) ∈ fields → ∃ a, check v = .ok a := by
  simp only [optionalField_eq_ok_iff, ← field?_eq_some_iff hnodup]
  cases field? name fields with
  | none => simp
  | some value => simp

/-- No field is unknown exactly if each key is one of the known ones. -/
theorem unknownFields_eq_nil_iff {known : List String} :
    unknownFields known fields = [] ↔ ∀ f ∈ fields, ∃ key ∈ known, f.1 = .text key := by
  induction fields with
  | nil => simp [unknownFields]
  | cons first rest ih =>
    obtain ⟨key, value⟩ := first
    rw [List.forall_mem_cons]
    cases key with
    | text k =>
      rw [unknownFields]
      split
      · next hknown =>
        have hmem : k ∈ known := by simpa using hknown
        simp [ih, hmem]
      · next hunknown =>
        have hmem : k ∉ known := by simpa using hunknown
        simp [hmem]
    -- Only a text can be the name of a field.
    | _ => simp [unknownFields]

/-- The check for unknown fields accepts exactly the known ones. -/
theorem checkFields_eq_ok_iff {known : List String} {u : Unit} :
    checkFields known fields = .ok u ↔ ∀ f ∈ fields, ∃ key ∈ known, f.1 = .text key := by
  rw [← unknownFields_eq_nil_iff]
  unfold checkFields
  cases unknownFields known fields with
  | nil => simp
  | cons problem problems => simp

/-- Where the keys of a table are names that were read from it, different keys give different
names. -/
theorem names_nodup_of_forall₂ {α : Type} {R : Value × Value → String × α → Prop}
    {named : List (String × α)} (hkey : ∀ f c, R f c → f.1 = .text c.1)
    (h : List.Forall₂ R fields named) (hnodup : (fields.map Prod.fst).Nodup) :
    (named.map Prod.fst).Nodup := by
  have hkeys : fields.map Prod.fst = (named.map Prod.fst).map Value.text := by
    clear hnodup
    induction h with
    | nil => rfl
    | cons hc _ ih => rw [List.map_cons, List.map_cons, List.map_cons, hkey _ _ hc, ih]
  rw [hkeys] at hnodup
  exact hnodup.of_map _

/-! ### Nodes -/

/-- Children are an optional field of a node. -/
theorem checkChildren_eq (fields : List (Value × Value)) :
    checkChildren fields = optionalField "children" [] checkChildTable fields := by
  induction fields with
  | nil => rw [checkChildren]; rfl
  | cons first rest ih =>
    obtain ⟨key, value⟩ := first
    cases key with
    | text k =>
      rw [checkChildren, optionalField, field?]
      split
      · rfl
      · exact ih
    | _ =>
      rw [checkChildren, ih]
      · rfl
      · nofun

/-- A wild slot is an optional field of a node. -/
theorem checkAny_eq (fields : List (Value × Value)) :
    checkAny fields = optionalField "any" none checkAnyValue fields := by
  induction fields with
  | nil => rw [checkAny]; rfl
  | cons first rest ih =>
    obtain ⟨key, value⟩ := first
    cases key with
    | text k =>
      rw [checkAny, optionalField, field?]
      split
      · rfl
      · exact ih
    | _ =>
      rw [checkAny, ih]
      · rfl
      · nofun

/-- What is given for a slot is nothing or a slot. -/
theorem checkAnyValue_eq_ok_iff {wild : Option (WildSlot String × Node String)} :
    checkAnyValue v = .ok wild
      ↔ v = .null ∧ wild = none ∨ ∃ w, wild = some w ∧ checkWild v = .ok w := by
  cases v with
  | null => simp [checkAnyValue, checkWild, Checked.fail, eq_comm]
  | table fields =>
    rw [checkAnyValue, Checked.map_eq_ok]
    simp [checkWild, and_comm, eq_comm]
  | _ => simp [checkAnyValue, checkWild, Checked.fail]

/-- A node is accepted if its children and its slot are, and if it has no other field. -/
theorem checkNode_eq_ok_iff {n : Node String} :
    checkNode v = .ok n ↔ ∃ fields, v = .table fields
      ∧ optionalField "children" [] checkChildTable fields = .ok n.children
      ∧ optionalField "any" none checkAnyValue fields = .ok n.wild
      ∧ ∀ f ∈ fields, ∃ key ∈ nodeFields, f.1 = .text key := by
  obtain ⟨children, wild⟩ := n
  cases v with
  | table fields =>
    simp only [checkNode, joinNode, Checked.map_eq_ok, Checked.both_eq_ok, checkChildren_eq,
      checkAny_eq, checkFields_eq_ok_iff, Prod.exists, Node.mk.injEq, Value.table.injEq,
      exists_eq_left', Node.children, Node.wild]
    constructor
    · rintro ⟨_, _, _, ⟨⟨hchildren, hwild⟩, hknown⟩, rfl, rfl⟩
      exact ⟨hchildren, hwild, hknown⟩
    · rintro ⟨hchildren, hwild, hknown⟩
      exact ⟨_, _, (), ⟨⟨hchildren, hwild⟩, hknown⟩, rfl, rfl⟩
  | _ => simp [checkNode, Checked.fail]

/-- A slot is accepted if its subtree, its aliases and its pattern are, with no other field. -/
theorem checkWild_eq_ok_iff {w : WildSlot String × Node String} :
    checkWild v = .ok w ↔ ∃ fields, v = .table fields
      ∧ optionalField "children" [] checkChildTable fields = .ok w.2.children
      ∧ optionalField "any" none checkAnyValue fields = .ok w.2.wild
      ∧ checkAliases fields = .ok w.1.aliases ∧ checkPattern fields = .ok w.1.constraint
      ∧ ∀ f ∈ fields, ∃ key ∈ wildFields, f.1 = .text key := by
  obtain ⟨⟨aliases, constraint⟩, ⟨children, wild⟩⟩ := w
  cases v with
  | table fields =>
    simp only [checkWild, joinWild, Checked.map_eq_ok, Checked.both_eq_ok, checkChildren_eq,
      checkAny_eq, checkFields_eq_ok_iff, Prod.exists, Prod.mk.injEq, WildSlot.mk.injEq,
      Node.mk.injEq, Value.table.injEq, exists_eq_left', Node.children, Node.wild]
    constructor
    · rintro ⟨_, _, _, _, _, ⟨⟨⟨⟨hchildren, hwild⟩, haliases⟩, hpattern⟩, hknown⟩,
        ⟨rfl, rfl⟩, rfl, rfl⟩
      exact ⟨hchildren, hwild, haliases, hpattern, hknown⟩
    · rintro ⟨hchildren, hwild, haliases, hpattern, hknown⟩
      exact ⟨_, _, _, _, (), ⟨⟨⟨⟨hchildren, hwild⟩, haliases⟩, hpattern⟩, hknown⟩,
        ⟨rfl, rfl⟩, rfl, rfl⟩
  | _ => simp [checkWild, Checked.fail]

/-- The entries of a table of nodes are checked one by one. -/
theorem checkChildEntries_eq_ok_iff {entries : List (Value × Value)}
    {children : List (String × Node String)} :
    checkChildEntries entries = .ok children
      ↔ List.Forall₂ (fun e c => e.1 = .text c.1 ∧ nameBounds.Admit c.1 ∧ checkNode e.2 = .ok c.2)
        entries children := by
  induction entries generalizing children with
  | nil =>
    rw [checkChildEntries, List.forall₂_nil_left_iff, Except.ok.injEq]
    exact eq_comm
  | cons first rest ih =>
    obtain ⟨key, value⟩ := first
    simp only [checkChildEntries, Checked.map_eq_ok, Checked.both_eq_ok, Checked.under_eq_ok,
      checkKey_eq_ok_iff, ih, List.forall₂_cons_left_iff, Prod.exists, and_assoc]
    constructor
    · rintro ⟨name, child, others, hkey, hbounds, hchild, hothers, rfl⟩
      exact ⟨name, child, others, hkey, hbounds, hchild, hothers, rfl⟩
    · rintro ⟨name, child, others, hkey, hbounds, hchild, hothers, rfl⟩
      exact ⟨name, child, others, hkey, hbounds, hchild, hothers, rfl⟩

/-- A table of children is accepted entry by entry, and all its names have to be tokens. -/
theorem checkChildTable_eq_ok_iff {children : List (String × Node String)} :
    checkChildTable v = .ok children ↔ ∃ entries, v = .table entries
      ∧ List.Forall₂ (fun e c => e.1 = .text c.1 ∧ nameBounds.Admit c.1 ∧ checkNode e.2 = .ok c.2)
        entries children
      ∧ ∀ c ∈ children, isToken c.1 = true := by
  cases v with
  | table entries =>
    simp [checkChildTable, checkChildEntries_eq_ok_iff, refuseNames_eq_none_iff]
  | _ => simp [checkChildTable, Checked.fail]

/-- The name of the root, which a description must have. -/
def checkRoot (fields : List (Value × Value)) : Checked String :=
  match field? "root" fields with
  | none => (Checked.fail .missingField).under (.key "root")
  | some value => ((checkText nameBounds value).refine refuseName).under (.key "root")

/-- The name of a root has to be given, as a token whose length is within bounds. -/
theorem checkRoot_eq_ok_iff {name : String} :
    checkRoot fields = .ok name ↔ field? "root" fields = some (.text name)
      ∧ nameBounds.Admit name ∧ isToken name = true := by
  rw [checkRoot]
  cases field? "root" fields with
  | none =>
    constructor
    · intro h
      cases h
    · rintro ⟨h, -⟩
      cases h
  | some value =>
    simp only [Checked.under_eq_ok, Checked.refine_eq_ok, checkText_eq_ok_iff,
      refuseName_eq_none_iff, Option.some.injEq, and_assoc]

/-- A grammar is checked by its root, its nodes and the names of its fields. -/
theorem checkGrammar_table (fields : List (Value × Value)) :
    checkGrammar (.table fields)
      = (((checkRoot fields).both (optionalField "grammar" .leaf checkNode fields)).both
          (checkFields ["root", "grammar"] fields)).map fun parts => ⟨parts.1.1, parts.1.2⟩ :=
  rfl

/-- A grammar is accepted if its root and its nodes are, and if it has no other field. -/
theorem checkGrammar_eq_ok_iff {d : GrammarDescription} :
    checkGrammar v = .ok d ↔ ∃ fields, v = .table fields
      ∧ field? "root" fields = some (.text d.root) ∧ nameBounds.Admit d.root
      ∧ isToken d.root = true
      ∧ optionalField "grammar" .leaf checkNode fields = .ok d.node
      ∧ ∀ f ∈ fields, ∃ key ∈ ["root", "grammar"], f.1 = .text key := by
  obtain ⟨root, node⟩ := d
  cases v with
  | table fields =>
    simp only [checkGrammar_table, map_eq_ok_iff, Checked.both_eq_ok, checkRoot_eq_ok_iff,
      checkFields_eq_ok_iff, Prod.exists, Value.table.injEq, exists_eq_left']
    constructor
    · rintro ⟨_, _, _, ⟨⟨⟨hname, hbounds, htoken⟩, hnode⟩, hknown⟩, hd⟩
      cases hd
      exact ⟨hname, hbounds, htoken, hnode, hknown⟩
    · rintro ⟨hname, hbounds, htoken, hnode, hknown⟩
      exact ⟨root, node, (), ⟨⟨⟨hname, hbounds, htoken⟩, hnode⟩, hknown⟩, rfl⟩
  | _ => simp [checkGrammar, Checked.fail]

end AccessScopes.Description
