import AccessScopes.Proofs.Description.Checks
import AccessScopes.Proofs.Outcome
import AccessScopes.Proofs.Scope.Text

/-!
# `AccessScopes.Proofs.Description.AliasTables`: alias tables from descriptions

The description of an alias table gives names, each with a list of texts. The check of it looks at
the lengths of these texts. When the table is built, the targets of every name are read as scopes,
and when the table is expanded, so is the name. Not every text of the right length can be read.

* `checkAliasTable_eq_ok_iff`: what is accepted.
* `AliasTable.exists_ofDescription_iff`: a table can be built exactly if all targets can be read.
* `AliasTable.Lists`: what the table then holds.
* `AliasTable.replace_of_mem_keys` and `AliasTable.expand_of_mem_keys`: its names can always be
  replaced, and expanded if they can be read.
* `AliasTable.ofValue_of_checked`: all this for a value that is accepted.
* `AliasTable.accepted_unreadable`: an accepted value from which no table can be built, and one
  whose table cannot be expanded.
-/

set_option autoImplicit false

namespace AccessScopes

/-- Whether no key is twice in a table that stands in a field, as in all tables of callers. -/
def Value.FieldsDistinct (v : Value) : Prop :=
  ∀ fields, v = .table fields → ∀ f ∈ fields, ∀ entries, f.2 = .table entries →
    (entries.map Prod.fst).Nodup

namespace Description

variable {v : Value} {d : AliasDescription}

/-! ### What is accepted -/

/-- An entry is accepted if its name and its texts have the right lengths, in a list or a tuple. -/
theorem checkAliasEntry_eq_ok_iff {entry : Value × Value} {e : String × List String} :
    checkAliasEntry entry = .ok e ↔ (entry.1 = .text e.1 ∧ scopeBounds.Admit e.1)
      ∧ (entry.2 = .list (e.2.map .text) ∨ entry.2 = .tuple (e.2.map .text))
      ∧ ∀ s ∈ e.2, scopeBounds.Admit s := by
  simp [checkAliasEntry, checkKey_eq_ok_iff, checkTexts_eq_ok_iff]

/-- The entries of a mapping are checked one by one, and there are not too many of them. -/
theorem checkMapping_eq_ok_iff :
    checkMapping v = .ok d ↔ ∃ entries, v = .table entries
      ∧ List.Forall₂ (fun entry e => checkAliasEntry entry = .ok e) entries d
      ∧ d.length ≤ mappingLimit := by
  cases v with
  | table entries =>
    have hentries : entries.map checkAliasEntry = d.map .ok
        ↔ List.Forall₂ (fun entry e => checkAliasEntry entry = .ok e) entries d := by
      rw [← List.forall₂_eq_eq_eq, List.forall₂_map_left_iff, List.forall₂_map_right_iff]
    simp [checkMapping, hentries]
  | _ => simp [checkMapping, Checked.fail]

/-- A table is accepted if its mapping is, and if it has no other field. -/
theorem checkAliasTable_eq_ok_iff :
    checkAliasTable v = .ok d ↔ ∃ fields, v = .table fields
      ∧ optionalField "mapping" [] checkMapping fields = .ok d
      ∧ ∀ f ∈ fields, f.1 = .text "mapping" := by
  cases v with
  | table fields =>
    have hdef : checkAliasTable (.table fields)
        = ((optionalField "mapping" [] checkMapping fields).both
            (checkFields ["mapping"] fields)).map Prod.fst := rfl
    simp [hdef, checkFields_eq_ok_iff]
  | _ => simp [checkAliasTable, Checked.fail]

/-- The names of an accepted value are all different, as its keys are. -/
theorem nodup_names_of_checkAliasTable (hkeys : v.FieldsDistinct)
    (h : checkAliasTable v = .ok d) : (d.map Prod.fst).Nodup := by
  obtain ⟨fields, rfl, hmapping, -⟩ := checkAliasTable_eq_ok_iff.mp h
  rcases optionalField_eq_ok_iff.mp hmapping with ⟨-, rfl⟩ | ⟨w, hfield, hcheck⟩
  · exact List.nodup_nil
  · obtain ⟨entries, rfl, hentries, -⟩ := checkMapping_eq_ok_iff.mp hcheck
    obtain ⟨f, hf, hvalue⟩ := exists_mem_of_field? hfield
    refine names_nodup_of_forall₂ ?_ hentries (hkeys fields rfl f hf entries hvalue)
    exact fun entry e he => (checkAliasEntry_eq_ok_iff.mp he).1.1

end Description

namespace AliasTable

open Description

variable {d : AliasDescription} {t : AliasTable} {names : List String}

/-! ### Building the table -/

/-- A described name with the scopes that its targets write. -/
def readEntry (entry : String × List String) : Except ArgumentError (String × List Scope) :=
  (entry.2.mapM Scope.ofText).map fun targets => (entry.1, targets)

/-- A name and its targets, written. -/
def writeEntry (entry : String × List Scope) : String × List String :=
  (entry.1, entry.2.map Scope.text)

/-- Building a table is reading its entries, one by one. -/
theorem ofDescription_eq (d : AliasDescription) :
    ofDescription d = (d.mapM readEntry).map ofList := rfl

/-- Reading the targets of a name and writing them again are inverse to each other. -/
theorem readEntry_eq_ok_iff (x : String × List String) (y : String × List Scope) :
    readEntry x = .ok y ↔ writeEntry y = x := by
  obtain ⟨name, texts⟩ := x
  obtain ⟨name', targets⟩ := y
  simp only [readEntry, map_eq_ok_iff, mapM_eq_ok_iff_map_eq fun _ _ => Scope.ofText_eq_ok_iff,
    writeEntry, Prod.mk.injEq]
  constructor
  · rintro ⟨_, htexts, rfl, rfl⟩
    exact ⟨rfl, htexts⟩
  · rintro ⟨rfl, htexts⟩
    exact ⟨targets, htexts, rfl, rfl⟩

/-- The targets of a name can be read exactly if each is the text of a scope. -/
theorem exists_readEntry_iff {entry : String × List String} :
    (∃ e, readEntry entry = .ok e) ↔ ∀ target ∈ entry.2, Scope.WrittenBy target := by
  rw [readEntry, exists_map_iff, exists_mapM_iff]
  exact forall_congr' fun target => imp_congr_right fun _ => Scope.exists_ofText_iff

/-- A table is built from the scopes that the described targets write. -/
theorem ofDescription_eq_ok_iff :
    ofDescription d = .ok t ↔ ∃ entries, entries.map writeEntry = d ∧ ofList entries = t := by
  rw [ofDescription_eq, map_eq_ok_iff]
  simp only [mapM_eq_ok_iff_map_eq readEntry_eq_ok_iff]

/-- A table can be built exactly if all targets are texts of scopes. -/
theorem exists_ofDescription_iff :
    (∃ t, ofDescription d = .ok t)
      ↔ ∀ entry ∈ d, ∀ target ∈ entry.2, Scope.WrittenBy target := by
  rw [ofDescription_eq, exists_map_iff, exists_mapM_iff]
  exact forall_congr' fun entry => imp_congr_right fun _ => exists_readEntry_iff

/-- Only a target that cannot be read makes building fail, and the failure gives its pieces. -/
theorem exists_target_of_ofDescription {e : ArgumentError} (h : ofDescription d = .error e) :
    ∃ entry ∈ d, ∃ target ∈ entry.2, ¬ Scope.WrittenBy target
      ∧ e = .emptySegment (Text.split separator target) := by
  rw [ofDescription_eq, map_eq_error_iff] at h
  obtain ⟨entry, hentry, h⟩ := exists_error_of_mapM h
  rw [readEntry, map_eq_error_iff] at h
  obtain ⟨target, htarget, h⟩ := exists_error_of_mapM h
  exact ⟨entry, hentry, target, htarget, Scope.ofText_eq_error_iff.mp h⟩

/-! ### What the table holds -/

/-- Whether a table holds what is described: the names in their order, and for each of them every
target once, in the order in which the targets come first. -/
structure Lists (t : AliasTable) (d : AliasDescription) : Prop where
  keys : t.keys = d.map Prod.fst
  targets : ∀ entry ∈ d, (t.targets entry.1).map Scope.text = distinct entry.2

/-- A name of the table has the targets that stand with it. -/
theorem targets?_of_mem {name : String} {scopes : List Scope} (h : (name, scopes) ∈ t.entries) :
    t.targets? name = some scopes :=
  Node.lookup_of_mem t.nodup_keys h

/-- A registered name has targets. -/
theorem targets?_of_mem_keys {name : String} (h : name ∈ t.keys) :
    t.targets? name = some (t.targets name) := by
  obtain ⟨⟨name, scopes⟩, hentry, rfl⟩ := List.mem_map.mp h
  rw [targets, targets?_of_mem hentry]
  rfl

/-- A table that is built holds what is described, if no name is described twice. -/
theorem lists_of_ofDescription (hnames : (d.map Prod.fst).Nodup) (h : ofDescription d = .ok t) :
    t.Lists d := by
  obtain ⟨entries, rfl, rfl⟩ := ofDescription_eq_ok_iff.mp h
  have hfst : (entries.map writeEntry).map Prod.fst = entries.map Prod.fst := by
    rw [List.map_map]
    rfl
  -- The names are different, so no entry replaces another one.
  have hentries : (ofList entries).entries = entries.map fun e => (e.1, distinct e.2) := by
    refine putAll_eq_self ?_
    rw [hfst] at hnames
    rw [List.map_map]
    exact hnames
  constructor
  · rw [AliasTable.keys, hentries, hfst, List.map_map]
    rfl
  · intro entry hentry
    obtain ⟨e, he, rfl⟩ := List.mem_map.mp hentry
    have hmem : (e.1, distinct e.2) ∈ (ofList entries).entries := by
      rw [hentries]
      exact List.mem_map_of_mem he
    have htargets : (ofList entries).targets e.1 = distinct e.2 := by
      rw [AliasTable.targets, targets?_of_mem hmem]
      rfl
    show ((ofList entries).targets e.1).map Scope.text = distinct (e.2.map Scope.text)
    rw [htargets, distinct_map fun _ _ => Scope.eq_of_text_eq]

/-! ### Using the table -/

/-- Registered names can always be replaced, by their targets in order. -/
theorem replace_of_mem_keys (h : ∀ name ∈ names, name ∈ t.keys) :
    t.replace names = .ok (.ofList (names.flatMap t.targets)) := by
  have hnames : names.mapM t.replaceName = .ok (names.map t.targets) := by
    rw [mapM_eq_ok_iff, List.map_map]
    refine List.map_congr_left fun name hname => ?_
    rw [replaceName, targets?_of_mem_keys (h name hname)]
    rfl
  rw [replace, hnames]
  show Except.ok (ScopeSet.ofList (names.map t.targets).flatten) = _
  rw [List.flatMap_def]

/-- Registered names are expanded to themselves and their targets, if they can be read. -/
theorem expand_of_mem_keys (h : ∀ name ∈ names, name ∈ t.keys) :
    t.expand names = (names.mapM Scope.ofText).map fun scopes =>
      .ofList (scopes ++ names.flatMap t.targets) := by
  have hnames : names.filter t.contains = names := by
    rw [List.filter_eq_self]
    intro name hname
    rw [contains, targets?_of_mem_keys (h name hname)]
    rfl
  rw [expand, hnames]
  rfl

/-- A list of texts holds these texts as names. -/
theorem names_list_text (names : List String) :
    (Value.list (names.map .text)).names = .ok names := by
  show Except.ok ((names.map Value.text).map Value.plain) = _
  rw [List.map_map]
  exact congrArg Except.ok (List.map_id names)

/-- The same for a list of texts as a caller's value: registered names can be replaced. -/
theorem replaceValue_of_mem_keys (h : ∀ name ∈ names, name ∈ t.keys) :
    t.replaceValue (.list (names.map .text)) = .ok (.ofList (names.flatMap t.targets)) := by
  rw [replaceValue, names_list_text]
  show liftArgument (t.replace names) = _
  rw [replace_of_mem_keys h]
  rfl

/-- The same for a list of texts as a caller's value: registered names are expanded if they can be
read. -/
theorem expandValue_of_mem_keys (h : ∀ name ∈ names, name ∈ t.keys) :
    t.expandValue (.list (names.map .text))
      = liftArgument ((names.mapM Scope.ofText).map fun scopes =>
        .ofList (scopes ++ names.flatMap t.targets)) := by
  rw [expandValue, names_list_text, ← expand_of_mem_keys h]
  rfl

/-- A list of registered names can be expanded exactly if each is the text of a scope. -/
theorem exists_expandValue_iff (h : ∀ name ∈ names, name ∈ t.keys) :
    (∃ a, t.expandValue (.list (names.map .text)) = .ok a)
      ↔ ∀ name ∈ names, Scope.WrittenBy name := by
  simp only [expandValue_of_mem_keys h, liftArgument, mapError_eq_ok_iff]
  rw [exists_map_iff, exists_mapM_iff]
  exact forall_congr' fun name => imp_congr_right fun _ => Scope.exists_ofText_iff

/-- What an accepted description is good for. Take a value that is accepted as the description `d`.

1. A table can be built from it exactly if no target in `d` has an empty piece between its dots.
   Otherwise the failure gives the pieces of a target that has one.
2. The table holds what `d` says. Every list of its names can be replaced, which gives all their
   targets. It can be expanded exactly if none of these names has an empty piece, and then gives the
   scopes that the names write and all their targets. -/
theorem ofValue_of_checked {v : Value} (hkeys : v.FieldsDistinct)
    (hcheck : checkAliasTable v = .ok d) :
    ((∃ t, ofValue v = .ok t) ↔ ∀ entry ∈ d, ∀ target ∈ entry.2, Scope.WrittenBy target)
      ∧ (∀ failure, ofValue v = .error failure → ∃ entry ∈ d, ∃ target ∈ entry.2,
          ¬ Scope.WrittenBy target
            ∧ failure = .argument (.emptySegment (Text.split separator target)))
      ∧ ∀ t, ofValue v = .ok t → t.Lists d ∧ ∀ names, (∀ name ∈ names, name ∈ t.keys) →
          t.replaceValue (.list (names.map .text)) = .ok (.ofList (names.flatMap t.targets))
            ∧ ((∃ a, t.expandValue (.list (names.map .text)) = .ok a)
              ↔ ∀ name ∈ names, Scope.WrittenBy name)
            ∧ ∀ scopes : List Scope, scopes.map Scope.text = names →
              t.expandValue (.list (names.map .text))
                = .ok (.ofList (scopes ++ names.flatMap t.targets)) := by
  have hvalue : ofValue v = liftArgument (ofDescription d) := by
    rw [ofValue, hcheck]
    rfl
  rw [hvalue]
  refine ⟨?_, ?_, ?_⟩
  · simp only [liftArgument, mapError_eq_ok_iff]
    exact exists_ofDescription_iff
  · intro failure hfailure
    cases hbuilt : ofDescription d with
    | ok t =>
      rw [hbuilt] at hfailure
      cases hfailure
    | error e =>
      rw [hbuilt] at hfailure
      obtain rfl : Failure.argument e = failure := Except.error.inj hfailure
      obtain ⟨entry, hentry, target, htarget, hnot, rfl⟩ := exists_target_of_ofDescription hbuilt
      exact ⟨entry, hentry, target, htarget, hnot, rfl⟩
  · intro t ht
    have hbuilt : ofDescription d = .ok t := mapError_eq_ok_iff.mp ht
    have hnames : (d.map Prod.fst).Nodup := nodup_names_of_checkAliasTable hkeys hcheck
    refine ⟨lists_of_ofDescription hnames hbuilt, fun names hmem => ?_⟩
    refine ⟨replaceValue_of_mem_keys hmem, exists_expandValue_iff hmem, fun scopes hscopes => ?_⟩
    have hread : names.mapM Scope.ofText = .ok scopes :=
      (mapM_eq_ok_iff_map_eq fun _ _ => Scope.ofText_eq_ok_iff).mpr hscopes
    rw [expandValue_of_mem_keys hmem, hread]
    rfl

/-- The name `admin` with a target that is given twice. The table keeps it once, and the name can be
replaced and expanded. -/
theorem ofValue_of_checked_admin :
    let v : Value := .table [(.text "mapping", .table [(.text "admin",
      .list [.text "api.me", .text "api.products", .text "api.me"])])]
    let d : AliasDescription := [("admin", ["api.me", "api.products", "api.me"])]
    v.FieldsDistinct ∧ checkAliasTable v = .ok d
      ∧ ∃ t, ofValue v = .ok t ∧ t.keys = ["admin"]
        ∧ (t.targets "admin").map Scope.text = ["api.me", "api.products"]
        ∧ (∃ a, t.replaceValue (.list [.text "admin", .text "admin"]) = .ok a)
        ∧ ∃ a, t.expandValue (.list [.text "admin"]) = .ok a := by
  intro v d
  have hkeys : v.FieldsDistinct := by
    intro fields hfields f hf entries hentries
    obtain rfl : _ = fields := Value.table.inj hfields
    rw [List.mem_singleton.mp hf] at hentries
    obtain rfl : _ = entries := Value.table.inj hentries
    simp
  have hcheck : checkAliasTable v = .ok d := rfl
  obtain ⟨hbuilds, -, htable⟩ := ofValue_of_checked hkeys hcheck
  obtain ⟨t, ht⟩ := hbuilds.mpr (by decide)
  obtain ⟨hlists, huse⟩ := htable t ht
  have hkeys' : t.keys = ["admin"] := hlists.keys
  have hmem : ∀ name ∈ ["admin", "admin"], name ∈ t.keys := by
    rw [hkeys']
    decide
  have hone : ∀ name ∈ ["admin"], name ∈ t.keys := by
    rw [hkeys']
    decide
  refine ⟨hkeys, hcheck, t, ht, hkeys', hlists.targets _ List.mem_cons_self, ?_, ?_⟩
  · exact ⟨_, (huse ["admin", "admin"] hmem).1⟩
  · exact (huse ["admin"] hone).2.1.mpr (by decide)

/-- A target with two dots together is accepted, but no table can be built. As a name, the same text
is accepted too; a table can be built, but its only name cannot be expanded. -/
theorem accepted_unreadable :
    let badTarget : Value := .table [(.text "mapping", .table [(.text "a", .list [.text "x..y"])])]
    let badName : Value := .table [(.text "mapping", .table [(.text "x..y", .list [.text "a"])])]
    let failure : Failure := .argument (.emptySegment ["x", "", "y"])
    checkAliasTable badTarget = .ok [("a", ["x..y"])]
      ∧ ofValue badTarget = .error failure
      ∧ checkAliasTable badName = .ok [("x..y", ["a"])]
      ∧ ∃ t, ofValue badName = .ok t ∧ t.keys = ["x..y"]
        ∧ t.expandValue (.list [.text "x..y"]) = .error failure := by
  intro badTarget badName failure
  exact ⟨rfl, rfl, rfl, _, rfl, rfl, rfl⟩

end AliasTable

end AccessScopes
