import AccessScopes.Proofs.Description.AliasTables
import AccessScopes.Proofs.ScopeSet.Merging
import AccessScopes.Proofs.ScopeSet.NormalForm

/-!
# `AccessScopes.Proofs.AliasTable.Translation`: what names are translated to

An alias table translates lists of names in two ways that look alike. `AliasTable.replace` puts the
targets of a registered name in its place, and keeps a name that is not registered. It has to read
the latter as a scope, but never the former. `AliasTable.expand` keeps a registered name and adds its
targets, and drops a name that is not registered. So it is the other names that it has to read.

* `Becomes` and `Implies` say what a single name is translated to. `mem_replace_iff` and
  `mem_expand_iff` say that a list of names is translated name by name.
* `exists_replace_iff` and `exists_expand_iff`: which lists can be translated.
* `replace_append`: two lists, one behind the other, are translated to the merged sets.
* `replace_replace` and `same_expand_expand`: if no target is a name itself, then translating twice
  is translating once.
* `translation_laws` has all this for the lists that callers hand in.
-/

set_option autoImplicit false

namespace AccessScopes

/-- A call that was lifted is refused as an argument whenever it does not succeed. -/
theorem exists_argument_iff {α : Type} {result : Except ArgumentError α} :
    (∃ e, liftArgument result = .error (.argument e)) ↔ ¬ ∃ a, result = .ok a := by
  rw [← exists_error_iff]
  cases result with
  | ok a => exact iff_of_false (fun ⟨_, h⟩ => nomatch h) (fun ⟨_, h⟩ => nomatch h)
  | error e => exact iff_of_true ⟨e, rfl⟩ ⟨e, rfl⟩

namespace AliasTable

variable {t : AliasTable} {name : String} {names : List String} {s : Scope} {a b : ScopeSet}

/-! ### A single name -/

/-- Whether a name is replaced by a scope: by a target, or if it is not registered by the scope that
it writes. -/
def Becomes (t : AliasTable) (name : String) (s : Scope) : Prop :=
  (name ∈ t.keys ∧ s ∈ t.targets name) ∨ (name ∉ t.keys ∧ s.text = name)

/-- Whether a name is expanded to a scope: it is registered, and the scope is a target or the one that
the name writes. -/
def Implies (t : AliasTable) (name : String) (s : Scope) : Prop :=
  name ∈ t.keys ∧ (s.text = name ∨ s ∈ t.targets name)

/-- Whether no target is registered as a name. -/
def Unchained (t : AliasTable) : Prop :=
  ∀ entry ∈ t.entries, ∀ s ∈ entry.2, s.text ∉ t.keys

instance (t : AliasTable) : Decidable t.Unchained :=
  inferInstanceAs (Decidable (∀ entry ∈ t.entries, ∀ s ∈ entry.2, s.text ∉ t.keys))

/-- In an unchained table no target is a name itself. -/
theorem Unchained.not_mem_keys (ht : t.Unchained) (hs : s ∈ t.targets name) : s.text ∉ t.keys := by
  rw [targets] at hs
  cases hfound : t.targets? name with
  | none =>
    rw [hfound] at hs
    cases hs
  | some scopes =>
    rw [hfound] at hs
    exact ht (name, scopes) (Node.mem_of_lookup hfound) s hs

/-- A name that is not registered has no targets. -/
theorem targets?_of_not_mem_keys (h : name ∉ t.keys) : t.targets? name = none := by
  rw [targets?, List.lookup_eq_none_iff]
  intro entry hentry
  rw [bne_iff_ne]
  rintro rfl
  exact h (List.mem_map_of_mem hentry)

/-- A name is registered if it is among the keys. -/
theorem contains_iff : t.contains name = true ↔ name ∈ t.keys := by
  rw [contains]
  by_cases h : name ∈ t.keys
  · rw [targets?_of_mem_keys h]
    exact iff_of_true rfl h
  · rw [targets?_of_not_mem_keys h]
    exact iff_of_false Bool.false_ne_true h

/-- A registered name is never read, so it does not matter whether it could be. -/
theorem replaceName_of_mem_keys (h : name ∈ t.keys) :
    t.replaceName name = .ok (t.targets name) := by
  rw [replaceName, targets?_of_mem_keys h]

/-- A name that is not registered is read as a scope. -/
theorem replaceName_of_not_mem_keys (h : name ∉ t.keys) :
    t.replaceName name = (Scope.ofText name).map fun s => [s] := by
  rw [replaceName, targets?_of_not_mem_keys h]

/-- What a single name is replaced by is what it becomes. -/
theorem mem_iff_of_replaceName {found : List Scope} (h : t.replaceName name = .ok found) :
    s ∈ found ↔ t.Becomes name s := by
  by_cases hkey : name ∈ t.keys
  · rw [replaceName_of_mem_keys hkey] at h
    obtain rfl : t.targets name = found := Except.ok.inj h
    simp [Becomes, hkey]
  · rw [replaceName_of_not_mem_keys hkey] at h
    obtain ⟨u, hu, rfl⟩ := map_eq_ok_iff.mp h
    -- The name is the text of `u`, and no other scope has this text.
    obtain rfl : u.text = name := Scope.ofText_eq_ok_iff.mp hu
    simp only [Becomes, hkey, not_false_eq_true, false_and, true_and, false_or, List.mem_singleton]
    exact ⟨congrArg Scope.text, Scope.eq_of_text_eq⟩

/-- A name can be replaced if it is registered or is the text of a scope. -/
theorem exists_replaceName_iff :
    (∃ found, t.replaceName name = .ok found) ↔ (name ∉ t.keys → Scope.WrittenBy name) := by
  by_cases hkey : name ∈ t.keys
  · rw [replaceName_of_mem_keys hkey]
    exact iff_of_true ⟨_, rfl⟩ fun hnot => absurd hkey hnot
  · rw [replaceName_of_not_mem_keys hkey, exists_map_iff, Scope.exists_ofText_iff]
    exact ⟨fun h _ => h, fun h => h hkey⟩

/-! ### Replacing names -/

/-- The replaced names make one set, in which the scopes come name by name. -/
theorem replace_eq_ok_iff :
    t.replace names = .ok a
      ↔ ∃ lists, names.mapM t.replaceName = .ok lists ∧ .ofList lists.flatten = a := by
  rw [replace, bind_eq_ok_iff]
  simp only [pure, Except.pure, Except.ok.injEq]

/-- A list can be replaced if every name that is not registered is the text of a scope. -/
theorem exists_replace_iff :
    (∃ a, t.replace names = .ok a)
      ↔ ∀ name ∈ names, name ∉ t.keys → Scope.WrittenBy name := by
  have hlists : (∃ a, t.replace names = .ok a) ↔ ∃ lists, names.mapM t.replaceName = .ok lists := by
    simp only [replace_eq_ok_iff]
    exact ⟨fun ⟨_, lists, h, _⟩ => ⟨lists, h⟩, fun ⟨lists, h⟩ => ⟨_, lists, h, rfl⟩⟩
  rw [hlists, exists_mapM_iff]
  simp only [exists_replaceName_iff]

/-- A list is replaced name by name. -/
theorem mem_replace_iff (h : t.replace names = .ok a) :
    s ∈ a.members ↔ ∃ name ∈ names, t.Becomes name s := by
  obtain ⟨lists, hlists, rfl⟩ := replace_eq_ok_iff.mp h
  rw [ScopeSet.mem_members_ofList, List.mem_flatten]
  constructor
  · rintro ⟨found, hfound, hs⟩
    obtain ⟨name, hname, hreplace⟩ := (mem_iff_of_mapM_eq_ok hlists).mp hfound
    exact ⟨name, hname, (mem_iff_of_replaceName hreplace).mp hs⟩
  · rintro ⟨name, hname, hs⟩
    -- All names of the list were replaced, so this one was.
    obtain ⟨found, hreplace⟩ := exists_mapM_iff.mp ⟨lists, hlists⟩ name hname
    exact ⟨found, (mem_iff_of_mapM_eq_ok hlists).mpr ⟨name, hname, hreplace⟩,
      (mem_iff_of_replaceName hreplace).mpr hs⟩

/-- Both ways build the set from the scopes of the first list and then those of the second. -/
theorem replace_append {others : List String} (ha : t.replace names = .ok a)
    (hb : t.replace others = .ok b) : t.replace (names ++ others) = .ok (a.merge b) := by
  obtain ⟨lists, hlists, rfl⟩ := replace_eq_ok_iff.mp ha
  obtain ⟨lists', hlists', rfl⟩ := replace_eq_ok_iff.mp hb
  refine replace_eq_ok_iff.mpr ⟨lists ++ lists', ?_, ?_⟩
  · rw [List.mapM_append, hlists, hlists']
    rfl
  · rw [List.flatten_append, ScopeSet.merge, ScopeSet.ofList_members_append,
      ScopeSet.ofList_append_members]

/-- What names were replaced by is not registered, so it is read as the scope that it is. -/
theorem replace_replace (ht : t.Unchained) (h : t.replace names = .ok a) :
    t.replace a.texts = .ok a := by
  have hunregistered : ∀ u ∈ a.members, u.text ∉ t.keys := by
    intro u hu
    obtain ⟨name, -, hbecomes⟩ := (mem_replace_iff h).mp hu
    rcases hbecomes with ⟨-, htarget⟩ | ⟨hkey, rfl⟩
    · exact ht.not_mem_keys htarget
    · exact hkey
  have hlists : a.texts.mapM t.replaceName = .ok (a.members.map fun u => [u]) := by
    rw [mapM_eq_ok_iff, ScopeSet.texts, List.map_map, List.map_map]
    refine List.map_congr_left fun u hu => ?_
    show t.replaceName u.text = .ok [u]
    rw [replaceName_of_not_mem_keys (hunregistered u hu), Scope.ofText_text]
    rfl
  -- The scopes that were read are the members, in their order.
  refine replace_eq_ok_iff.mpr ⟨_, hlists, ?_⟩
  rw [← List.flatMap_def, List.flatMap_singleton', ScopeSet.ofList_members]

/-! ### Expanding names -/

/-- The expanded names make one set, with the registered names first and their targets behind. -/
theorem expand_eq_ok_iff :
    t.expand names = .ok a ↔ ∃ scopes, (names.filter t.contains).mapM Scope.ofText = .ok scopes
      ∧ .ofList (scopes ++ (names.filter t.contains).flatMap t.targets) = a := by
  rw [expand, bind_eq_ok_iff]
  simp only [pure, Except.pure, Except.ok.injEq]

/-- The registered names of a list are those among the keys. -/
theorem mem_registered_iff : name ∈ names.filter t.contains ↔ name ∈ names ∧ name ∈ t.keys := by
  rw [List.mem_filter, contains_iff]

/-- A list can be expanded if every registered name is the text of a scope. -/
theorem exists_expand_iff :
    (∃ a, t.expand names = .ok a)
      ↔ ∀ name ∈ names, name ∈ t.keys → Scope.WrittenBy name := by
  have hscopes : (∃ a, t.expand names = .ok a)
      ↔ ∃ scopes, (names.filter t.contains).mapM Scope.ofText = .ok scopes := by
    simp only [expand_eq_ok_iff]
    exact ⟨fun ⟨_, scopes, h, _⟩ => ⟨scopes, h⟩, fun ⟨scopes, h⟩ => ⟨_, scopes, h, rfl⟩⟩
  rw [hscopes, exists_mapM_iff]
  simp only [mem_registered_iff, Scope.exists_ofText_iff, and_imp]

/-- A list is expanded name by name. -/
theorem mem_expand_iff (h : t.expand names = .ok a) :
    s ∈ a.members ↔ ∃ name ∈ names, t.Implies name s := by
  obtain ⟨scopes, hscopes, rfl⟩ := expand_eq_ok_iff.mp h
  simp only [ScopeSet.mem_members_ofList, List.mem_append, mem_iff_of_mapM_eq_ok hscopes,
    List.mem_flatMap, mem_registered_iff, Scope.ofText_eq_ok_iff, Implies]
  constructor
  · rintro (⟨name, ⟨hname, hkey⟩, htext⟩ | ⟨name, ⟨hname, hkey⟩, htarget⟩)
    · exact ⟨name, hname, hkey, Or.inl htext⟩
    · exact ⟨name, hname, hkey, Or.inr htarget⟩
  · rintro ⟨name, hname, hkey, htext | htarget⟩
    · exact Or.inl ⟨name, ⟨hname, hkey⟩, htext⟩
    · exact Or.inr ⟨name, ⟨hname, hkey⟩, htarget⟩

/-- The members of an expanded list that are registered are the registered names of this list, as no
target is registered. So they imply the same. -/
theorem same_expand_expand (ht : t.Unchained) (h : t.expand names = .ok a) :
    ∃ b, t.expand a.texts = .ok b ∧ b.same a = true := by
  obtain ⟨b, hb⟩ : ∃ b, t.expand a.texts = .ok b := by
    rw [exists_expand_iff]
    intro name hname _
    obtain ⟨u, -, rfl⟩ := List.mem_map.mp hname
    exact Scope.exists_text_iff.mp ⟨u, rfl⟩
  refine ⟨b, hb, ?_⟩
  rw [ScopeSet.same_eq_true_iff]
  intro s
  rw [mem_expand_iff hb, mem_expand_iff h]
  constructor
  · rintro ⟨text, htext, hkey, himplies⟩
    obtain ⟨u, hu, rfl⟩ := List.mem_map.mp htext
    -- A member that is registered is no target, so it is one of the names of the list.
    obtain ⟨name, hname, hkey', rfl | htarget⟩ := (mem_expand_iff h).mp hu
    · exact ⟨u.text, hname, hkey, himplies⟩
    · exact absurd hkey (ht.not_mem_keys htarget)
  · rintro ⟨name, hname, hkey, himplies⟩
    -- A registered name of the list can be read, so it is among the members.
    obtain ⟨u, rfl⟩ := Scope.exists_text_iff.mpr (exists_expand_iff.mp ⟨a, h⟩ name hname hkey)
    have hmem : u ∈ a.members :=
      (mem_expand_iff h).mpr ⟨u.text, hname, hkey, Or.inl rfl⟩
    exact ⟨u.text, List.mem_map_of_mem hmem, hkey, himplies⟩

/-! ### Lists of names -/

/-- A list of texts as a caller's value is replaced like the list itself. -/
theorem replaceValue_list (t : AliasTable) (names : List String) :
    t.replaceValue (.list (names.map .text)) = liftArgument (t.replace names) := by
  rw [replaceValue, names_list_text]
  rfl

/-- A list of texts as a caller's value is expanded like the list itself. -/
theorem expandValue_list (t : AliasTable) (names : List String) :
    t.expandValue (.list (names.map .text)) = liftArgument (t.expand names) := by
  rw [expandValue, names_list_text]
  rfl

/-- The texts of what a list is replaced by are the targets of its registered names and its other
names. -/
theorem mem_texts_replace_iff (h : t.replace names = .ok a) {n : String} :
    n ∈ a.texts ↔ (∃ name ∈ names, name ∈ t.keys ∧ ∃ s ∈ t.targets name, s.text = n)
      ∨ (n ∈ names ∧ n ∉ t.keys) := by
  simp only [ScopeSet.texts, List.mem_map, mem_replace_iff h, Becomes]
  constructor
  · rintro ⟨s, ⟨name, hname, ⟨hkey, hs⟩ | ⟨hkey, rfl⟩⟩, rfl⟩
    · exact Or.inl ⟨name, hname, hkey, s, hs, rfl⟩
    · exact Or.inr ⟨hname, hkey⟩
  · rintro (⟨name, hname, hkey, s, hs, rfl⟩ | ⟨hname, hkey⟩)
    · exact ⟨s, ⟨name, hname, Or.inl ⟨hkey, hs⟩⟩, rfl⟩
    · obtain ⟨s, rfl⟩ := Scope.exists_text_iff.mpr (exists_replace_iff.mp ⟨a, h⟩ n hname hkey)
      exact ⟨s, ⟨s.text, hname, Or.inr ⟨hkey, rfl⟩⟩, rfl⟩

/-- The texts of what a list is expanded to are its registered names and their targets. -/
theorem mem_texts_expand_iff (h : t.expand names = .ok a) {n : String} :
    n ∈ a.texts ↔ (n ∈ names ∧ n ∈ t.keys)
      ∨ ∃ name ∈ names, name ∈ t.keys ∧ ∃ s ∈ t.targets name, s.text = n := by
  simp only [ScopeSet.texts, List.mem_map, mem_expand_iff h, Implies]
  constructor
  · rintro ⟨s, ⟨name, hname, hkey, rfl | hs⟩, rfl⟩
    · exact Or.inl ⟨hname, hkey⟩
    · exact Or.inr ⟨name, hname, hkey, s, hs, rfl⟩
  · rintro (⟨hname, hkey⟩ | ⟨name, hname, hkey, s, hs, rfl⟩)
    · obtain ⟨s, rfl⟩ := Scope.exists_text_iff.mpr (exists_expand_iff.mp ⟨a, h⟩ n hname hkey)
      exact ⟨s, ⟨s.text, hname, hkey, Or.inl rfl⟩, rfl⟩
    · exact ⟨s, ⟨name, hname, hkey, Or.inr hs⟩, rfl⟩

/-- How an alias table translates lists of names.

1. A list can be replaced exactly if its names that are not registered have no empty pieces. If one
   of them does, the list is refused as an argument.
2. What it is replaced by are the targets of its registered names, and its other names. Two lists, one
   behind the other, are replaced by the merged sets, with the members in the same order.
3. A list can be expanded exactly if its registered names have no empty pieces. If one of them does,
   the list is refused as an argument.
4. What it is expanded to are its registered names and their targets.
5. If no target is a name itself, translating twice is translating once. -/
theorem translation_laws (t : AliasTable) (names others : List String) :
    (((∃ a, t.replaceValue (.list (names.map .text)) = .ok a)
          ↔ ∀ name ∈ names, name ∉ t.keys → Scope.WrittenBy name)
        ∧ ((∃ e, t.replaceValue (.list (names.map .text)) = .error (.argument e))
          ↔ ∃ name ∈ names, name ∉ t.keys ∧ ¬ Scope.WrittenBy name))
      ∧ (∀ a, t.replaceValue (.list (names.map .text)) = .ok a →
          (∀ n, n ∈ a.texts ↔ (∃ name ∈ names, name ∈ t.keys ∧ ∃ s ∈ t.targets name, s.text = n)
              ∨ (n ∈ names ∧ n ∉ t.keys))
            ∧ ∀ b, t.replaceValue (.list (others.map .text)) = .ok b →
              t.replaceValue (.list ((names ++ others).map .text)) = .ok (a.merge b))
      ∧ (((∃ a, t.expandValue (.list (names.map .text)) = .ok a)
          ↔ ∀ name ∈ names, name ∈ t.keys → Scope.WrittenBy name)
        ∧ ((∃ e, t.expandValue (.list (names.map .text)) = .error (.argument e))
          ↔ ∃ name ∈ names, name ∈ t.keys ∧ ¬ Scope.WrittenBy name))
      ∧ (∀ a, t.expandValue (.list (names.map .text)) = .ok a →
          ∀ n, n ∈ a.texts ↔ (n ∈ names ∧ n ∈ t.keys)
            ∨ ∃ name ∈ names, name ∈ t.keys ∧ ∃ s ∈ t.targets name, s.text = n)
      ∧ (t.Unchained →
          (∀ a, t.replaceValue (.list (names.map .text)) = .ok a →
              t.replaceValue (.scopeSet a) = .ok a)
            ∧ ∀ a, t.expandValue (.list (names.map .text)) = .ok a →
              ∃ b, t.expandValue (.scopeSet a) = .ok b ∧ b.same a = true) := by
  simp only [replaceValue_list, expandValue_list, exists_argument_iff, liftArgument_eq_ok_iff,
    exists_replace_iff, exists_expand_iff, Classical.not_forall, exists_prop, true_and]
  refine ⟨fun a ha => ⟨fun n => mem_texts_replace_iff ha, fun b => replace_append ha⟩,
    fun a ha n => mem_texts_expand_iff ha, fun ht => ⟨fun a ha => ?_, fun a ha => ?_⟩⟩
  · show liftArgument (t.replace a.texts) = .ok a
    rw [replace_replace ht ha]
    rfl
  · obtain ⟨b, hb, hsame⟩ := same_expand_expand ht ha
    exact ⟨b, liftArgument_eq_ok_iff.mpr hb, hsame⟩

/-- The name `admin` stands for `api.me` and `api.products`, and `a..b` for `api.me`. Beside `admin`,
the unregistered `api.orders` is kept or dropped. The name `a..b` can be replaced but not expanded. -/
theorem translation_laws_admin :
    let me : Scope := ⟨["api", "me"], by decide, by decide⟩
    let products : Scope := ⟨["api", "products"], by decide, by decide⟩
    let t : AliasTable := ofList [("admin", [me, products]), ("a..b", [me])]
    let names : List String := ["api.orders", "admin"]
    t.Unchained
      ∧ ∃ a b c, t.replaceValue (.list (names.map .text)) = .ok a
        ∧ t.replaceValue (.list (["a..b"].map .text)) = .ok b
        ∧ t.replaceValue (.list ((names ++ ["a..b"]).map .text)) = .ok (a.merge b)
        ∧ t.replaceValue (.scopeSet a) = .ok a
        ∧ t.expandValue (.list (names.map .text)) = .ok c
        ∧ c.texts = ["admin", "api.me", "api.products"]
        ∧ (∃ d, t.expandValue (.scopeSet c) = .ok d ∧ d.same c = true)
        ∧ ∃ e, t.expandValue (.list (["a..b"].map .text)) = .error (.argument e) := by
  intro me products t names
  have hunchained : t.Unchained := by decide
  have hreplace : t.replaceValue (.list (names.map .text))
      = .ok (.ofList [⟨["api", "orders"], by decide, by decide⟩, me, products]) := rfl
  have hreplace' : t.replaceValue (.list (["a..b"].map .text)) = .ok (.ofList [me]) := rfl
  have hexpand : t.expandValue (.list (names.map .text))
      = .ok (.ofList [⟨["admin"], by decide, by decide⟩, me, products]) := rfl
  obtain ⟨-, hreplaced, -, -, htwice⟩ := translation_laws t names ["a..b"]
  obtain ⟨-, -, hexpands, -, -⟩ := translation_laws t ["a..b"] []
  obtain ⟨hreplaceTwice, hexpandTwice⟩ := htwice hunchained
  exact ⟨hunchained, _, _, _, hreplace, hreplace', (hreplaced _ hreplace).2 _ hreplace',
    hreplaceTwice _ hreplace, hexpand, rfl, hexpandTwice _ hexpand,
    hexpands.2.mpr ⟨"a..b", by decide, by decide, by decide⟩⟩

end AliasTable

end AccessScopes
