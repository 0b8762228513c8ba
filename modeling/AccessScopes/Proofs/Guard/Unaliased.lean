import AccessScopes.Proofs.Guard.Decision
import AccessScopes.Proofs.Value.Leaves

/-!
# `AccessScopes.Proofs.Guard.Unaliased`: an alias table without entries

A guard finds the scopes of a caller in two ways. Without an alias table it goes through the
caller's value to any depth. With a table it looks up names, and it takes the text of each item
for one name. If the table has no entries, every name is read as a scope.

* `AliasTable.replace_empty`: the table without entries only reads names.
* `grants_empty_of_names`: with this table, a value is taken for the list of its names.
* `Value.WritesOne` and `Value.Flat` say where the names are what the value means: each item is
  written as the one scope that it means.
* `run_empty_table`: for such a value the table makes no difference.
* `run_empty_table_nested`: for a list in a list it does, as a list is written with its brackets.
-/

set_option autoImplicit false

namespace AccessScopes

/-! ### Names as scopes -/

/-- Without entries, the table reads every name as a scope. -/
theorem AliasTable.replace_empty (names : List String) :
    AliasTable.empty.replace names = (names.mapM Scope.ofText).map ScopeSet.ofList := by
  -- A name without an entry is replaced by a list that holds it alone.
  have hnames : AliasTable.empty.replaceName
      = fun name => (Scope.ofText name).map fun s => [s] := rfl
  rw [AliasTable.replace, hnames, ← flatten_mapM_singleton Scope.ofText names]
  cases names.mapM fun name => (Scope.ofText name).map fun s => [s] with
  | error e => rfl
  | ok scopes => rfl

/-- With a table without entries, a value is taken for the list of its names. -/
theorem Guard.grants_empty_of_names {v : Value} {names : List String} (h : v.names = .ok names) :
    Guard.grants (some .empty) v = Guard.grants none (.list (names.map .text)) := by
  show v.names >>= (fun names => liftArgument (AliasTable.empty.replace names))
    = liftArgument ((Value.itemScopes (names.map .text)).map ScopeSet.ofList)
  rw [h, Value.itemScopes_text, ← AliasTable.replace_empty]
  rfl

/-! ### Values that are written as what they mean -/

namespace Value

/-- Whether a value means one scope by its kind, and its text writes this scope. -/
def WritesOne : Value → Prop
  | text _ | scope _ | cursor _ => True
  | scopeSet s => s.size = 1
  | _ => False

/-- Whether a value means one scope, or is a collection of which each item does. A set of scopes
is read member by member, so it may have any number of them. -/
def Flat : Value → Prop
  | text _ | scope _ | cursor _ | scopeSet _ => True
  | list items | tuple items | set items | stream items => ∀ item ∈ items, item.WritesOne
  | table entries => ∀ item ∈ entries.map Prod.fst, item.WritesOne
  | _ => False

/-- The text of such a value is read as the one scope that the value means. -/
theorem WritesOne.ofText_plain {v : Value} (hv : v.WritesOne) {found : List Scope}
    (h : v.scopes = .ok found) : ∃ s, found = [s] ∧ Scope.ofText v.plain = .ok s := by
  cases v with
  | text t =>
    obtain ⟨s, hs, rfl⟩ := map_eq_ok_iff.mp h
    exact ⟨s, rfl, hs⟩
  | scope s =>
    cases h
    exact ⟨s, rfl, Scope.ofText_text s⟩
  | cursor c =>
    obtain ⟨s, hs, rfl⟩ := map_eq_ok_iff.mp h
    exact ⟨s, rfl, c.ofText_text hs⟩
  | scopeSet a =>
    cases h
    -- The text of a set joins its members by commas, which are not read back; one alone is.
    obtain ⟨s, hs⟩ : ∃ s, a.members = [s] := List.length_eq_one_iff.mp hv
    refine ⟨s, hs, ?_⟩
    rw [plain, ScopeSet.text, ScopeSet.texts, hs]
    exact Scope.ofText_text s
  | _ => exact absurd hv id

/-- Items that are written as what they mean may be replaced by their texts. -/
theorem itemScopes_plain {items : List Value} (hitems : ∀ item ∈ items, item.WritesOne)
    {found : List Scope} (h : itemScopes items = .ok found) :
    itemScopes ((items.map plain).map .text) = .ok found := by
  induction items generalizing found with
  | nil => exact h
  | cons item rest ih =>
    obtain ⟨hitem, hrest⟩ := List.forall_mem_cons.mp hitems
    obtain ⟨first, hfirst, h⟩ := bind_eq_ok_iff.mp h
    obtain ⟨others, hothers, h⟩ := bind_eq_ok_iff.mp h
    obtain rfl : first ++ others = found := Except.ok.inj h
    obtain ⟨s, rfl, hs⟩ := hitem.ofText_plain hfirst
    rw [List.map_cons, List.map_cons, itemScopes, scopes, hs, ih hrest hothers]
    rfl

/-- A collection means the same set of scopes as the list of the texts of its items. -/
theorem toScopeSet_plain {items : List Value} (hitems : ∀ item ∈ items, item.WritesOne)
    {grants : ScopeSet} (h : (itemScopes items).map ScopeSet.ofList = .ok grants) :
    (list ((items.map plain).map .text)).toScopeSet = .ok grants := by
  obtain ⟨found, hfound, hset⟩ := map_eq_ok_iff.mp h
  show (itemScopes ((items.map plain).map .text)).map ScopeSet.ofList = .ok grants
  rw [itemScopes_plain hitems hfound, ← hset]
  rfl

/-- A single value counts as a list of one item. -/
theorem toScopeSet_plain_single (item : Value) (hitem : item.WritesOne) {grants : ScopeSet}
    (h : item.scopes.map ScopeSet.ofList = .ok grants) :
    (list ([item.plain].map .text)).toScopeSet = .ok grants := by
  obtain ⟨found, hfound, hset⟩ := map_eq_ok_iff.mp h
  have hone : itemScopes [item] = .ok found := by
    rw [itemScopes, hfound]
    show Except.ok (found ++ []) = _
    rw [List.append_nil]
  refine toScopeSet_plain (List.forall_mem_singleton.mpr hitem) ?_
  rw [hone, ← hset]
  rfl

/-- The names of a value that is written as what it means are the texts of the same scopes. -/
theorem exists_names_of_flat {v : Value} (hv : v.Flat) {grants : ScopeSet}
    (h : v.toScopeSet = .ok grants) :
    ∃ names, v.names = .ok names ∧ (list (names.map .text)).toScopeSet = .ok grants := by
  cases v with
  | text t => exact ⟨[t], rfl, toScopeSet_plain_single (.text t) trivial h⟩
  | scope s => exact ⟨[s.text], rfl, toScopeSet_plain_single (.scope s) trivial h⟩
  | cursor c => exact ⟨[c.text], rfl, toScopeSet_plain_single (.cursor c) trivial h⟩
  | scopeSet a =>
    -- A set names its members one by one, so here any number of them is fine.
    obtain rfl : a = grants := Except.ok.inj h
    exact ⟨a.texts, rfl, toScopeSet_texts a⟩
  | list items => exact ⟨items.map plain, rfl, toScopeSet_plain hv h⟩
  | tuple items => exact ⟨items.map plain, rfl, toScopeSet_plain hv h⟩
  | set items => exact ⟨items.map plain, rfl, toScopeSet_plain hv h⟩
  | stream items => exact ⟨items.map plain, rfl, toScopeSet_plain hv h⟩
  | table entries =>
    -- A table is gone through by its keys.
    have hkeys : (itemScopes (entries.map Prod.fst)).map ScopeSet.ofList = .ok grants := by
      rw [← keyScopes_eq]
      exact h
    exact ⟨(entries.map Prod.fst).map plain, rfl, toScopeSet_plain hv hkeys⟩
  | _ => exact absurd hv id

end Value

namespace Guard

/-- A guard looks at nothing but the grants, however the caller's value was turned into them. -/
theorem run_congr_of_grants_eq (guard : Guard) {aliases aliases' : Option AliasTable}
    {v v' : Value} (h : Guard.grants aliases v = Guard.grants aliases' v') :
    guard.run aliases v = guard.run aliases' v' := by
  rw [Guard.run, Guard.run, h]

/-- What an alias table without entries changes. Take a guard and a value of a caller.

1. Whatever names the value holds, the guard with this table answers and records what the guard
   without a table would for the list of these names.
2. If the value means a set of scopes and is written as what it means, both guards take it for this
   very set, and they answer and record the same. -/
theorem run_empty_table (guard : Guard) (v : Value) :
    (∀ names, v.names = .ok names →
        guard.run (some .empty) v = guard.run none (.list (names.map .text)))
      ∧ ∀ grants, v.toScopeSet = .ok grants → v.Flat →
        Guard.grants (some .empty) v = .ok grants ∧ Guard.grants none v = .ok grants
          ∧ guard.run (some .empty) v = guard.run none v := by
  refine ⟨fun names h => guard.run_congr_of_grants_eq (grants_empty_of_names h), ?_⟩
  intro grants hgrants hflat
  -- The names of the value lead back to the set that the value means.
  obtain ⟨names, hnames, hset⟩ := Value.exists_names_of_flat hflat hgrants
  have hnone : Guard.grants none v = .ok grants := by
    rw [Guard.grants, hgrants]
    rfl
  have hempty : Guard.grants (some .empty) v = .ok grants := by
    rw [grants_empty_of_names hnames, Guard.grants, hset]
    rfl
  exact ⟨hempty, hnone, guard.run_congr_of_grants_eq (hempty.trans hnone.symm)⟩

/-- A text, a scope and a set of one scope, in one tuple. -/
theorem run_empty_table_flat :
    let read : Scope := ⟨["api", "read"], by decide, by decide⟩
    let web : Scope := ⟨["web"], by decide, by decide⟩
    let guard : Guard := ⟨.ofList [read], .all⟩
    let granted : Value := .tuple [.text "api.write", .scope read, .scopeSet (.ofList [web])]
    granted.names = .ok ["api.write", "api.read", "web"] ∧ granted.Flat
      ∧ guard.run (some .empty) granted
        = guard.run none (.list [.text "api.write", .text "api.read", .text "web"])
      ∧ guard.run (some .empty) granted = guard.run none granted
      ∧ (guard.run (some .empty) granted).1.isOk = true := by
  intro read web guard granted
  have hflat : granted.Flat := by
    intro item hitem
    rcases List.mem_cons.mp hitem with rfl | hitem
    · trivial
    · rcases List.mem_cons.mp hitem with rfl | hitem
      · trivial
      · rw [List.mem_singleton.mp hitem]
        rfl
  have hgrants : granted.toScopeSet
      = .ok (.ofList [⟨["api", "write"], by decide, by decide⟩, read, web]) := rfl
  obtain ⟨hnames, hsame⟩ := run_empty_table guard granted
  obtain ⟨-, -, hrun⟩ := hsame _ hgrants hflat
  have hok : (guard.run (some .empty) granted).1.isOk = true := by
    rw [hrun]
    rfl
  exact ⟨rfl, hflat, hnames _ rfl, hrun, hok⟩

/-- A list in a list is written with its brackets, and the text in it with its quotes. So the guard
without a table lets in who was granted `api.read` in this way, and the guard with a table that
has no entries does not. -/
theorem run_empty_table_nested :
    let read : Scope := ⟨["api", "read"], by decide, by decide⟩
    let guard : Guard := ⟨.ofList [read], .all⟩
    let granted : Value := .list [.list [.text "api.read"]]
    (guard.run none granted).1 = .ok (.allowed (.ofList [read]))
      ∧ (guard.run (some .empty) granted).1 = .ok (.denied ["api.read"]) := by
  intro read guard granted
  exact ⟨rfl, rfl⟩

end Guard

end AccessScopes
