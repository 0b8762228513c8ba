import AccessScopes.Proofs.Outcome
import AccessScopes.Proofs.Scope.Text
import AccessScopes.Value.Coercion

/-!
# `AccessScopes.Proofs.Value.Leaves`: the scopes in a nested value

A value is gone through for its scopes to any depth. `Value.scopes` does so from left to right, with
a function of its own for items and for keys. What it finds can be said without an order: every
value has leaves, and each leaf means one scope or none.

* `Value.HasLeaf` says which leaves a value has, and `Value.MeansScope` which of them mean a scope.
* `scopes_of_parts` and `itemScopes_append_eq_ok_iff`: the scopes of a collection are those of its
  parts, one behind the other.
* `exists_scopes_iff`: a value has scopes exactly if each of its leaves means one.
* `mem_scopes_iff`: the scopes of a value are those that its leaves mean.
* `toScopeSet_texts`: a set is the one that the texts of its members mean.
-/

set_option autoImplicit false

namespace AccessScopes

/-- A cursor whose segments form a scope is written as this scope. -/
theorem Cursor.ofText_text {c : Cursor} {s : Scope} (h : c.toScope = .ok s) :
    Scope.ofText c.text = .ok s := by
  have htext : c.text = s.text := by
    rw [Cursor.text, Scope.text, Scope.segments_of_ofSegments h]
  rw [htext, Scope.ofText_text]

namespace Value

/-! ### Parts and leaves -/

/-- The values into which a value is taken apart. A text, a scope and a cursor mean a scope as a
whole, so they are not taken apart, although they could be gone through. -/
def parts? : Value → Option (List Value)
  | text _ | scope _ | cursor _ => none
  | v => v.items?

/-- Whether taking a value apart leads to a value that cannot be taken apart any further. -/
inductive HasLeaf : Value → Value → Prop
  | self {v : Value} (h : v.parts? = none) : HasLeaf v v
  | part {v part leaf : Value} {parts : List Value} (h : v.parts? = some parts)
    (hpart : part ∈ parts) (hleaf : HasLeaf part leaf) : HasLeaf v leaf

/-- Whether a value means one scope: a text of pieces that are not empty, a scope, or a cursor whose
segments form a scope. -/
def MeansScope : Value → Prop
  | text t => Scope.WrittenBy t
  | scope _ => True
  | cursor c => ∃ s, c.toScope = .ok s
  | _ => False

/-- Induction over nested values: what holds of all leaves, and passes from the parts of a value to
the value, holds of every value. -/
theorem parts_induction {P : Value → Prop} (leaf : ∀ v, v.parts? = none → P v)
    (node : ∀ v parts, v.parts? = some parts → (∀ part ∈ parts, P part) → P v) (v : Value) :
    P v := by
  -- A table consists of its keys, so of an entry only the key counts.
  refine @Value.rec P (fun items => ∀ item ∈ items, P item)
    (fun entries => ∀ entry ∈ entries, P entry.1) (fun entry => P entry.1)
    ?null ?bool ?int ?text ?bytes ?list ?tuple ?set ?stream ?table ?scope ?scopeSet ?aliasTable
    ?grammar ?cursor ?pattern ?provider ?nil ?cons ?noEntries ?entries ?entry v
  case null => exact leaf _ rfl
  case bool => exact fun _ => leaf _ rfl
  case int => exact fun _ => leaf _ rfl
  case text => exact fun _ => leaf _ rfl
  case scope => exact fun _ => leaf _ rfl
  case aliasTable => exact fun _ => leaf _ rfl
  case grammar => exact fun _ => leaf _ rfl
  case cursor => exact fun _ => leaf _ rfl
  case pattern => exact fun _ => leaf _ rfl
  case provider => exact fun _ _ => leaf _ rfl
  case list => exact fun items hitems => node (list items) items rfl hitems
  case tuple => exact fun items hitems => node (tuple items) items rfl hitems
  case set => exact fun items hitems => node (set items) items rfl hitems
  case stream => exact fun items hitems => node (stream items) items rfl hitems
  case table =>
    intro entries hentries
    refine node (table entries) (entries.map Prod.fst) rfl ?_
    intro key hkey
    obtain ⟨entry, hentry, rfl⟩ := List.mem_map.mp hkey
    exact hentries entry hentry
  case scopeSet =>
    intro a
    refine node (scopeSet a) (a.members.map scope) rfl ?_
    intro part hpart
    obtain ⟨s, -, rfl⟩ := List.mem_map.mp hpart
    exact leaf _ rfl
  case bytes =>
    intro octets
    refine node (bytes octets) (octets.map fun (n : Nat) => int n) rfl ?_
    intro part hpart
    obtain ⟨n, -, rfl⟩ := List.mem_map.mp hpart
    exact leaf _ rfl
  case nil => exact fun item hitem => absurd hitem List.not_mem_nil
  case cons => exact fun item rest hitem hrest => List.forall_mem_cons.mpr ⟨hitem, hrest⟩
  case noEntries => exact fun entry hentry => absurd hentry List.not_mem_nil
  case entries => exact fun entry rest hentry hrest => List.forall_mem_cons.mpr ⟨hentry, hrest⟩
  case entry => exact fun key _ hkey _ => hkey

/-- A value without parts is its own only leaf. -/
theorem hasLeaf_iff_of_leaf {v leaf : Value} (h : v.parts? = none) :
    v.HasLeaf leaf ↔ leaf = v := by
  constructor
  · intro hleaf
    cases hleaf with
    | self _ => rfl
    | part hparts _ _ => cases h.symm.trans hparts
  · rintro rfl
    exact .self h

/-- The leaves of a value with parts are those of its parts. -/
theorem hasLeaf_iff_of_parts {v leaf : Value} {parts : List Value} (h : v.parts? = some parts) :
    v.HasLeaf leaf ↔ ∃ part ∈ parts, part.HasLeaf leaf := by
  constructor
  · intro hleaf
    cases hleaf with
    | self hnone => cases h.symm.trans hnone
    | part hparts hpart hleaf =>
      obtain rfl : parts = _ := Option.some.inj (h.symm.trans hparts)
      exact ⟨_, hpart, hleaf⟩
  · rintro ⟨part, hpart, hleaf⟩
    exact .part h hpart hleaf

/-- A leaf has no parts. -/
theorem HasLeaf.parts?_eq_none {v leaf : Value} (h : v.HasLeaf leaf) : leaf.parts? = none := by
  induction h with
  | self h => exact h
  | part _ _ _ ih => exact ih

/-! ### The scopes of a collection -/

/-- Going through the keys of a table is going through the list of them. -/
theorem keyScopes_eq (entries : List (Value × Value)) :
    keyScopes entries = itemScopes (entries.map Prod.fst) := by
  induction entries with
  | nil => rfl
  | cons entry rest ih => rw [keyScopes, List.map_cons, itemScopes, ih]

/-- The scopes of items are found item by item. -/
theorem itemScopes_eq (items : List Value) :
    itemScopes items = (items.mapM scopes).map List.flatten := by
  induction items with
  | nil => rfl
  | cons item rest ih =>
    rw [itemScopes, ih, List.mapM_cons]
    cases item.scopes with
    | error e => rfl
    | ok first => cases rest.mapM scopes <;> rfl

/-- Two lists of items have their scopes one behind the other. -/
theorem itemScopes_append_eq_ok_iff {items others : List Value} {found : List Scope} :
    itemScopes (items ++ others) = .ok found
      ↔ ∃ front back, itemScopes items = .ok front ∧ itemScopes others = .ok back
        ∧ front ++ back = found := by
  simp only [itemScopes_eq, List.mapM_append, map_eq_ok_iff, bind_eq_ok_iff]
  constructor
  · rintro ⟨_, ⟨lists, hitems, lists', hothers, hlists⟩, rfl⟩
    obtain rfl : lists ++ lists' = _ := Except.ok.inj hlists
    exact ⟨_, _, ⟨lists, hitems, rfl⟩, ⟨lists', hothers, rfl⟩, List.flatten_append.symm⟩
  · rintro ⟨_, _, ⟨lists, hitems, rfl⟩, ⟨lists', hothers, rfl⟩, rfl⟩
    exact ⟨lists ++ lists', ⟨lists, hitems, lists', hothers, rfl⟩, List.flatten_append⟩

/-- The scopes in a list of texts are those that the texts write. -/
theorem itemScopes_text (names : List String) :
    itemScopes (names.map .text) = names.mapM Scope.ofText := by
  rw [itemScopes_eq, List.mapM_map, ← flatten_mapM_singleton Scope.ofText]
  rfl

/-- The scopes in a list of scopes are these scopes. -/
theorem itemScopes_scope (found : List Scope) : itemScopes (found.map .scope) = .ok found := by
  induction found with
  | nil => rfl
  | cons s rest ih =>
    rw [List.map_cons, itemScopes, scopes, ih]
    rfl

/-- A value that is taken apart has the scopes of its parts. -/
theorem scopes_of_parts {v : Value} {parts : List Value} (h : v.parts? = some parts) :
    v.scopes = itemScopes parts := by
  cases v with
  | list items | tuple items | set items | stream items =>
    obtain rfl : items = parts := Option.some.inj h
    rfl
  | table entries =>
    obtain rfl : entries.map Prod.fst = parts := Option.some.inj h
    exact keyScopes_eq entries
  | scopeSet a =>
    obtain rfl : a.members.map scope = parts := Option.some.inj h
    exact (itemScopes_scope a.members).symm
  | bytes octets =>
    obtain rfl : (octets.map fun (n : Nat) => int n) = parts := Option.some.inj h
    -- The first octet is refused, if there is one.
    cases octets <;> rfl
  | _ => cases h

/-! ### The scopes of the leaves -/

/-- A value without parts has the one scope that it can be turned into. -/
theorem scopes_eq_ok_iff_of_leaf {v : Value} (h : v.parts? = none) {found : List Scope} :
    v.scopes = .ok found ↔ ∃ s, v.toScope = .ok s ∧ [s] = found := by
  cases v with
  | text t => exact map_eq_ok_iff
  | cursor c => exact map_eq_ok_iff
  | scope s =>
    show Except.ok [s] = .ok found ↔ ∃ t, Except.ok s = .ok t ∧ [t] = found
    simp
  | null | bool _ | int _ | aliasTable _ | grammar _ | pattern _ | provider _ =>
    exact iff_of_false nofun (fun ⟨_, hscope, _⟩ => nomatch hscope)
  | _ => cases h

/-- A leaf means a scope exactly if it can be turned into one. -/
theorem meansScope_iff_of_leaf {v : Value} (h : v.parts? = none) :
    v.MeansScope ↔ ∃ s, v.toScope = .ok s := by
  cases v with
  | text t => exact Scope.exists_ofText_iff.symm
  | scope s => exact iff_of_true trivial ⟨s, rfl⟩
  | cursor c => exact Iff.rfl
  | null | bool _ | int _ | aliasTable _ | grammar _ | pattern _ | provider _ =>
    exact iff_of_false id (fun ⟨_, hscope⟩ => nomatch hscope)
  | _ => cases h

/-- A leaf is written as the scope that it means. -/
theorem plain_of_leaf {v : Value} (h : v.parts? = none) {s : Scope} (hs : v.toScope = .ok s) :
    v.plain = s.text := by
  cases v with
  | text t => exact (Scope.ofText_eq_ok_iff.mp hs).symm
  | scope s' =>
    obtain rfl : s' = s := Except.ok.inj hs
    rfl
  | cursor c => exact (Scope.ofText_eq_ok_iff.mp (c.ofText_text hs)).symm
  | null | bool _ | int _ | aliasTable _ | grammar _ | pattern _ | provider _ => cases hs
  | _ => cases h

/-- A value has scopes exactly if each of its leaves means one. -/
theorem exists_scopes_iff (v : Value) :
    (∃ found, v.scopes = .ok found) ↔ ∀ leaf, v.HasLeaf leaf → leaf.MeansScope := by
  induction v using parts_induction with
  | leaf v h =>
    simp only [hasLeaf_iff_of_leaf h, forall_eq, meansScope_iff_of_leaf h,
      scopes_eq_ok_iff_of_leaf h]
    exact ⟨fun ⟨_, s, hs, _⟩ => ⟨s, hs⟩, fun ⟨s, hs⟩ => ⟨[s], s, hs, rfl⟩⟩
  | node v parts h ih =>
    rw [scopes_of_parts h, itemScopes_eq, exists_map_iff, exists_mapM_iff]
    simp only [hasLeaf_iff_of_parts h]
    constructor
    · rintro hparts leaf ⟨part, hpart, hleaf⟩
      exact (ih part hpart).mp (hparts part hpart) leaf hleaf
    · intro hleaves part hpart
      exact (ih part hpart).mpr fun leaf hleaf => hleaves leaf ⟨part, hpart, hleaf⟩

/-- The scopes of a value are those that its leaves mean. -/
theorem mem_scopes_iff {v : Value} {found : List Scope} (h : v.scopes = .ok found) {s : Scope} :
    s ∈ found ↔ ∃ leaf, v.HasLeaf leaf ∧ leaf.toScope = .ok s := by
  induction v using parts_induction generalizing found with
  | leaf v hleaf =>
    obtain ⟨t, ht, rfl⟩ := (scopes_eq_ok_iff_of_leaf hleaf).mp h
    simp only [hasLeaf_iff_of_leaf hleaf, exists_eq_left, ht, List.mem_singleton,
      Except.ok.injEq]
    exact eq_comm
  | node v parts hparts ih =>
    rw [scopes_of_parts hparts, itemScopes_eq] at h
    obtain ⟨lists, hlists, rfl⟩ := map_eq_ok_iff.mp h
    simp only [hasLeaf_iff_of_parts hparts, List.mem_flatten, mem_iff_of_mapM_eq_ok hlists]
    constructor
    · rintro ⟨part, ⟨found, hpart, hfound⟩, hs⟩
      obtain ⟨leaf, hleaf, hscope⟩ := (ih found hpart hfound).mp hs
      exact ⟨leaf, ⟨found, hpart, hleaf⟩, hscope⟩
    · rintro ⟨leaf, ⟨part, hpart, hleaf⟩, hscope⟩
      -- All parts have scopes, as the whole value has.
      obtain ⟨found, hfound⟩ := exists_mapM_iff.mp ⟨lists, hlists⟩ part hpart
      exact ⟨found, ⟨part, hpart, hfound⟩, (ih part hpart hfound).mpr ⟨leaf, hleaf, hscope⟩⟩

/-- The texts of the members of a set, in their order, mean this set. -/
theorem toScopeSet_texts (a : ScopeSet) : (list (a.texts.map .text)).toScopeSet = .ok a := by
  have hread : a.texts.mapM Scope.ofText = .ok a.members := by
    rw [mapM_eq_ok_iff, ScopeSet.texts, List.map_map]
    exact List.map_congr_left fun s _ => Scope.ofText_text s
  show (itemScopes (a.texts.map .text)).map ScopeSet.ofList = .ok a
  rw [itemScopes_text, hread]
  exact congrArg Except.ok a.ofList_members

end Value

end AccessScopes
