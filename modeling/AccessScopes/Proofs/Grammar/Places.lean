import AccessScopes.Proofs.Grammar.WellFormed
import Mathlib.Data.List.Nodup

/-!
# `AccessScopes.Proofs.Grammar.Places`: the places of a grammar

A node of a well-formed grammar is found at exactly one address. So its declared path tells it
apart from all other nodes, whichever way the nodes are listed.

* `Node.mem_walk_iff` and `Node.perm_walk_paths`: the walk of a tree and the list of its paths
  both hold each address at which there is a node. `Node.nodup_paths`: none stands twice.
* `Grammar.mem_walk_iff`: the places of a grammar are those at its addresses, and
  `Grammar.mem_walk_of_below` goes from one of them to the next below.
* `Grammar.eq_of_path_eq`: the declared path determines the place.
* `Grammar.mem_declaredScopes_iff` and `Grammar.size_declaredScopes`: the declared scopes are the
  declared paths, as many as there are places.
-/

set_option autoImplicit false

namespace AccessScopes

namespace Node

variable {π : Type} {n : Node π}

/-! ### One step below a node -/

/-- A key leads to the child of this name; the wildcard, which is no name, leads to the subtree of
the slot. -/
theorem NamesOk.link?_eq_some_iff (h : n.NamesOk) {key : String} {m : Node π} :
    n.link? key = some m
      ↔ (key, m) ∈ n.children ∨ key = wildcard ∧ ∃ slot, n.wild = some (slot, m) := by
  by_cases hkey : key = wildcard
  · subst hkey
    have hnot : (wildcard, m) ∉ n.children := fun hmem =>
      ne_wildcard_of_isToken (h.names_token wildcard (List.mem_map_of_mem hmem)) rfl
    simp [link?, hnot]
  · simp only [link?, hkey, if_false, false_and, or_false]
    exact ⟨mem_of_lookup, lookup_of_mem h.names_nodup⟩

/-- What is one link below a well-formed node is well-formed. -/
theorem WellFormed.of_link? (h : n.WellFormed) {key : String} {m : Node π}
    (hm : n.link? key = some m) : m.WellFormed := by
  rcases h.names.link?_eq_some_iff.mp hm with hchild | ⟨-, slot, hwild⟩
  · exact h.child hchild
  · exact h.subtree hwild

/-- Every key that leads anywhere can be a segment of a scope. -/
theorem WellFormed.isSegment_of_link? (h : n.WellFormed) {key : String} {m : Node π}
    (hm : n.link? key = some m) : IsSegment key := by
  rcases h.names.link?_eq_some_iff.mp hm with hchild | ⟨rfl, -⟩
  · exact isSegment_of_isToken (h.names.names_token key (List.mem_map_of_mem hchild))
  · decide

/-! ### Addresses -/

/-- The node at an address is found link by link. -/
theorem get?_cons {key : String} {rest : List String} {m : Node π} :
    n.get? (key :: rest) = some m ↔ ∃ below, n.link? key = some below ∧ below.get? rest = some m := by
  rw [get?, Option.bind_eq_some_iff]

/-- The node at an address may be found from any node on the way. -/
theorem get?_append (n : Node π) (front back : List String) :
    n.get? (front ++ back) = (n.get? front).bind fun m => m.get? back := by
  induction front generalizing n with
  | nil => rfl
  | cons key rest ih =>
    rw [List.cons_append, get?, get?, Option.bind_assoc]
    exact congrArg _ (funext fun below => ih below)

/-- What passes from a node to all below it by one key holds all the way down. -/
theorem get?_preserves {P : Node π → Prop}
    (hlink : ∀ {n key below}, P n → n.link? key = some below → P below) (h : P n)
    {address : List String} {m : Node π} (hm : n.get? address = some m) : P m := by
  induction address generalizing n with
  | nil =>
    cases hm
    exact h
  | cons key rest ih =>
    obtain ⟨below, hbelow, hrest⟩ := get?_cons.mp hm
    exact ih (hlink h hbelow) hrest

/-- All nodes of a well-formed tree are well-formed. -/
theorem WellFormed.of_get? {address : List String} {m : Node π} (h : n.WellFormed)
    (hm : n.get? address = some m) : m.WellFormed :=
  get?_preserves (fun h hbelow => h.of_link? hbelow) h hm

/-- The keys of an address are segments, so paths can be written as scopes. -/
theorem WellFormed.isSegment_of_get? {address : List String} {m : Node π} (h : n.WellFormed)
    (hm : n.get? address = some m) : ∀ key ∈ address, IsSegment key := by
  induction address generalizing n with
  | nil => exact fun key hkey => absurd hkey List.not_mem_nil
  | cons key rest ih =>
    obtain ⟨below, hbelow, hrest⟩ := get?_cons.mp hm
    rw [List.forall_mem_cons]
    exact ⟨h.isSegment_of_link? hbelow, ih (h.of_link? hbelow) hrest⟩

/-! ### Walks and lists of paths -/

/-- The walk of the children is the walk of each of them. -/
theorem mem_walkChildren {path : List String} {children : List (String × Node π)}
    {x : List String × Node π} :
    x ∈ walkChildren path children ↔ ∃ c ∈ children, x ∈ c.2.walk (path ++ [c.1]) := by
  induction children with
  | nil => simp [walkChildren]
  | cons c rest ih =>
    simp only [walkChildren, List.mem_append, ih, List.mem_cons, exists_eq_or_imp]
    exact or_comm

/-- The walk of a slot is the walk of its subtree. -/
theorem mem_walkWild {path : List String} {wild : Option (WildSlot π × Node π)}
    {x : List String × Node π} :
    x ∈ walkWild path wild ↔ ∃ w, wild = some w ∧ x ∈ w.2.walk (path ++ [wildcard]) := by
  cases wild with
  | none => simp [walkWild]
  | some w => simp [walkWild]

/-- The walk of a tree visits the nodes at its addresses. The induction is on the tree, with the
path to it left open. -/
theorem mem_walk_iff (h : n.WellFormed) {path q : List String} {m : Node π} :
    (q, m) ∈ n.walk path ↔ ∃ address, n.get? address = some m ∧ q = path ++ address := by
  induction n using Node.induction generalizing path with
  | mk children wild ihChildren ihWild =>
    rw [walk, List.mem_cons, List.mem_append, mem_walkWild, mem_walkChildren]
    constructor
    · rintro (hself | ⟨w, hw, hmem⟩ | ⟨c, hc, hmem⟩)
      · cases hself
        exact ⟨[], rfl, by simp⟩
      · obtain ⟨address, hget, rfl⟩ := (ihWild w hw (h.subtree hw)).mp hmem
        refine ⟨wildcard :: address, get?_cons.mpr ⟨w.2, ?_, hget⟩, by simp⟩
        exact h.names.link?_eq_some_iff.mpr (Or.inr ⟨rfl, w.1, hw⟩)
      · obtain ⟨address, hget, rfl⟩ := (ihChildren c hc (h.child hc)).mp hmem
        refine ⟨c.1 :: address, get?_cons.mpr ⟨c.2, ?_, hget⟩, by simp⟩
        exact h.names.link?_eq_some_iff.mpr (Or.inl hc)
    · rintro ⟨address, hget, rfl⟩
      cases address with
      | nil =>
        cases hget
        exact Or.inl (by simp)
      | cons key rest =>
        obtain ⟨below, hbelow, hrest⟩ := get?_cons.mp hget
        -- The walk below a key starts at the path with this key at its end.
        have hpath : path ++ key :: rest = (path ++ [key]) ++ rest := by simp
        rcases h.names.link?_eq_some_iff.mp hbelow with hchild | ⟨rfl, slot, hwild⟩
        · have hmem : (path ++ key :: rest, m) ∈ below.walk (path ++ [key]) :=
            (ihChildren _ hchild (h.child hchild)).mpr ⟨rest, hrest, hpath⟩
          exact Or.inr (Or.inr ⟨_, hchild, hmem⟩)
        · have hmem : (path ++ wildcard :: rest, m) ∈ below.walk (path ++ [wildcard]) :=
            (ihWild _ hwild (h.subtree hwild)).mpr ⟨rest, hrest, hpath⟩
          exact Or.inr (Or.inl ⟨_, hwild, hmem⟩)

/-- The walk and the list of paths differ only in their order. -/
theorem perm_walk_paths (n : Node π) (path : List String) :
    ((n.walk path).map Prod.fst).Perm (n.paths path) := by
  induction n using Node.induction generalizing path with
  | mk children wild ihChildren ihWild =>
    have hwild : ((walkWild path wild).map Prod.fst).Perm (wildPaths path wild) := by
      cases wild with
      | none => exact .refl _
      | some w => exact ihWild w rfl _
    have hchildren : ((walkChildren path children).map Prod.fst).Perm
        (childPaths path children) := by
      -- The slot plays no part in the list of the children, and must not vary with it.
      clear hwild ihWild
      induction children with
      | nil => exact .refl _
      | cons c rest ih =>
        obtain ⟨hc, hrest⟩ := List.forall_mem_cons.mp ihChildren
        rw [walkChildren, childPaths, List.map_append]
        exact List.perm_append_comm.trans ((hc _).append (ih hrest))
    -- The walk takes the slot before the children, the list of paths after them.
    rw [walk, paths, List.map_cons, List.map_append]
    exact (List.perm_append_comm.trans (hchildren.append hwild)).cons path

/-- The paths of a tree are the addresses of its nodes, behind the path of the root. -/
theorem mem_paths_iff (h : n.WellFormed) {path q : List String} :
    q ∈ n.paths path ↔ ∃ address m, n.get? address = some m ∧ q = path ++ address := by
  rw [← (perm_walk_paths n path).mem_iff, List.mem_map]
  constructor
  · rintro ⟨⟨q, m⟩, hmem, rfl⟩
    obtain ⟨address, hget, hq⟩ := (mem_walk_iff h).mp hmem
    exact ⟨address, m, hget, hq⟩
  · rintro ⟨address, m, hget, rfl⟩
    exact ⟨(_, m), (mem_walk_iff h).mpr ⟨address, hget, rfl⟩, rfl⟩

/-- The paths below one key go through this key. -/
theorem exists_rest_of_mem_paths (h : n.WellFormed) {path q : List String} {key : String}
    (hq : q ∈ n.paths (path ++ [key])) : ∃ rest, q = path ++ key :: rest := by
  obtain ⟨address, m, -, rfl⟩ := (mem_paths_iff h).mp hq
  exact ⟨address, by simp⟩

/-- No path is listed twice: the paths below different keys differ at these keys. -/
theorem nodup_paths (h : n.WellFormed) (path : List String) : (n.paths path).Nodup := by
  induction n using Node.induction generalizing path with
  | mk children wild ihChildren ihWild =>
    rw [paths, childPaths_eq]
    have hbelow : ∀ q ∈ children.flatMap (fun c => c.2.paths (path ++ [c.1])),
        ∃ name ∈ children.map Prod.fst, ∃ rest, q = path ++ name :: rest := by
      intro q hq
      obtain ⟨c, hc, hmem⟩ := List.mem_flatMap.mp hq
      exact ⟨c.1, List.mem_map_of_mem hc, exists_rest_of_mem_paths (h.child hc) hmem⟩
    have hunder : ∀ q ∈ wildPaths path wild, ∃ rest, q = path ++ wildcard :: rest := by
      intro q hq
      cases wild with
      | none => exact absurd hq List.not_mem_nil
      | some w => exact exists_rest_of_mem_paths (h.subtree rfl) hq
    refine List.nodup_cons.mpr ⟨?_, List.nodup_append.mpr ⟨?_, ?_, ?_⟩⟩
    · -- All other paths are longer than the one of the node itself.
      intro hmem
      rcases List.mem_append.mp hmem with hmem | hmem
      · obtain ⟨name, -, rest, hq⟩ := hbelow path hmem
        simp at hq
      · obtain ⟨rest, hq⟩ := hunder path hmem
        simp at hq
    · -- Two children have different names.
      rw [List.nodup_flatMap]
      refine ⟨fun c hc => ihChildren c hc (h.child hc) _, ?_⟩
      have hnames : children.Pairwise fun c d => c.1 ≠ d.1 := List.pairwise_map.mp h.names.names_nodup
      refine hnames.imp_of_mem fun {c d} hc hd hne q hqc hqd => ?_
      obtain ⟨rest, rfl⟩ := exists_rest_of_mem_paths (h.child hc) hqc
      obtain ⟨rest', heq⟩ := exists_rest_of_mem_paths (h.child hd) hqd
      exact hne (List.cons.inj (List.append_cancel_left heq)).1
    · cases wild with
      | none => exact List.nodup_nil
      | some w => exact ihWild w rfl (h.subtree rfl) _
    · -- A child has a name, and the wildcard is none.
      intro q hq q' hq' heq
      obtain ⟨name, hname, rest, rfl⟩ := hbelow q hq
      obtain ⟨rest', rfl⟩ := hunder q' hq'
      exact ne_wildcard_of_isToken (h.names.names_token name hname)
        (List.cons.inj (List.append_cancel_left heq)).1

end Node

/-! ### Places -/

/-- The place behind one key. -/
def Place.below? (p : Place) (key : String) : Option Place :=
  (p.node.link? key).map fun n => ⟨p.path ++ [key], n⟩

namespace Place

variable {p q : Place}

/-- What is below a place has a path that is one key longer. -/
theorem below?_eq_some_iff {key : String} :
    p.below? key = some q ↔ ∃ n, p.node.link? key = some n ∧ q = ⟨p.path ++ [key], n⟩ := by
  rw [below?, Option.map_eq_some_iff]
  exact exists_congr fun n => and_congr_right fun _ => eq_comm

/-- The path of what is below a place. -/
theorem path_of_below? {key : String} (h : p.below? key = some q) : q.path = p.path ++ [key] := by
  obtain ⟨n, -, rfl⟩ := below?_eq_some_iff.mp h
  rfl

/-- A place is named by the key that it stands behind. -/
theorem name_of_below? {key : String} (h : p.below? key = some q) : q.name = key := by
  rw [name, path_of_below? h, List.getLastD_concat]

end Place

namespace Grammar

variable {g : Grammar} {p q : Place}

/-- The place at an address has the node there, and a path that begins with the root. -/
theorem place?_eq_some_iff {address : List String} :
    g.place? address = some p ↔ g.node.get? address = some p.node ∧ p.path = g.root :: address := by
  rw [place?, Option.map_eq_some_iff]
  constructor
  · rintro ⟨n, hn, rfl⟩
    exact ⟨hn, rfl⟩
  · rintro ⟨hn, hpath⟩
    exact ⟨p.node, hn, by rw [← hpath]⟩

/-- The places of a grammar are those at its addresses. -/
theorem mem_walk_iff (hg : g.WellFormed) : p ∈ g.walk ↔ ∃ address, g.place? address = some p := by
  rw [walk, List.mem_map]
  constructor
  · rintro ⟨⟨path, n⟩, hmem, rfl⟩
    obtain ⟨address, hget, rfl⟩ := (Node.mem_walk_iff hg.node).mp hmem
    exact ⟨address, place?_eq_some_iff.mpr ⟨hget, rfl⟩⟩
  · rintro ⟨address, hplace⟩
    obtain ⟨hget, hpath⟩ := place?_eq_some_iff.mp hplace
    refine ⟨(p.path, p.node), (Node.mem_walk_iff hg.node).mpr ⟨address, hget, ?_⟩, rfl⟩
    rw [hpath, List.singleton_append]

/-- The root is a place of the grammar. -/
theorem rootPlace_mem_walk (hg : g.WellFormed) : g.rootPlace ∈ g.walk :=
  (mem_walk_iff hg).mpr ⟨[], rfl⟩

/-- The nodes of a well-formed grammar are well-formed at all places. -/
theorem wellFormed_of_mem_walk (hg : g.WellFormed) (hp : p ∈ g.walk) : p.node.WellFormed := by
  obtain ⟨address, hplace⟩ := (mem_walk_iff hg).mp hp
  exact hg.node.of_get? (place?_eq_some_iff.mp hplace).1

/-- What stands below a place of a grammar is a place of the grammar. -/
theorem mem_walk_of_below (hg : g.WellFormed) (hp : p ∈ g.walk) {key : String}
    (h : p.below? key = some q) : q ∈ g.walk := by
  obtain ⟨address, hplace⟩ := (mem_walk_iff hg).mp hp
  obtain ⟨hget, hpath⟩ := place?_eq_some_iff.mp hplace
  obtain ⟨n, hn, rfl⟩ := Place.below?_eq_some_iff.mp h
  refine (mem_walk_iff hg).mpr ⟨address ++ [key], place?_eq_some_iff.mpr ⟨?_, ?_⟩⟩
  · rw [Node.get?_append, hget, Option.bind_some]
    exact Node.get?_cons.mpr ⟨n, hn, rfl⟩
  · rw [hpath, List.cons_append]

/-- Every place but the root stands below another one. -/
theorem exists_above (hg : g.WellFormed) (hq : q ∈ g.walk) :
    q = g.rootPlace ∨ ∃ p ∈ g.walk, ∃ key, p.below? key = some q := by
  obtain ⟨address, hplace⟩ := (mem_walk_iff hg).mp hq
  obtain ⟨hget, hpath⟩ := place?_eq_some_iff.mp hplace
  rcases List.eq_nil_or_concat address with rfl | ⟨front, key, rfl⟩
  · exact Or.inl (Option.some.inj hplace).symm
  · -- The address without its last key is that of the place above.
    rw [List.concat_eq_append, Node.get?_append] at hget
    obtain ⟨m, hm, hlast⟩ := Option.bind_eq_some_iff.mp hget
    obtain ⟨n, hn, hnode⟩ := Node.get?_cons.mp hlast
    cases hnode
    refine Or.inr ⟨⟨g.root :: front, m⟩, ?_, key, Place.below?_eq_some_iff.mpr ⟨_, hn, ?_⟩⟩
    · exact (mem_walk_iff hg).mpr ⟨front, place?_eq_some_iff.mpr ⟨hm, rfl⟩⟩
    · rw [List.cons_append, ← List.concat_eq_append, ← hpath]

/-- The declared path determines the place. -/
theorem eq_of_path_eq (hg : g.WellFormed) (hp : p ∈ g.walk) (hq : q ∈ g.walk)
    (h : p.path = q.path) : p = q := by
  obtain ⟨address, hplace⟩ := (mem_walk_iff hg).mp hp
  obtain ⟨address', hplace'⟩ := (mem_walk_iff hg).mp hq
  have haddress : g.root :: address = g.root :: address' := by
    rw [← (place?_eq_some_iff.mp hplace).2, ← (place?_eq_some_iff.mp hplace').2, h]
  rw [(List.cons.inj haddress).2] at hplace
  exact Option.some.inj (hplace.symm.trans hplace')

/-- A place whose path is that of another one with one key more stands below it. -/
theorem below_of_path_eq (hg : g.WellFormed) (hp : p ∈ g.walk) (hq : q ∈ g.walk) {key : String}
    (h : q.path = p.path ++ [key]) : p.below? key = some q := by
  obtain ⟨address, hplace⟩ := (mem_walk_iff hg).mp hp
  obtain ⟨hget, hpath⟩ := place?_eq_some_iff.mp hplace
  obtain ⟨address', hplace'⟩ := (mem_walk_iff hg).mp hq
  obtain ⟨hget', hpath'⟩ := place?_eq_some_iff.mp hplace'
  obtain rfl : address' = address ++ [key] := by
    rw [hpath, hpath', List.cons_append] at h
    exact (List.cons.inj h).2
  -- What is left of the second address behind the first one is the key.
  rw [Node.get?_append, hget, Option.bind_some] at hget'
  obtain ⟨n, hn, hnode⟩ := Node.get?_cons.mp hget'
  cases hnode
  exact Place.below?_eq_some_iff.mpr ⟨q.node, hn, by rw [← h]⟩

/-- No path is empty, as each begins with the root. -/
theorem length_path_pos (hg : g.WellFormed) (hp : p ∈ g.walk) : 0 < p.path.length := by
  obtain ⟨address, hplace⟩ := (mem_walk_iff hg).mp hp
  rw [(place?_eq_some_iff.mp hplace).2]
  exact Nat.succ_pos _

/-- The walk meets the declared paths, in an order of its own. -/
theorem perm_map_path_walk (g : Grammar) : (g.walk.map Place.path).Perm g.paths := by
  rw [walk, List.map_map]
  exact Node.perm_walk_paths g.node [g.root]

/-- No two places have the same path. -/
theorem nodup_map_path_walk (hg : g.WellFormed) : (g.walk.map Place.path).Nodup :=
  (perm_map_path_walk g).nodup_iff.mpr (Node.nodup_paths hg.node [g.root])

/-! ### Declared scopes -/

/-- The scope of a declared path. -/
theorem exists_scope_of_mem_paths (hg : g.WellFormed) {path : List String} (h : path ∈ g.paths) :
    ∃ s, Scope.ofSegments path = .ok s ∧ s.segments = path := by
  obtain ⟨address, m, hget, rfl⟩ := (Node.mem_paths_iff hg.node).mp h
  have hsegment : ∀ key ∈ [g.root] ++ address, IsSegment key := by
    rw [List.singleton_append, List.forall_mem_cons]
    exact ⟨isSegment_of_isToken hg.root_token, hg.node.isSegment_of_get? hget⟩
  exact ⟨⟨_, List.cons_ne_nil _ _, hsegment⟩, Scope.ofSegments_segments ⟨_, _, hsegment⟩, rfl⟩

/-- The declared scopes are those whose segments are a declared path. -/
theorem mem_declaredScopes_iff_mem_paths {d : Scope} :
    d ∈ g.declaredScopes.members ↔ d.segments ∈ g.paths := by
  rw [declaredScopes, ScopeSet.mem_members_ofList, List.mem_filterMap]
  constructor
  · rintro ⟨path, hpath, hd⟩
    cases hscope : Scope.ofSegments path with
    | error e =>
      rw [hscope] at hd
      cases hd
    | ok s =>
      rw [hscope] at hd
      cases hd
      rw [Scope.segments_of_ofSegments hscope]
      exact hpath
  · intro hmem
    exact ⟨d.segments, hmem, by rw [Scope.ofSegments_segments]; rfl⟩

/-- The declared scopes are the declared paths of the places. -/
theorem mem_declaredScopes_iff {d : Scope} :
    d ∈ g.declaredScopes.members ↔ ∃ p ∈ g.walk, p.path = d.segments := by
  rw [mem_declaredScopes_iff_mem_paths, ← (perm_map_path_walk g).mem_iff, List.mem_map]

/-- Every place has its declared scope. -/
theorem exists_declaredScope (hg : g.WellFormed) (hp : p ∈ g.walk) :
    ∃ d ∈ g.declaredScopes.members, d.segments = p.path := by
  have hpath : p.path ∈ g.paths := (perm_map_path_walk g).mem_iff.mp (List.mem_map_of_mem hp)
  obtain ⟨d, -, hd⟩ := exists_scope_of_mem_paths hg hpath
  exact ⟨d, mem_declaredScopes_iff.mpr ⟨p, hp, hd.symm⟩, hd⟩

/-- The declared scopes have the declared paths as segments, each one once. -/
theorem perm_map_segments_declaredScopes (hg : g.WellFormed) :
    (g.declaredScopes.members.map Scope.segments).Perm g.paths := by
  refine (List.perm_ext_iff_of_nodup ?_ (Node.nodup_paths hg.node [g.root])).mpr fun path => ?_
  · exact g.declaredScopes.nodup.map fun _ _ h => Scope.ext h
  · rw [List.mem_map]
    constructor
    · rintro ⟨d, hd, rfl⟩
      exact mem_declaredScopes_iff_mem_paths.mp hd
    · intro hpath
      obtain ⟨d, -, rfl⟩ := exists_scope_of_mem_paths hg hpath
      exact ⟨d, mem_declaredScopes_iff_mem_paths.mpr hpath, rfl⟩

/-- There are as many declared scopes as places. -/
theorem size_declaredScopes (hg : g.WellFormed) : g.declaredScopes.size = g.walk.length := by
  have hscopes : g.declaredScopes.members.length = g.paths.length := by
    simpa using (perm_map_segments_declaredScopes hg).length_eq
  have hwalk : g.walk.length = g.paths.length := by
    simpa using (perm_map_path_walk g).length_eq
  rw [ScopeSet.size, hscopes, hwalk]

end Grammar

end AccessScopes
