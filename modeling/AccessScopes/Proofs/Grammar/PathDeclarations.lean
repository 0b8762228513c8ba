import AccessScopes.Proofs.Grammar.Arrangement
import AccessScopes.Proofs.Grammar.Literal
import AccessScopes.Proofs.Grammar.Rejection
import AccessScopes.Proofs.ScopeSet.Queries

/-!
# `AccessScopes.Proofs.Grammar.PathDeclarations`: grammars declared by paths

A grammar may be declared by a list of paths below the root. Paths share the nodes of their common
beginnings, so the list may be put in another order, a path may be given twice, and a path may be
replaced by one step for each of its names. What remains of the order is the order of the children
of a node. Readings do not depend on it, except for the node that a rejection names as its reason.

* `Grammar.hasNode_add_iff` and `Grammar.hasNode_addChain_iff`: the nodes after a declaration are
  those before it and those that it names.
* `Grammar.exists_ofPathCalls`: which nodes a list of paths declares. The proof goes along the list.
* `Grammar.parse_alike`: two grammars without wild slots, with the same root and the same declared
  scopes, read every scope alike.
* `Grammar.path_declarations_commute` puts this together.
-/

set_option autoImplicit false

namespace AccessScopes

/-! ### The nodes that a declaration adds -/

namespace Node

variable {π : Type} {n : Node π}

/-- A node that is there after a change was there before, or it stands below the address of the
change. The induction is on this address. -/
theorem HasNode.of_update {f : Node π → Node π} {changed address : List String}
    (h : (n.update f changed).HasNode address) :
    n.HasNode address ∨ ∃ m back, n.get? changed = some m ∧ address = changed ++ back
      ∧ (f m).HasNode back := by
  induction changed generalizing n address with
  | nil => exact Or.inr ⟨n, address, rfl, rfl, h⟩
  | cons first rest ih =>
    cases address with
    | nil => exact Or.inl (hasNode_nil n)
    | cons key tail =>
      obtain ⟨below, hlink, htail⟩ := hasNode_cons.mp h
      rw [link?_update_cons] at hlink
      split at hlink
      · next hkey =>
        -- The address goes the way of the change, at least so far.
        subst hkey
        obtain ⟨old, hold, rfl⟩ := Option.map_eq_some_iff.mp hlink
        rcases ih htail with hbefore | ⟨m, back, hm, rfl, hback⟩
        · exact Or.inl (hasNode_cons.mpr ⟨old, hold, hbefore⟩)
        · exact Or.inr ⟨m, back, get?_cons.mpr ⟨old, hold, hm⟩, rfl, hback⟩
      · exact Or.inl (hasNode_cons.mpr ⟨below, hlink, htail⟩)

/-- Behind a key of a node with a new child stands what stood there before, or the child. -/
theorem of_link?_addChild {name key : String} {below : Node π}
    (h : (n.addChild name).link? key = some below) :
    n.link? key = some below ∨ key = name ∧ below = leaf := by
  obtain ⟨children, wild⟩ := n
  by_cases hkey : key = wildcard
  · exact Or.inl (by simpa [addChild, link?, hkey, Node.wild] using h)
  · have hlookup : (children ++ [(name, leaf)]).lookup key = some below := by
      simpa [addChild, link?, hkey, Node.children] using h
    rw [List.lookup_append] at hlookup
    -- A child of this name that was there before is found first.
    cases hold : children.lookup key with
    | some old =>
      rw [hold] at hlookup
      exact Or.inl (by simpa [link?, hkey, Node.children, hold] using hlookup)
    | none =>
      rw [hold, Option.none_or] at hlookup
      have hmem : (key, below) ∈ [(name, (leaf : Node π))] := mem_of_lookup hlookup
      simpa using Or.inr (List.mem_singleton.mp hmem)

/-- A leaf is alone. -/
theorem hasNode_leaf_iff {address : List String} :
    (leaf : Node π).HasNode address ↔ address = [] := by
  cases address with
  | nil => exact iff_of_true (hasNode_nil _) rfl
  | cons key rest => simp [hasNode_cons, leaf, link?, Node.wild, Node.children]

/-- With a new child there is one node more. -/
theorem HasNode.of_addChild {name : String} {address : List String}
    (h : (n.addChild name).HasNode address) : n.HasNode address ∨ address = [name] := by
  cases address with
  | nil => exact Or.inl (hasNode_nil n)
  | cons key rest =>
    obtain ⟨below, hlink, hrest⟩ := hasNode_cons.mp h
    rcases of_link?_addChild hlink with hbefore | ⟨rfl, rfl⟩
    · exact Or.inl (hasNode_cons.mpr ⟨below, hbefore, hrest⟩)
    · rw [hasNode_leaf_iff.mp hrest]
      exact Or.inr rfl

end Node

namespace Grammar

variable {g g' : Grammar} {address : Address}

/-- Declaring a name adds the node of this name and no other. -/
theorem hasNode_add_iff (hopen : g.isSealed = false) (h : g.node.HasNode address) {name : String}
    (htoken : isToken name = true) {a : Address} :
    (g.add address name).1.node.HasNode a ↔ g.node.HasNode a ∨ a = address ++ [name] := by
  constructor
  · intro ha
    rcases g.add_cases address name with ⟨e, heq⟩ | ⟨-, -, heq⟩ | ⟨-, -, -, heq⟩
    · rw [heq] at ha
      exact Or.inl ha
    · rw [heq] at ha
      exact Or.inl ha
    · -- Here the child is new, and it is all that is new below the address.
      rw [heq] at ha
      rcases ha.of_update with hbefore | ⟨m, back, hm, rfl, hback⟩
      · exact Or.inl hbefore
      · rcases hback.of_addChild with hbefore | rfl
        · exact Or.inl (Node.hasNode_append.mpr ⟨m, hm, hbefore⟩)
        · exact Or.inr rfl
  · rintro (ha | rfl)
    · exact (Keeps.add h name).hasNode a ha
    · exact (Keeps.add h name).handedOut _ (add_of_token hopen htoken address)

/-- A chain adds the nodes that its beginnings lead to. -/
theorem hasNode_addChain_iff (hopen : g.isSealed = false) (h : g.node.HasNode address)
    {names : List String} (htoken : ∀ name ∈ names, isToken name = true) {a : Address} :
    (g.addChain address names).1.node.HasNode a
      ↔ g.node.HasNode a ∨ ∃ front, front <+: names ∧ a = address ++ front := by
  induction names generalizing g address with
  | nil =>
    show g.node.HasNode a ↔ _
    constructor
    · exact Or.inl
    · rintro (ha | ⟨front, hfront, rfl⟩)
      · exact ha
      · rwa [List.prefix_nil.mp hfront, List.append_nil]
  | cons name rest ih =>
    obtain ⟨hname, hrest⟩ := List.forall_mem_cons.mp htoken
    have hok := add_of_token hopen hname address
    have hstays := (frame_add g address name).2
    have hadd : ∀ b, (g.add address name).1.node.HasNode b
        ↔ g.node.HasNode b ∨ b = address ++ [name] := fun b => hasNode_add_iff hopen h hname
    rw [addChain]
    cases hstep : g.add address name with
    | mk g₁ outcome =>
      rw [hstep] at hok hstays hadd
      obtain rfl : outcome = .ok (address ++ [name]) := hok
      show (g₁.addChain (address ++ [name]) rest).1.node.HasNode a ↔ _
      rw [ih (hstays.trans hopen) ((hadd _).mpr (Or.inr rfl)) hrest, hadd]
      -- A beginning of the names is empty, or it has the first name in front.
      constructor
      · rintro ((ha | rfl) | ⟨front, hfront, rfl⟩)
        · exact Or.inl ha
        · exact Or.inr ⟨[name], List.prefix_append [name] rest, rfl⟩
        · refine Or.inr ⟨name :: front, (List.prefix_cons_inj name).mpr hfront, ?_⟩
          rw [List.append_assoc, List.singleton_append]
      · rintro (ha | ⟨front, hfront, rfl⟩)
        · exact Or.inl (Or.inl ha)
        · cases front with
          | nil => exact Or.inl (Or.inl (by rwa [List.append_nil]))
          | cons first tail =>
            obtain ⟨rfl, htail⟩ := List.cons_prefix_cons.mp hfront
            exact Or.inr ⟨tail, htail, by rw [List.append_assoc, List.singleton_append]⟩

end Grammar

/-! ### Lists of paths -/

/-- A declaration of names below the root, each below the one before: by a path, or by one step for
each name. -/
inductive PathCall where
  | path (text : String)
  | steps (names : List String)

/-- The names that are declared, from the root on. -/
def PathCall.names : PathCall → List String
  | .path text => Text.split separator text
  | .steps names => names

namespace Grammar

/-- The grammar after a declaration step. A caller who does not expect an error stops at it. -/
def expectOk : Grammar × Except ArgumentError Address → Except ArgumentError Grammar
  | (g, .ok _) => .ok g
  | (_, .error e) => .error e

/-- Declares names by single steps, each on the node that the one before handed out. -/
def declareSteps (g : Grammar) (address : Address) : List String → Except ArgumentError Grammar
  | [] => .ok g
  | name :: rest =>
    match g.declare address (.child name) with
    | (g, .ok below) => g.declareSteps below rest
    | (_, .error e) => .error e

/-- Makes a declaration below the root. -/
def runPathCall (g : Grammar) : PathCall → Except ArgumentError Grammar
  | .path text => expectOk (g.declare [] (.chain text))
  | .steps names => g.declareSteps [] names

/-- The grammar that a list of declarations below the root makes. -/
def ofPathCalls (root : String) (calls : List PathCall) : Except ArgumentError Grammar := do
  let g ← ofRoot root
  let g ← calls.foldlM runPathCall g
  return g.finish

variable {g g' : Grammar} {call : PathCall} {calls calls' : List PathCall} {root : String}

/-- Single steps have the outcome of the chain. -/
theorem declareSteps_eq (g : Grammar) (address : Address) (names : List String) :
    g.declareSteps address names = expectOk (g.addChain address names) := by
  induction names generalizing g address with
  | nil => rfl
  | cons name rest ih =>
    rw [declareSteps, addChain, declare]
    cases g.add address name with
    | mk g' outcome =>
      cases outcome with
      | ok below => exact ih g' below
      | error e => rfl

/-- A path and single steps for its names declare the same. -/
theorem runPathCall_eq (g : Grammar) (call : PathCall) :
    g.runPathCall call = expectOk (g.addChain [] call.names) := by
  cases call with
  | path text => rfl
  | steps names => exact declareSteps_eq g [] names

/-- What a list of declarations leads to: an open grammar with the nodes that there were, and one
for each beginning of the names in the list. -/
structure Leads (g : Grammar) (calls : List PathCall) (g' : Grammar) : Prop where
  root : g'.root = g.root
  isOpen : g'.isSealed = false
  wellFormed : g'.node.WellFormed
  hasNode : ∀ a, g'.node.HasNode a
    ↔ g.node.HasNode a ∨ ∃ call ∈ calls, a <+: PathCall.names call

/-- A path of tokens can be declared, and adds the nodes along it. -/
theorem exists_runPathCall (hg : g.node.WellFormed) (hopen : g.isSealed = false)
    (htoken : ∀ name ∈ call.names, isToken name = true) :
    ∃ g', g.runPathCall call = .ok g' ∧ g.Leads [call] g' := by
  have hok := addChain_of_tokens hopen htoken []
  have hwf := wellFormed_addChain hg [] call.names
  have hframe := frame_addChain g [] call.names
  have hnodes : ∀ a, (g.addChain [] call.names).1.node.HasNode a
      ↔ g.node.HasNode a ∨ ∃ front, front <+: call.names ∧ a = [] ++ front :=
    fun a => hasNode_addChain_iff hopen (Node.hasNode_nil _) htoken
  rw [runPathCall_eq]
  cases hstep : g.addChain [] call.names with
  | mk g' outcome =>
    -- In an open grammar the chain is declared to its end, so all beginnings are there.
    rw [hstep] at hok hwf hframe hnodes
    obtain rfl : outcome = .ok ([] ++ call.names) := hok
    refine ⟨g', rfl, hframe.1, hframe.2.trans hopen, hwf, ?_⟩
    intro a
    rw [hnodes]
    simp

/-- Declarations one after the other add up. -/
theorem exists_runPathCalls (hg : g.node.WellFormed) (hopen : g.isSealed = false)
    (htoken : ∀ call ∈ calls, ∀ name ∈ PathCall.names call, isToken name = true) :
    ∃ g', calls.foldlM runPathCall g = .ok g' ∧ g.Leads calls g' := by
  induction calls generalizing g with
  | nil => exact ⟨g, rfl, rfl, hopen, hg, by simp⟩
  | cons call rest ih =>
    obtain ⟨hcall, hrest⟩ := List.forall_mem_cons.mp htoken
    -- The others are made in the grammar that the first one leads to.
    obtain ⟨g₁, hrun, hfirst⟩ := exists_runPathCall hg hopen hcall
    obtain ⟨g₂, hruns, hothers⟩ := ih hfirst.wellFormed hfirst.isOpen hrest
    refine ⟨g₂, ?_, hothers.root.trans hfirst.root, hothers.isOpen, hothers.wellFormed, ?_⟩
    · rw [List.foldlM_cons, hrun]
      exact hruns
    · intro a
      rw [hothers.hasNode, hfirst.hasNode, List.exists_mem_cons_iff, or_assoc]
      simp

/-- A list of declarations makes a grammar with one node for each beginning of the names in it. No
name is the wildcard, so there are no slots. -/
theorem exists_ofPathCalls (hroot : isToken root = true)
    (htoken : ∀ call ∈ calls, ∀ name ∈ PathCall.names call, isToken name = true) :
    ∃ g, ofPathCalls root calls = .ok g ∧ g.root = root ∧ g.WellFormed ∧ g.IsLiteral
      ∧ ∀ a, g.node.HasNode a ↔ a = [] ∨ ∃ call ∈ calls, a <+: PathCall.names call := by
  let start : Grammar := ⟨root, .leaf, false⟩
  have hstart : ofRoot root = .ok start := by
    rw [ofRoot, checkName, if_pos hroot]
    rfl
  obtain ⟨g, hrun, hleads⟩ := exists_runPathCalls (g := start) Node.WellFormed.leaf rfl htoken
  have hnodes : ∀ a, g.node.HasNode a ↔ a = [] ∨ ∃ call ∈ calls, a <+: PathCall.names call := by
    intro a
    rw [hleads.hasNode, Node.hasNode_leaf_iff]
  have hwf : g.finish.WellFormed :=
    ⟨by show isToken g.root = true; rw [hleads.root]; exact hroot, hleads.wellFormed⟩
  refine ⟨g.finish, ?_, hleads.root, hwf, ?_, hnodes⟩
  · rw [ofPathCalls, hstart]
    show calls.foldlM runPathCall start >>= _ = _
    rw [hrun]
    rfl
  · intro p hp
    obtain ⟨address, hplace⟩ := (mem_walk_iff hwf).mp hp
    have hget : g.node.get? address = some p.node := (place?_eq_some_iff.mp hplace).1
    cases hwild : p.node.wild with
    | none => rfl
    | some w =>
      -- The subtree of a slot would be a node whose address ends with the wildcard.
      have hbelow : g.node.HasNode (address ++ [wildcard]) := by
        refine Node.hasNode_append.mpr ⟨p.node, hget, Node.hasNode_cons.mpr ⟨w.2, ?_, ?_⟩⟩
        · rw [Node.link?, if_pos rfl, hwild, Option.map_some]
        · exact Node.hasNode_nil w.2
      rcases (hnodes _).mp hbelow with hnil | ⟨call, hcall, hfront⟩
      · simp at hnil
      · have hmem : wildcard ∈ PathCall.names call := hfront.subset (by simp)
        exact absurd rfl (ne_wildcard_of_isToken (htoken call hcall wildcard hmem))

/-- The declared scopes stand for the nodes. -/
theorem mem_declaredScopes_iff_hasNode (hg : g.WellFormed) {d : Scope} :
    d ∈ g.declaredScopes.members ↔ ∃ a, g.node.HasNode a ∧ d.segments = g.root :: a := by
  rw [mem_declaredScopes_iff_mem_paths, paths, Node.mem_paths_iff hg.node]
  constructor
  · rintro ⟨a, m, hm, hd⟩
    exact ⟨a, ⟨m, hm⟩, hd⟩
  · rintro ⟨a, ⟨m, hm⟩, hd⟩
    exact ⟨a, m, hm, hd⟩

/-! ### Readings alike -/

/-- Whether two readings have the same outcome. Where both are rejections, they may differ in their
reasons. -/
inductive ReadAlike : Except Failure Scope → Except Failure Scope → Prop
  | same (outcome : Except Failure Scope) : ReadAlike outcome outcome
  | rejected (r : Rejection) (reason : Reason) :
    ReadAlike (.error (.rejection r)) (.error (.rejection { r with reason := reason }))

/-- Without slots, a scope that is accepted is read as it is. -/
theorem parse_of_accepts (hg : g.WellFormed) (hlit : g.IsLiteral) {s : Scope}
    (h : g.accepts s = true) : (g.parse s).1 = .ok s := by
  obtain ⟨c, hc⟩ := (accepts_iff hg).mp h
  refine parse_eq_ok_iff.mpr ⟨c, hc, ?_⟩
  rw [Cursor.toScope, (Cursor.exact_of_navigate hg hlit hc).1, Scope.ofSegments_segments]

/-- Without slots, a rejection holds the segment that is refused and the segments before it as they
are written. -/
theorem segments_of_rejected (hg : g.WellFormed) (hlit : g.IsLiteral) {segments : List String}
    (hne : segments ≠ []) {r : Rejection} (h : g.navigate segments = .error r) :
    ∃ back, segments = r.path ++ r.key :: back := by
  obtain ⟨first, rest, rfl⟩ := List.exists_cons_of_ne_nil hne
  rcases navigate_eq_error_iff.mp h with ⟨-, rfl⟩ | ⟨front, segment, back, c, hsplit, hc, hread⟩
  · exact ⟨rest, rfl⟩
  · obtain ⟨hsegments, hexact⟩ := Cursor.exact_of_navigate hg hlit hc
    rw [Cursor.read, Cursor.moveFor_literal hlit hexact.within] at hread
    obtain ⟨hkey, hpath⟩ := Cursor.rejection_of_move hread
    refine ⟨back, ?_⟩
    rw [hkey, hpath, hsegments, hsplit]
    rfl

/-- The accepted beginnings of a scope decide how far a reading of it gets. -/
theorem StopsAt.length_le {s : Scope} {e e' : Rejection} (h : g.StopsAt s e) (h' : g'.StopsAt s e')
    (haccepts : ∀ t : Scope, g.accepts t = true → g'.accepts t = true) :
    e.path.length ≤ e'.path.length := by
  rcases Nat.eq_zero_or_pos e.path.length with hzero | hpos
  · omega
  · have hle : e.path.length ≤ s.length := Nat.le_of_lt h.length_lt
    have hfront := (h.accepts_iff e.path.length hpos hle).mpr (Nat.le_refl _)
    exact (h'.accepts_iff e.path.length hpos hle).mp (haccepts _ hfront)

/-- Two grammars without slots, with the same root and the same declared scopes, read alike. They
accept the same scopes, so a scope that they reject is refused at the same segment. -/
theorem parse_alike (hg : g.WellFormed) (hlit : g.IsLiteral) (hg' : g'.WellFormed)
    (hlit' : g'.IsLiteral) (hroot : g.root = g'.root)
    (hscopes : ∀ d, d ∈ g.declaredScopes.members ↔ d ∈ g'.declaredScopes.members) (s : Scope) :
    ReadAlike (g.parse s).1 (g'.parse s).1 := by
  have haccepts : ∀ t : Scope, g.accepts t = true ↔ g'.accepts t = true := by
    intro t
    simp only [accepts_iff_goesOn hg hlit, accepts_iff_goesOn hg' hlit', GoesOn, hscopes, hroot]
  by_cases h : g.accepts s = true
  · rw [parse_of_accepts hg hlit h, parse_of_accepts hg' hlit' ((haccepts s).mp h)]
    exact .same _
  · have h' : ¬ g'.accepts s = true := fun hs => h ((haccepts s).mpr hs)
    obtain ⟨r, hr⟩ := exists_error_iff.mpr fun hc => h ((accepts_iff hg).mpr hc)
    obtain ⟨r', hr'⟩ := exists_error_iff.mpr fun hc => h' ((accepts_iff hg').mpr hc)
    obtain ⟨front, segment, back, hsplit, hstop⟩ := stopped_of_navigate s.segments_ne hr
    obtain ⟨front', segment', back', hsplit', hstop'⟩ := stopped_of_navigate s.segments_ne hr'
    have hstops := StopsAt.of_stopped hg hsplit hstop
    have hstops' := StopsAt.of_stopped hg' hsplit' hstop'
    have hle := hstops.length_le hstops' fun t => (haccepts t).mp
    have hge := hstops'.length_le hstops fun t => (haccepts t).mpr
    have hlength : r.path.length = r'.path.length := Nat.le_antisymm hle hge
    -- Both rejections are cut from the segments at the same position.
    obtain ⟨rest, hrest⟩ := segments_of_rejected hg hlit s.segments_ne hr
    obtain ⟨rest', hrest'⟩ := segments_of_rejected hg' hlit' s.segments_ne hr'
    obtain ⟨hpath, htail⟩ := List.append_inj (hrest.symm.trans hrest') hlength
    have hkey : r.key = r'.key := (List.cons.inj htail).1
    have heq : { r' with audited := true }
        = { { r with audited := true } with reason := r'.reason } := by
      rw [hkey, hpath]
    rw [parse_eq_rejection_iff.mpr ⟨r, hr, rfl⟩, parse_eq_rejection_iff.mpr ⟨r', hr', rfl⟩, heq]
    exact .rejected _ _

/-- The order in which paths are declared does not matter. Take any root that is a token, and any
list of declarations below it whose names are tokens, by paths or by single steps. The list makes a
grammar, and the declared scopes are the root and, for each declaration, the root with every
non-empty beginning of its names. Any other list of declarations of the same names, in any order,
with any repetitions, by paths or by single steps, makes a grammar with the same declared scopes
that reads every value alike. -/
theorem path_declarations_commute (hroot : isToken root = true)
    (htoken : ∀ call ∈ calls, ∀ name ∈ PathCall.names call, isToken name = true) :
    ∃ g, ofPathCalls root calls = .ok g
      ∧ (∀ d : Scope, d ∈ g.declaredScopes.members ↔ d.segments = [root]
        ∨ ∃ call ∈ calls, ∃ front, front ≠ [] ∧ front <+: PathCall.names call
          ∧ d.segments = root :: front)
      ∧ ∀ calls' : List PathCall,
        (∀ names, names ∈ calls.map PathCall.names ↔ names ∈ calls'.map PathCall.names) →
        ∃ g', ofPathCalls root calls' = .ok g' ∧ g.declaredScopes.same g'.declaredScopes = true
          ∧ ∀ v, ReadAlike (g.parseValue v).1 (g'.parseValue v).1 := by
  obtain ⟨g, hg, hgroot, hwf, hlit, hnodes⟩ := exists_ofPathCalls hroot htoken
  refine ⟨g, hg, ?_, ?_⟩
  · intro d
    rw [mem_declaredScopes_iff_hasNode hwf, hgroot]
    constructor
    · rintro ⟨a, ha, hd⟩
      rcases (hnodes a).mp ha with rfl | ⟨call, hcall, hfront⟩
      · exact Or.inl hd
      · by_cases hnil : a = []
        · exact Or.inl (hnil ▸ hd)
        · exact Or.inr ⟨call, hcall, a, hnil, hfront, hd⟩
    · rintro (hd | ⟨call, hcall, front, -, hfront, hd⟩)
      · exact ⟨[], (hnodes []).mpr (Or.inl rfl), hd⟩
      · exact ⟨front, (hnodes front).mpr (Or.inr ⟨call, hcall, hfront⟩), hd⟩
  · intro calls' hnames
    -- Everything is said of the names of the calls, which are the same in both lists.
    have hsame : ∀ P : List String → Prop, (∃ call ∈ calls, P (PathCall.names call))
        ↔ ∃ call ∈ calls', P (PathCall.names call) := by
      intro P
      have hmap : ∀ list : List PathCall, (∃ call ∈ list, P (PathCall.names call))
          ↔ ∃ names ∈ list.map PathCall.names, P names := by
        simp
      rw [hmap, hmap]
      exact exists_congr fun names => and_congr_left fun _ => hnames names
    have htoken' : ∀ call ∈ calls', ∀ name ∈ PathCall.names call, isToken name = true := by
      intro call hcall
      obtain ⟨call₀, hcall₀, heq⟩ :=
        List.mem_map.mp ((hnames _).mpr (List.mem_map_of_mem hcall))
      rw [← heq]
      exact htoken call₀ hcall₀
    obtain ⟨g', hg', hgroot', hwf', hlit', hnodes'⟩ := exists_ofPathCalls hroot htoken'
    have hscopes : ∀ d, d ∈ g.declaredScopes.members ↔ d ∈ g'.declaredScopes.members := by
      intro d
      simp only [mem_declaredScopes_iff_hasNode hwf, mem_declaredScopes_iff_hasNode hwf', hnodes,
        hnodes', hgroot, hgroot', hsame]
    refine ⟨g', hg', ScopeSet.same_eq_true_iff.mpr hscopes, ?_⟩
    intro v
    -- A value that means no scope is refused before any grammar is asked.
    unfold parseValue
    cases hv : v.toScope with
    | error e => exact .same _
    | ok s => exact parse_alike hwf hlit hwf' hlit' (hgroot.trans hgroot'.symm) hscopes s

/-- Three paths in another order, one of them twice and one by single steps: the grammars declare the
same scopes, `api.own` among them, and read alike. -/
theorem path_declarations_commute_branching :
    ∃ g g', ofPathCalls "api" [.path "own.read", .path "own.delete", .path "all.read"] = .ok g
      ∧ ofPathCalls "api" [.steps ["all", "read"], .path "own.delete", .path "own.read",
        .path "own.delete"] = .ok g'
      ∧ (∀ d : Scope, d.segments = ["api", "own"] → d ∈ g'.declaredScopes.members)
      ∧ ∀ v, ReadAlike (g.parseValue v).1 (g'.parseValue v).1 := by
  let calls : List PathCall := [.path "own.read", .path "own.delete", .path "all.read"]
  let calls' : List PathCall := [.steps ["all", "read"], .path "own.delete", .path "own.read",
    .path "own.delete"]
  have hmap : calls.map PathCall.names = [["own", "read"], ["own", "delete"], ["all", "read"]] := by
    decide +kernel
  have hmap' : calls'.map PathCall.names
      = [["all", "read"], ["own", "delete"], ["own", "read"], ["own", "delete"]] := by
    decide +kernel
  have htoken : ∀ call ∈ calls, ∀ name ∈ PathCall.names call, isToken name = true := by
    decide +kernel
  have hnames : ∀ names,
      names ∈ calls.map PathCall.names ↔ names ∈ calls'.map PathCall.names := by
    intro names
    rw [hmap, hmap']
    simp only [List.mem_cons, List.not_mem_nil, or_false]
    grind
  obtain ⟨g, hg, hscopes, hothers⟩ :=
    path_declarations_commute (show isToken "api" = true by decide) htoken
  obtain ⟨g', hg', hsame, halike⟩ := hothers calls' hnames
  refine ⟨g, g', hg, hg', ?_, halike⟩
  intro d hd
  refine (ScopeSet.same_eq_true_iff.mp hsame d).mp ((hscopes d).mpr (Or.inr ?_))
  exact ⟨.path "own.read", List.mem_cons_self, ["own"], by simp, by decide +kernel, hd⟩

end Grammar

end AccessScopes
