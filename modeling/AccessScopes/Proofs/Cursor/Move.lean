import AccessScopes.Cursor
import AccessScopes.Proofs.Grammar.WellFormed

/-!
# `AccessScopes.Proofs.Cursor.Move`: what one move does

A move looks at each place of the cursor by itself. `Move.successors?` says where it leads from
one place, with the cases of `Move.Successors`, and `Move.written` what it writes.
`Cursor.move_eq_ok_iff` says everything about a move that succeeds in terms of these, so no later
proof opens the moves again.

* `Cursor.segments_of_move` and `Cursor.WellFormed.move`: a move writes one segment and stays
  among well-formed nodes.
* `Cursor.hasStep_of_step`, `Cursor.isToken_of_hasStep` and `Cursor.isWritten_of_move`: what is
  written is the wildcard, a declared name, or tokens.
* `Cursor.exists_reason_of_move`: a move that is refused names what it would have written, the
  segments before it, and a reason of the library's own.
* `Cursor.segments_of_run` and `Cursor.WellFormed.run`: the same for a run of moves.
-/

set_option autoImplicit false

namespace AccessScopes

/-- Whether a reason is one that this library gives, and not a caller. -/
def Reason.Own (reason : Reason) : Prop :=
  ∀ text, reason ≠ .stated text

/-! ### One place -/

namespace Place

variable {p q : Place}

/-- A name leads to a child of that name, or by an alias to the subtree of the slot. -/
theorem named?_eq_some {key : String} (h : p.named? key = some q) :
    (∃ n, p.node.children.lookup key = some n ∧ q = ⟨p.path ++ [key], n⟩)
      ∨ ∃ w, p.node.wild = some w ∧ key ∈ w.1.aliases ∧ q = ⟨p.path ++ [wildcard], w.2⟩ := by
  unfold named? at h
  split at h
  · next child hchild =>
    obtain ⟨n, hn, rfl⟩ := Option.map_eq_some_iff.mp hchild
    exact Or.inl ⟨n, hn, (Option.some.inj h).symm⟩
  · split at h
    · next slot subtree hwild =>
      split at h
      · next halias =>
        obtain ⟨w, hw, rfl⟩ := Option.map_eq_some_iff.mp h
        obtain rfl : (slot, subtree) = w := Option.some.inj (hwild.symm.trans hw)
        exact Or.inr ⟨_, hwild, by simpa using halias, rfl⟩
      · cases h
    · cases h

/-- A name leads from a well-formed node to a well-formed one. -/
theorem wellFormed_of_named? {key : String} (hp : p.node.WellFormed)
    (h : p.named? key = some q) : q.node.WellFormed := by
  rcases named?_eq_some h with ⟨n, hn, rfl⟩ | ⟨w, hw, -, rfl⟩
  · exact hp.child (Node.mem_of_lookup hn)
  · exact hp.subtree hw

/-- Every name that leads anywhere is a token. -/
theorem isToken_of_named? {key : String} (hp : p.node.WellFormed) (h : p.named? key = some q) :
    isToken key = true := by
  rcases named?_eq_some h with ⟨n, hn, rfl⟩ | ⟨w, hw, halias, rfl⟩
  · exact hp.names.names_token key (List.mem_map_of_mem (Node.mem_of_lookup hn))
  · exact hp.names.aliases_token w hw key halias

/-- The children of a well-formed node are well-formed. -/
theorem wellFormed_of_mem_children (hp : p.node.WellFormed) (h : q ∈ p.children) :
    q.node.WellFormed := by
  obtain ⟨c, hc, rfl⟩ := List.mem_map.mp h
  exact hp.child hc

/-- The subtree of the slot of a well-formed node is well-formed. -/
theorem wellFormed_of_subtree? (hp : p.node.WellFormed) (h : p.subtree? = some q) :
    q.node.WellFormed := by
  obtain ⟨w, hw, rfl⟩ := Option.map_eq_some_iff.mp h
  exact hp.subtree hw

end Place

namespace Move

/-- The segment that a move writes. -/
def written : Move → String
  | .step key => key
  | .value values => writeValues values

/-- Where the wildcard leads from one place, if it leads anywhere. -/
def successorsAny? (p : Place) : Option (List Place) :=
  match p.subtree? with
  | some subtree => some [subtree]
  | none => if p.children.isEmpty then none else some p.children

/-- Where values lead from one place, if all of them are admitted there. -/
def successorValues? (values : List String) (p : Place) : Option Place :=
  match p.node.wild with
  | some (⟨_, some pattern⟩, subtree) =>
    if values.all pattern.admitsValue then some ⟨p.path ++ [wildcard], subtree⟩ else none
  | _ => none

/-- The places to which a move leads from one place, if it is possible there. -/
def successors? : Move → Place → Option (List Place)
  | .step key, p =>
    if key = wildcard then successorsAny? p else (p.named? key).map fun q => [q]
  | .value values, p => (successorValues? values p).map fun q => [q]

/-- Values lead to the subtree of a slot whose pattern admits each of them. -/
theorem successorValues?_eq_some {values : List String} {p q : Place}
    (h : successorValues? values p = some q) :
    ∃ slot pattern subtree, p.node.wild = some (slot, subtree) ∧ slot.constraint = some pattern
      ∧ (∀ v ∈ values, pattern.admitsValue v = true) ∧ q = ⟨p.path ++ [wildcard], subtree⟩ := by
  unfold successorValues? at h
  split at h
  · next aliases pattern subtree hwild =>
    split at h
    · next hall =>
      exact ⟨⟨aliases, some pattern⟩, pattern, subtree, hwild, rfl, List.all_eq_true.mp hall,
        (Option.some.inj h).symm⟩
    · cases h
  · cases h

/-- What a move leads to from one place, case by case. -/
inductive Successors (p : Place) : Move → List Place → Prop
  /-- The wildcard leads to the subtree of the slot. -/
  | subtree {q : Place} (hsubtree : p.subtree? = some q) : Successors p (.step wildcard) [q]
  /-- Without a slot it leads to all children, if there are any. -/
  | children (hsubtree : p.subtree? = none) (hne : p.children ≠ []) :
    Successors p (.step wildcard) p.children
  | named {key : String} {q : Place} (hkey : key ≠ wildcard) (hnamed : p.named? key = some q) :
    Successors p (.step key) [q]
  | admitted {values : List String} {slot : WildSlot Pattern} {pattern : Pattern}
    {subtree : Node Pattern} (hwild : p.node.wild = some (slot, subtree))
    (hconstraint : slot.constraint = some pattern)
    (hadmits : ∀ v ∈ values, pattern.admitsValue v = true) :
    Successors p (.value values) [⟨p.path ++ [wildcard], subtree⟩]

variable {m : Move} {p : Place} {successors : List Place}

/-- Where a move leads, by the cases of `Move.Successors`. -/
theorem successors?_eq_some_iff : m.successors? p = some successors ↔ Successors p m successors := by
  constructor
  · intro h
    cases m with
    | step key =>
      rw [successors?] at h
      split at h
      · next hkey =>
        subst hkey
        unfold successorsAny? at h
        split at h
        · next hsubtree =>
          cases h
          exact .subtree hsubtree
        · next hsubtree =>
          split at h
          · cases h
          · next hne =>
            cases h
            exact .children hsubtree (by simpa using hne)
      · next hkey =>
        obtain ⟨q, hnamed, rfl⟩ := Option.map_eq_some_iff.mp h
        exact .named hkey hnamed
    | value values =>
      obtain ⟨q, hq, rfl⟩ := Option.map_eq_some_iff.mp h
      obtain ⟨slot, pattern, subtree, hwild, hconstraint, hadmits, rfl⟩ :=
        successorValues?_eq_some hq
      exact .admitted hwild hconstraint hadmits
  · intro h
    cases h with
    | subtree hsubtree => rw [successors?, if_pos rfl, successorsAny?, hsubtree]
    | children hsubtree hne => simp [successors?, successorsAny?, hsubtree, hne]
    | named hkey hnamed => rw [successors?, if_neg hkey, hnamed, Option.map_some]
    | @admitted values slot pattern subtree hwild hconstraint hadmits =>
      -- The slot is matched with its constraint in it, so the equation goes in first.
      have hslot : slot = ⟨slot.aliases, some pattern⟩ := by rw [← hconstraint]
      have hall : values.all pattern.admitsValue = true := List.all_eq_true.mpr hadmits
      rw [hslot] at hwild
      simp only [successors?, successorValues?, hwild, hall, if_true, Option.map_some]

/-- A move that is possible leads somewhere. -/
theorem successors?_ne_nil (h : m.successors? p = some successors) : successors ≠ [] := by
  cases successors?_eq_some_iff.mp h with
  | children _ hne => exact hne
  | subtree | named | admitted => exact List.cons_ne_nil _ _

/-- A move leads from a well-formed node to well-formed ones. -/
theorem wellFormed_of_successors? (hp : p.node.WellFormed)
    (h : m.successors? p = some successors) : ∀ q ∈ successors, q.node.WellFormed := by
  cases successors?_eq_some_iff.mp h with
  | subtree hsubtree =>
    rw [List.forall_mem_singleton]
    exact Place.wellFormed_of_subtree? hp hsubtree
  | children => exact fun q hq => Place.wellFormed_of_mem_children hp hq
  | named _ hnamed =>
    rw [List.forall_mem_singleton]
    exact Place.wellFormed_of_named? hp hnamed
  | admitted hwild =>
    rw [List.forall_mem_singleton]
    exact hp.subtree hwild

/-- Values lead on from a place exactly if it has a slot whose constraint admits each of them. -/
theorem exists_successors_value_iff {values : List String} :
    (∃ successors, (value values).successors? p = some successors)
      ↔ ∃ slot pattern subtree, p.node.wild = some (slot, subtree)
        ∧ slot.constraint = some pattern ∧ ∀ v ∈ values, pattern.admitsValue v = true := by
  constructor
  · rintro ⟨successors, h⟩
    cases successors?_eq_some_iff.mp h with
    | admitted hwild hconstraint hadmits => exact ⟨_, _, _, hwild, hconstraint, hadmits⟩
  · rintro ⟨slot, pattern, subtree, hwild, hconstraint, hadmits⟩
    exact ⟨_, successors?_eq_some_iff.mpr (.admitted hwild hconstraint hadmits)⟩

end Move

namespace Cursor

variable {c next : Cursor}

/-- A cursor is nothing but its segments and its places. -/
@[ext] theorem ext {a b : Cursor} (hsegments : a.segments = b.segments)
    (hplaces : a.places = b.places) : a = b := by
  cases a; cases b; cases hsegments; cases hplaces; rfl

/-! ### All places at once -/

/-- A cursor can be placed wherever there is a place, and counts places with the same path once. -/
theorem ofPlaces_eq_ok_iff {segments : List String} {places : List Place} :
    ofPlaces segments places = .ok c
      ↔ places ≠ [] ∧ c.segments = segments ∧ c.places = distinctBy Place.path places := by
  unfold ofPlaces
  split
  · next h => simp [h]
  · next h =>
    rw [Except.ok.injEq, Cursor.ext_iff]
    constructor
    · rintro ⟨hsegments, hplaces⟩
      exact ⟨h, hsegments.symm, hplaces.symm⟩
    · rintro ⟨-, hsegments, hplaces⟩
      exact ⟨hsegments.symm, hplaces.symm⟩

/-- The wildcard from one place, in terms of its successors. -/
theorem anyFrom_eq_ok_iff {p : Place} {places : List Place} :
    c.anyFrom p = .ok places ↔ Move.successorsAny? p = some places := by
  cases hsubtree : p.subtree? with
  | some subtree => simp [anyFrom, Move.successorsAny?, hsubtree]
  | none =>
    by_cases hempty : p.children = []
    · simp [anyFrom, Move.successorsAny?, hsubtree, hempty]
    · simp [anyFrom, Move.successorsAny?, hsubtree, hempty]

/-- A name from one place leads to the place of this name. -/
theorem namedFrom_eq_ok_iff {key : String} {p q : Place} :
    c.namedFrom key p = .ok q ↔ p.named? key = some q := by
  cases hnamed : p.named? key with
  | some child => simp [namedFrom, hnamed]
  | none => simp [namedFrom, hnamed]

/-- Values from one place, in terms of their successor. -/
theorem valuesFrom_eq_ok_iff {values : List String} {p q : Place} :
    c.valuesFrom values p = .ok q ↔ Move.successorValues? values p = some q := by
  unfold valuesFrom Move.successorValues?
  generalize p.node.wild = wild
  rcases wild with - | ⟨⟨aliases, - | pattern⟩, subtree⟩
  · simp
  · simp
  · -- The first value that is refused decides; there is none exactly if all are admitted.
    cases hfind : values.find? (!pattern.admitsValue ·) with
    | none =>
      have hall : values.all pattern.admitsValue = true := by
        rw [List.all_eq_true]
        intro v hv
        simpa using List.find?_eq_none.mp hfind v hv
      simp only [hfind, hall, if_true, Except.ok.injEq, Option.some.injEq]
    | some v =>
      have hv : (!pattern.admitsValue v) = true :=
        List.find?_some (p := fun v => !pattern.admitsValue v) hfind
      have hall : values.all pattern.admitsValue = false := by
        rw [List.all_eq_false]
        exact ⟨v, List.mem_of_find?_eq_some hfind, by simpa using hv⟩
      simp [hfind, hall]

/-- One move at one place, as the places to which it leads or the rejection. -/
def movesFrom (c : Cursor) : Move → Place → Except Rejection (List Place)
  | .step key =>
    if key = wildcard then c.anyFrom else fun p => (c.namedFrom key p).map fun q => [q]
  | .value values => fun p => (c.valuesFrom values p).map fun q => [q]

/-- Any move from one place succeeds with its successors. -/
theorem movesFrom_eq_ok_iff {m : Move} {p : Place} {places : List Place} :
    c.movesFrom m p = .ok places ↔ m.successors? p = some places := by
  cases m with
  | step key =>
    by_cases hkey : key = wildcard
    · simp only [movesFrom, Move.successors?, hkey, if_true, anyFrom_eq_ok_iff]
    · simp only [movesFrom, Move.successors?, hkey, if_false, map_eq_ok_iff,
        Option.map_eq_some_iff, namedFrom_eq_ok_iff]
  | value values =>
    simp only [movesFrom, Move.successors?, map_eq_ok_iff, Option.map_eq_some_iff,
      valuesFrom_eq_ok_iff]

/-- A call that leads from each place to one place may as well lead to a list of one. -/
theorem mapM_bind_eq_flatten {f : Place → Except Rejection Place} (places : List Place)
    (next : List Place → Except Rejection Cursor) :
    (places.mapM f >>= next)
      = (places.mapM fun p => (f p).map fun q => [q]) >>= fun qs => next qs.flatten := by
  rw [← flatten_mapM_singleton f places]
  cases places.mapM fun p => (f p).map fun q => [q] with
  | error e => rfl
  | ok qs => rfl

/-- All moves follow one rule: each place is asked in turn, and the first that refuses decides. -/
theorem move_eq (c : Cursor) (m : Move) :
    c.move m = if m = .value [] then .error (c.reject (writeValues []) .noValue)
      else c.places.mapM (c.movesFrom m) >>= fun qs =>
        ofPlaces (c.segments ++ [m.written]) qs.flatten := by
  cases m with
  | step key =>
    -- The wildcard leads to lists of places by itself; a name leads to one place each.
    by_cases hkey : key = wildcard
    · subst hkey
      simp only [move, step, stepAny, movesFrom, Move.written, if_true, reduceCtorEq, if_false]
    · simp only [move, step, movesFrom, Move.written, hkey, if_false, reduceCtorEq]
      exact mapM_bind_eq_flatten c.places _
  | value values =>
    by_cases hvalues : values = []
    · subst hvalues
      rfl
    · simp only [move, value, movesFrom, Move.written, hvalues, if_false, Move.value.injEq]
      exact mapM_bind_eq_flatten c.places _

/-- When a move succeeds, and what it does then: it is possible from every place, it writes one
segment, and it leads to all successors, each taken once. -/
theorem move_eq_ok_iff {m : Move} :
    c.move m = .ok next ↔ m ≠ .value [] ∧ ∃ successors : List (List Place),
      c.places.map m.successors? = successors.map some
        ∧ next.segments = c.segments ++ [m.written]
        ∧ next.places = distinctBy Place.path successors.flatten := by
  have hplaces : ∀ successors : List (List Place),
      c.places.mapM (c.movesFrom m) = .ok successors
        ↔ c.places.map m.successors? = successors.map some := by
    intro successors
    rw [mapM_eq_ok_iff]
    generalize c.places = places
    induction places generalizing successors with
    | nil => cases successors <;> simp
    | cons p places ih =>
      cases successors with
      | nil => simp
      | cons first rest =>
        simp only [List.map_cons, List.cons.injEq, movesFrom_eq_ok_iff, ih]
  rw [move_eq]
  split
  · next hm => simp [hm]
  · next hm =>
    simp only [bind_eq_ok_iff, hplaces, ofPlaces_eq_ok_iff, ne_eq, hm, not_false_eq_true, true_and]
    constructor
    · rintro ⟨successors, hsuccessors, -, hsegments, hnext⟩
      exact ⟨successors, hsuccessors, hsegments, hnext⟩
    · rintro ⟨successors, hsuccessors, hsegments, hnext⟩
      refine ⟨successors, hsuccessors, ?_, hsegments, hnext⟩
      -- A cursor has a place, and a move that is possible there leads somewhere.
      intro hnil
      rw [hnil] at hnext
      exact next.places_ne hnext

/-- A move writes one segment behind the others. -/
theorem segments_of_move {m : Move} (h : c.move m = .ok next) :
    next.segments = c.segments ++ [m.written] := by
  obtain ⟨-, _, -, hsegments, -⟩ := move_eq_ok_iff.mp h
  exact hsegments

/-- Each place behind a move is a successor of a place before it. -/
theorem exists_successors_of_mem {m : Move} (h : c.move m = .ok next) {q : Place}
    (hq : q ∈ next.places) : ∃ p ∈ c.places, ∃ successors, m.successors? p = some successors
      ∧ q ∈ successors := by
  obtain ⟨-, lists, hlists, -, hnext⟩ := move_eq_ok_iff.mp h
  rw [hnext] at hq
  obtain ⟨successors, hmem, hq⟩ := List.mem_flatten.mp (mem_of_mem_distinctBy hq)
  have hsome : some successors ∈ c.places.map m.successors? := by
    rw [hlists]
    exact List.mem_map_of_mem hmem
  obtain ⟨p, hp, hsuccessors⟩ := List.mem_map.mp hsome
  exact ⟨p, hp, successors, hsuccessors, hq⟩

/-- A move that succeeds is possible from every place. -/
theorem exists_successors_of_move {m : Move} (h : c.move m = .ok next) {p : Place}
    (hp : p ∈ c.places) : ∃ successors, m.successors? p = some successors := by
  obtain ⟨-, lists, hlists, -, -⟩ := move_eq_ok_iff.mp h
  have hmem : m.successors? p ∈ lists.map some := by
    rw [← hlists]
    exact List.mem_map_of_mem hp
  obtain ⟨successors, -, hsuccessors⟩ := List.mem_map.mp hmem
  exact ⟨successors, hsuccessors.symm⟩

/-! ### Moves that are refused -/

/-- A place that refuses a move blames what the move writes, behind the segments so far. -/
theorem exists_reason_of_movesFrom {m : Move} {p : Place} {r : Rejection}
    (h : c.movesFrom m p = .error r) : ∃ reason : Reason, reason.Own
      ∧ r = c.reject m.written reason := by
  cases m with
  | step key =>
    by_cases hkey : key = wildcard
    · simp only [movesFrom, hkey, if_true, anyFrom] at h
      split at h
      · cases h
      · split at h
        · cases h
          exact ⟨.noChildren p.name, nofun, by rw [Move.written, hkey]⟩
        · cases h
    · simp only [movesFrom, hkey, if_false, map_eq_error_iff, namedFrom] at h
      split at h
      · cases h
      · cases h
        exact ⟨.undeclared p.name, nofun, rfl⟩
  | value values =>
    simp only [movesFrom, map_eq_error_iff, valuesFrom] at h
    split at h
    · split at h
      · cases h
        -- The reason holds the first value that is refused.
        refine ⟨_, ?_, rfl⟩
        nofun
      · cases h
    · cases h
      exact ⟨.noConstraint p.name, nofun, rfl⟩

/-- A move that is possible from every place leads somewhere, as there is at least one place. -/
theorem flatten_ne_nil_of_mapM {m : Move} {lists : List (List Place)}
    (h : c.places.mapM (c.movesFrom m) = .ok lists) : lists.flatten ≠ [] := by
  obtain ⟨p, places, hplaces⟩ := List.exists_cons_of_ne_nil c.places_ne
  have hmap := mapM_eq_ok_iff.mp h
  rw [hplaces] at hmap
  cases lists with
  | nil => cases hmap
  | cons first rest =>
    have hfirst : c.movesFrom m p = .ok first := (List.cons.inj hmap).1
    have hne : first ≠ [] := Move.successors?_ne_nil (movesFrom_eq_ok_iff.mp hfirst)
    intro hnil
    rw [List.flatten_cons] at hnil
    exact hne (List.append_eq_nil_iff.mp hnil).1

/-- A move that is refused is a move by no values at all, or one of the places refuses it. -/
theorem exists_refusal_of_move {m : Move} {r : Rejection} (h : c.move m = .error r) :
    m = .value [] ∧ r = c.reject (writeValues []) .noValue
      ∨ ∃ p ∈ c.places, c.movesFrom m p = .error r := by
  rw [move_eq] at h
  split at h
  · next hm => exact Or.inl ⟨hm, (Except.error.inj h).symm⟩
  · rcases bind_eq_error_iff.mp h with hplaces | ⟨lists, hlists, hnone⟩
    · exact Or.inr (exists_error_of_mapM hplaces)
    · -- No move ends without a place.
      unfold ofPlaces at hnone
      split at hnone
      · next hnil => exact absurd hnil (flatten_ne_nil_of_mapM hlists)
      · cases hnone

/-- A move that is refused is refused for what it would have written, with a reason of the library's
own. -/
theorem exists_reason_of_move {m : Move} {r : Rejection} (h : c.move m = .error r) :
    ∃ reason : Reason, reason.Own ∧ r = c.reject m.written reason := by
  rcases exists_refusal_of_move h with ⟨rfl, rfl⟩ | ⟨p, -, hp⟩
  · exact ⟨.noValue, nofun, rfl⟩
  · exact exists_reason_of_movesFrom hp

/-- The rejection of a move names what the move writes, and the segments accepted before it. -/
theorem rejection_of_move {m : Move} {r : Rejection} (h : c.move m = .error r) :
    r.key = m.written ∧ r.path = c.segments := by
  obtain ⟨reason, -, rfl⟩ := exists_reason_of_move h
  exact ⟨rfl, rfl⟩

/-- A move succeeds exactly if it is possible from every place. -/
theorem exists_move_iff {m : Move} :
    (∃ next, c.move m = .ok next)
      ↔ m ≠ .value [] ∧ ∀ p ∈ c.places, ∃ successors, m.successors? p = some successors := by
  constructor
  · rintro ⟨next, h⟩
    exact ⟨(move_eq_ok_iff.mp h).1, fun p hp => exists_successors_of_move h hp⟩
  · rintro ⟨hne, hall⟩
    cases hmove : c.move m with
    | ok next => exact ⟨next, rfl⟩
    | error r =>
      rcases exists_refusal_of_move hmove with ⟨hm, -⟩ | ⟨p, hp, hrefused⟩
      · exact absurd hm hne
      · obtain ⟨successors, hsuccessors⟩ := hall p hp
        rw [movesFrom_eq_ok_iff.mpr hsuccessors] at hrefused
        cases hrefused

/-- From a single place a move leads to the successors of this place. -/
theorem places_of_move_singleton {m : Move} {p : Place} (hc : c.places = [p])
    (h : c.move m = .ok next) : ∃ successors, m.successors? p = some successors
      ∧ next.places = distinctBy Place.path successors := by
  obtain ⟨-, lists, hlists, -, hnext⟩ := move_eq_ok_iff.mp h
  rw [hc] at hlists
  -- The list of lists of successors has one element too.
  obtain ⟨successors, rfl⟩ : ∃ successors, lists = [successors] := by
    have hlength : lists.length = 1 := by
      simpa using (congrArg List.length hlists).symm
    exact List.length_eq_one_iff.mp hlength
  rw [List.flatten_cons, List.flatten_nil, List.append_nil] at hnext
  exact ⟨successors, (List.cons.inj hlists).1, hnext⟩

/-- From a single place a move with a single successor leads there. -/
theorem move_of_singleton {m : Move} {p q : Place} (hc : c.places = [p]) (hm : m ≠ .value [])
    (h : m.successors? p = some [q]) : ∃ next, c.move m = .ok next
      ∧ next.segments = c.segments ++ [m.written] ∧ next.places = [q] := by
  have hpossible : ∀ p' ∈ c.places, ∃ successors, m.successors? p' = some successors := by
    intro p' hp'
    rw [hc, List.mem_singleton] at hp'
    exact ⟨[q], hp' ▸ h⟩
  obtain ⟨next, hmove⟩ := exists_move_iff.mpr ⟨hm, hpossible⟩
  obtain ⟨successors, hsuccessors, hplaces⟩ := places_of_move_singleton hc hmove
  obtain rfl : [q] = successors := Option.some.inj (h.symm.trans hsuccessors)
  exact ⟨next, hmove, segments_of_move hmove, hplaces⟩

/-! ### Well-formed cursors -/

/-- A cursor all of whose places are well-formed nodes. -/
def WellFormed (c : Cursor) : Prop :=
  ∀ p ∈ c.places, p.node.WellFormed

/-- A move keeps a cursor among well-formed nodes. -/
theorem WellFormed.move {m : Move} (hc : c.WellFormed) (h : c.move m = .ok next) :
    next.WellFormed := by
  intro q hq
  obtain ⟨p, hp, successors, hsuccessors, hq⟩ := exists_successors_of_mem h hq
  exact Move.wellFormed_of_successors? (hc p hp) hsuccessors q hq

/-- The cursor at the root of a well-formed grammar is well-formed. -/
theorem wellFormed_ofGrammar {g : Grammar} (hg : g.WellFormed) : (ofGrammar g).WellFormed := by
  intro p hp
  rw [List.mem_singleton.mp hp]
  exact hg.node

/-- A cursor is always somewhere. -/
theorem exists_mem_places (c : Cursor) : ∃ p, p ∈ c.places :=
  List.exists_mem_of_ne_nil _ c.places_ne

/-- A name that is in reach is a token. -/
theorem isToken_of_hasStep {key : String} (hc : c.WellFormed) (h : c.hasStep key = true) :
    isToken key = true := by
  obtain ⟨p, hp⟩ := c.exists_mem_places
  obtain ⟨q, hq⟩ := Option.isSome_iff_exists.mp (List.all_eq_true.mp h p hp)
  exact Place.isToken_of_named? (hc p hp) hq

/-- A step by a name succeeds only where the name is in reach. -/
theorem hasStep_of_step {key : String} (hkey : key ≠ wildcard)
    (h : c.move (.step key) = .ok next) : c.hasStep key = true := by
  refine List.all_eq_true.mpr fun p hp => ?_
  obtain ⟨successors, hsuccessors⟩ := exists_successors_of_move h hp
  cases Move.successors?_eq_some_iff.mp hsuccessors with
  | subtree | children => exact absurd rfl hkey
  | named _ hnamed => exact Option.isSome_iff_exists.mpr ⟨_, hnamed⟩

/-- Values are accepted only where every place has a slot whose constraint admits each of them. -/
theorem exists_wild_of_value {values : List String} (h : c.move (.value values) = .ok next)
    {p : Place} (hp : p ∈ c.places) : ∃ slot pattern subtree, p.node.wild = some (slot, subtree)
      ∧ slot.constraint = some pattern ∧ ∀ v ∈ values, pattern.admitsValue v = true :=
  Move.exists_successors_value_iff.mp (exists_successors_of_move h hp)

/-- The values of a successful move are tokens. -/
theorem isToken_of_value {values : List String} (h : c.move (.value values) = .ok next) :
    ∀ v ∈ values, isToken v = true := by
  obtain ⟨p, hp⟩ := c.exists_mem_places
  obtain ⟨_, pattern, _, -, -, hadmits⟩ := exists_wild_of_value h hp
  intro v hv
  have hadmitted := hadmits v hv
  rw [Pattern.admitsValue, Bool.and_eq_true] at hadmitted
  exact hadmitted.1

/-- A cursor that was moved by values accepts values. -/
theorem acceptsValues_of_value {values : List String} (h : c.move (.value values) = .ok next) :
    c.acceptsValues = true := by
  obtain ⟨p, hp⟩ := c.exists_mem_places
  obtain ⟨slot, _, subtree, hwild, -, -⟩ := exists_wild_of_value h hp
  exact List.any_eq_true.mpr ⟨p, hp, by rw [hwild, Option.isSome_some]⟩

/-- A move by no values at all does not succeed. -/
theorem ne_nil_of_value {values : List String} (h : c.move (.value values) = .ok next) :
    values ≠ [] := by
  intro hnil
  exact (move_eq_ok_iff.mp h).1 (by rw [hnil])

/-- A successful move writes the wildcard, a declared name, or tokens. -/
theorem isWritten_of_move {m : Move} (hc : c.WellFormed) (h : c.move m = .ok next) :
    IsWritten m.written := by
  cases m with
  | step key =>
    by_cases hkey : key = wildcard
    · rw [hkey]
      exact .wildcard
    · exact .of_isToken (isToken_of_hasStep hc (hasStep_of_step hkey h))
  | value values => exact .values values (ne_nil_of_value h) (isToken_of_value h)

/-! ### Runs -/

/-- A run of moves is its first move and the run of the others from there. -/
theorem run_cons {m : Move} {rest : List Move} {last : Cursor} :
    c.run (m :: rest) = .ok last ↔ ∃ next, c.move m = .ok next ∧ next.run rest = .ok last := by
  rw [run]
  split
  · next next hmove => simp [hmove]
  · next r hmove => simp [hmove]

/-- A run writes one segment for each of its moves, in their order. -/
theorem segments_of_run {ms : List Move} {last : Cursor} (h : c.run ms = .ok last) :
    last.segments = c.segments ++ ms.map Move.written := by
  induction ms generalizing c with
  | nil =>
    cases h
    simp
  | cons m ms ih =>
    obtain ⟨next, hmove, hrun⟩ := run_cons.mp h
    rw [ih hrun, segments_of_move hmove, List.map_cons, List.append_assoc, List.singleton_append]

/-- What every move preserves, every run preserves. -/
theorem preserved_of_run {P : Cursor → Prop}
    (hmove : ∀ {c next : Cursor} {m : Move}, P c → c.move m = .ok next → P next)
    {ms : List Move} {last : Cursor} (hc : P c) (h : c.run ms = .ok last) : P last := by
  induction ms generalizing c with
  | nil =>
    cases h
    exact hc
  | cons m ms ih =>
    obtain ⟨next, hfirst, hrun⟩ := run_cons.mp h
    exact ih (hmove hc hfirst) hrun

/-- A run keeps a cursor among well-formed nodes. -/
theorem WellFormed.run {ms : List Move} {last : Cursor} (hc : c.WellFormed)
    (h : c.run ms = .ok last) : last.WellFormed :=
  preserved_of_run (fun hc h => hc.move h) hc h

/-- Every move of a successful run writes the wildcard, a declared name, or tokens. -/
theorem isWritten_of_run {ms : List Move} {last : Cursor} (hc : c.WellFormed)
    (h : c.run ms = .ok last) : ∀ m ∈ ms, IsWritten m.written := by
  induction ms generalizing c with
  | nil => exact fun m hm => absurd hm List.not_mem_nil
  | cons m ms ih =>
    obtain ⟨next, hmove, hrun⟩ := run_cons.mp h
    rw [List.forall_mem_cons]
    exact ⟨isWritten_of_move hc hmove, ih (hc.move hmove) hrun⟩

end Cursor

end AccessScopes
