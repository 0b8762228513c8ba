import AccessScopes.Proofs.Cursor.Routing

/-!
# `AccessScopes.Proofs.Cursor.Conjunction`: several values in one move

A move by several values asks every place about every value and refuses at the first that does not
fit. In the end it succeeds exactly if each value alone would succeed, and it leads where each of
them leads. Only the written segment tells the moves apart, and it tells which values were given.

* `Value.Hold` relates the arguments of a call to the values in them.
* `Move.exists_successors_value_iff`: several values at one place.
* `Cursor.exists_value_iff` and `Cursor.places_of_value`: several values at all places.
* `Cursor.values_together` puts this together for the arguments of a call.
-/

set_option autoImplicit false

namespace AccessScopes

/-! ### Arguments -/

namespace Value

/-- The items of a list or tuple, which stand for the argument that it is. -/
def opened? : Value → Option (List Value)
  | list items | tuple items => some items
  | _ => none

/-- Whether arguments hold the given values in this order. An argument is one of the values, or it is
a list or tuple of some of them. No value is a list or tuple itself. -/
inductive Hold : List Value → List Value → Prop
  | nil : Hold [] []
  | single {v : Value} {args values : List Value} (hv : v.opened? = none) (h : Hold args values) :
    Hold (v :: args) (v :: values)
  | group {v : Value} {items args values : List Value} (hv : v.opened? = some items)
    (hitems : ∀ item ∈ items, item.opened? = none) (h : Hold args values) :
    Hold (v :: args) (items ++ values)

/-- An argument that is a list or a tuple counts as the values in it, any other as itself. -/
theorem segmentValues_cons (v : Value) (args : List Value) :
    segmentValues (v :: args)
      = (match v.opened? with
          | some items => items.map plain
          | none => [v.plain]) ++ segmentValues args := by
  cases v <;> rfl

/-- A single argument that is no list and no tuple is written as it is. -/
theorem segmentValues_singleton {v : Value} (hv : v.opened? = none) :
    segmentValues [v] = [v.plain] := by
  rw [segmentValues_cons, hv]
  rfl

/-- The values that are written are those that the arguments hold. -/
theorem Hold.segmentValues_eq {args values : List Value} (h : Hold args values) :
    segmentValues args = values.map plain := by
  induction h with
  | nil => rfl
  | single hv _ ih => rw [segmentValues_cons, hv, ih, List.map_cons, List.singleton_append]
  | group hv _ _ ih => rw [segmentValues_cons, hv, ih, List.map_append]

/-- A value in an argument is not opened again. Arguments are opened to one level. -/
theorem Hold.opened?_eq_none {args values : List Value} (h : Hold args values) :
    ∀ v ∈ values, v.opened? = none := by
  induction h with
  | nil => simp
  | single hv _ ih => exact List.forall_mem_cons.mpr ⟨hv, ih⟩
  | group _ hitems _ ih => exact List.forall_mem_append.mpr ⟨hitems, ih⟩

end Value

/-! ### One place -/

namespace Move

variable {p : Place} {values : List String}

/-- Several values lead on from a place exactly if each of them does. -/
theorem exists_successors_value_iff_each (hne : values ≠ []) :
    (∃ successors, (value values).successors? p = some successors)
      ↔ ∀ v ∈ values, ∃ successors, (value [v]).successors? p = some successors := by
  simp only [exists_successors_value_iff, List.forall_mem_singleton]
  constructor
  · rintro ⟨slot, pattern, subtree, hwild, hconstraint, hadmits⟩ v hv
    exact ⟨slot, pattern, subtree, hwild, hconstraint, hadmits v hv⟩
  · intro heach
    -- The slot is the same for all values, so any of them may say which it is.
    obtain ⟨first, hfirst⟩ := List.exists_mem_of_ne_nil values hne
    obtain ⟨slot, pattern, subtree, hwild, hconstraint, -⟩ := heach first hfirst
    refine ⟨slot, pattern, subtree, hwild, hconstraint, fun v hv => ?_⟩
    obtain ⟨slot', pattern', subtree', hwild', hconstraint', hadmits⟩ := heach v hv
    rw [hwild] at hwild'
    cases hwild'
    rw [hconstraint] at hconstraint'
    cases hconstraint'
    exact hadmits

/-- Where values lead on, the wildcard leads to the same place. -/
theorem successors?_value_eq_wildcard {successors : List Place}
    (h : (value values).successors? p = some successors) :
    (step wildcard).successors? p = some successors := by
  obtain ⟨slot, pattern, subtree, hwild, -, -⟩ := exists_successors_value_iff.mp ⟨successors, h⟩
  have hsubtree := Place.subtree?_of_wild hwild
  rw [successors?_value hsubtree h, successors?_wildcard hsubtree]

end Move

/-! ### All places -/

namespace Cursor

variable {c next : Cursor} {values others : List String}

/-- Several values are accepted exactly if there is one, and each of them is accepted alone. -/
theorem exists_value_iff :
    (∃ next, c.value values = .ok next)
      ↔ values ≠ [] ∧ ∀ v ∈ values, ∃ next, c.value [v] = .ok next := by
  have hmove : ∀ vs : List String, (∃ next, c.value vs = .ok next)
      ↔ vs ≠ [] ∧ ∀ p ∈ c.places, ∃ successors, (Move.value vs).successors? p = some successors := by
    intro vs
    have hsame : Move.value vs ≠ .value [] ↔ vs ≠ [] := by simp
    show (∃ next, c.move (.value vs) = .ok next) ↔ _
    rw [exists_move_iff, hsame]
  simp only [hmove, ne_eq, List.cons_ne_nil, not_false_eq_true, true_and]
  refine and_congr_right fun hne => ?_
  -- The two loops, over places and over values, may stand either way round.
  constructor
  · intro hall v hv p hp
    exact (Move.exists_successors_value_iff_each hne).mp (hall p hp) v hv
  · intro heach p hp
    exact (Move.exists_successors_value_iff_each hne).mpr fun v hv => heach v hv p hp

/-- Moves that lead to the same places from each place lead to the same places. -/
theorem places_eq_of_successors {m m' : Move} {next' : Cursor} (h : c.move m = .ok next)
    (h' : c.move m' = .ok next')
    (hsame : ∀ p ∈ c.places, m.successors? p = m'.successors? p) : next.places = next'.places := by
  obtain ⟨-, lists, hlists, -, hplaces⟩ := move_eq_ok_iff.mp h
  obtain ⟨-, lists', hlists', -, hplaces'⟩ := move_eq_ok_iff.mp h'
  have hmaps : lists.map some = lists'.map some := by
    rw [← hlists, ← hlists', List.map_congr_left hsame]
  have heq : lists = lists' := List.map_injective_iff.mpr (fun _ _ h => Option.some.inj h) hmaps
  rw [hplaces, hplaces', heq]

/-- Accepted values lead where the wildcard leads, which is possible then. -/
theorem places_of_value (h : c.value values = .ok next) :
    ∃ any, c.step wildcard = .ok any ∧ any.places = next.places := by
  have hvalue : c.move (.value values) = .ok next := h
  have hsame : ∀ p ∈ c.places,
      (Move.step wildcard).successors? p = (Move.value values).successors? p := by
    intro p hp
    obtain ⟨successors, hsuccessors⟩ := exists_successors_of_move hvalue hp
    rw [hsuccessors, Move.successors?_value_eq_wildcard hsuccessors]
  obtain ⟨any, hany⟩ : ∃ any, c.move (.step wildcard) = .ok any := by
    refine exists_move_iff.mpr ⟨by simp, fun p hp => ?_⟩
    rw [hsame p hp]
    exact exists_successors_of_move hvalue hp
  exact ⟨any, hany, places_eq_of_successors hany hvalue hsame⟩

/-- Accepted values that write the same segment are the same values. -/
theorem eq_of_value_segments_eq {next' : Cursor} (h : c.value values = .ok next)
    (h' : c.value others = .ok next') (hsegments : next.segments = next'.segments) :
    values = others := by
  have hwritten : next.segments = c.segments ++ [writeValues values] :=
    segments_of_move (m := .value values) h
  have hwritten' : next'.segments = c.segments ++ [writeValues others] :=
    segments_of_move (m := .value others) h'
  rw [hwritten, hwritten'] at hsegments
  have hsegment : writeValues values = writeValues others :=
    List.singleton_inj.mp (List.append_cancel_left hsegments)
  exact eq_of_writeValues_eq (ne_nil_of_value h) (ne_nil_of_value h') (isToken_of_value h)
    (isToken_of_value h') hsegment

/-- Several values form a conjunction. Take any cursor, and arguments that hold some values, flat or
in lists and tuples. The move by the arguments succeeds exactly if there is a value and the move by
each of the values succeeds. It writes one segment then; every place has a wild slot; and each value
and the wildcard lead to the very same places. Accepted lists of values that write the same segment
are equal. A move that fails names the segments before it, and a move by no values always fails. -/
theorem values_together (c : Cursor) {args values : List Value} (h : Value.Hold args values) :
    ((∃ next, c.value (Value.segmentValues args) = .ok next)
        ↔ values ≠ [] ∧ ∀ v ∈ values, ∃ next, c.value (Value.segmentValues [v]) = .ok next)
      ∧ (∀ next, c.value (Value.segmentValues args) = .ok next →
          next.segments = c.segments ++ [writeValues (values.map Value.plain)]
            ∧ (∀ p ∈ c.places, p.node.wild.isSome = true)
            ∧ (∀ v ∈ values, ∃ single, c.value (Value.segmentValues [v]) = .ok single
              ∧ single.places = next.places)
            ∧ ∃ any, c.step wildcard = .ok any ∧ any.places = next.places)
      ∧ (∀ texts texts' next next', c.value texts = .ok next → c.value texts' = .ok next' →
          next.segments = next'.segments → texts = texts')
      ∧ (∀ r, c.value (Value.segmentValues args) = .error r →
          r.key = writeValues (values.map Value.plain) ∧ r.path = c.segments)
      ∧ (values = [] → c.value (Value.segmentValues args) = .error (c.reject "()" .noValue)) := by
  have hsingle : ∀ v ∈ values, Value.segmentValues [v] = [v.plain] :=
    fun v hv => Value.segmentValues_singleton (h.opened?_eq_none v hv)
  have heach : (∀ v ∈ values, ∃ next, c.value (Value.segmentValues [v]) = .ok next)
      ↔ ∀ text ∈ values.map Value.plain, ∃ next, c.value [text] = .ok next := by
    rw [List.forall_mem_map]
    exact forall₂_congr fun v hv => by rw [hsingle v hv]
  rw [h.segmentValues_eq, heach]
  refine ⟨?_, fun next hnext => ⟨segments_of_move (m := .value _) hnext, ?_, ?_,
    places_of_value hnext⟩, fun texts texts' next next' => eq_of_value_segments_eq, ?_, ?_⟩
  · rw [exists_value_iff, ne_eq, List.map_eq_nil_iff]
  · intro p hp
    obtain ⟨slot, -, subtree, hwild, -, -⟩ := exists_wild_of_value hnext hp
    rw [hwild, Option.isSome_some]
  · intro v hv
    obtain ⟨single, hsingleMove⟩ :=
      (exists_value_iff.mp ⟨next, hnext⟩).2 v.plain (List.mem_map_of_mem hv)
    -- Both lead where the wildcard leads.
    obtain ⟨any, hany, hplaces⟩ := places_of_value hnext
    obtain ⟨any', hany', hplaces'⟩ := places_of_value hsingleMove
    obtain rfl : any = any' := Except.ok.inj (hany.symm.trans hany')
    exact ⟨single, by rw [hsingle v hv, hsingleMove], by rw [← hplaces', hplaces]⟩
  · intro r hr
    exact rejection_of_move (m := .value _) hr
  · rintro rfl
    rfl

/-- In the overlapping grammar the text `alice` and the list of `bob` are accepted together, as each
of them is alone; with a third value in capitals they are not. -/
theorem values_together_overlapping :
    (∃ next, (Cursor.ofGrammar Grammar.overlapping).value
        (Value.segmentValues [.text "alice", .list [.text "bob"]]) = .ok next
      ∧ next.segments = ["api", "(alice,bob)"])
      ∧ ∀ next, (Cursor.ofGrammar Grammar.overlapping).value
        (Value.segmentValues [.text "alice", .list [.text "bob", .text "EVE"]]) ≠ .ok next := by
  have hholds : ∀ items : List Value, (∀ item ∈ items, item.opened? = none) →
      Value.Hold [.text "alice", .list items] (.text "alice" :: items) := by
    intro items hitems
    have hgroup : Value.Hold [.list items] (items ++ []) := .group rfl hitems .nil
    rw [List.append_nil] at hgroup
    exact .single rfl hgroup
  constructor
  · obtain ⟨hiff, hok, -⟩ := values_together (Cursor.ofGrammar Grammar.overlapping)
      (hholds [.text "bob"] (by simp [Value.opened?]))
    have heach : ∀ v ∈ [Value.text "alice", .text "bob"], ∃ next,
        (Cursor.ofGrammar Grammar.overlapping).value (Value.segmentValues [v]) = .ok next := by
      simp only [List.forall_mem_cons, List.not_mem_nil, false_implies, implies_true, and_true]
      exact ⟨exists_eq_ok_of_isOk (by decide +kernel), exists_eq_ok_of_isOk (by decide +kernel)⟩
    obtain ⟨next, hnext⟩ := hiff.mpr ⟨by simp, heach⟩
    refine ⟨next, hnext, ?_⟩
    rw [(hok next hnext).1, Cursor.ofGrammar, Grammar.overlapping_root]
    decide +kernel
  · intro next hnext
    obtain ⟨hiff, -⟩ := values_together (Cursor.ofGrammar Grammar.overlapping)
      (hholds [.text "bob", .text "EVE"] (by simp [Value.opened?]))
    -- The capitals fail alone, so they fail with the others.
    obtain ⟨alone, halone⟩ := (hiff.mp ⟨next, hnext⟩).2 (.text "EVE") (by simp)
    have hrefused : ((Cursor.ofGrammar Grammar.overlapping).value
        (Value.segmentValues [.text "EVE"])).isOk = false := by
      decide +kernel
    rw [halone] at hrefused
    cases hrefused

end Cursor

end AccessScopes
