import AccessScopes.Proofs.ScopeSet.NormalForm
import Mathlib.Data.Finset.Card
import Mathlib.Data.Finset.Dedup
import Mathlib.Data.Finset.Image

/-!
# `AccessScopes.Proofs.Value.Hashing`: texts, scopes and scope sets in one set

Texts, scopes and scope sets can be put into one set. A set does not compare a new value with all of
its items. It takes the hash of the value, and it compares only with the items of the same hash. So
equality has to be an equivalence relation, and equal values must not have different hashes. Else
the set loses values, or it holds some of them twice.

A hash is computed from a key, which is all that it depends on: a scope has the key of its text, and
a scope set the texts of its members in no order (`Value.key?`).

* `equal_iff_of_keyed`: two values with keys are equal exactly if the keys are the same.
* `foldl_addItem`: a set that is filled one by one keeps the first item of every key. So it makes no
  difference whether hashes are used (`Value.hashedItems_eq_distinctBy`) or not
  (`Value.distinctItems_eq_distinctBy`).
* `card_keys`: the keys of a list are those of its words and those of its scope sets.
* `equality_and_hashing` has all this together with the size of a set.
-/

set_option autoImplicit false

namespace AccessScopes

/-! ### Filling a set -/

section Filling

variable {α κ : Type} [DecidableEq κ]

/-- The items of a set after a value was added: the value is left out if some item passes the test
against it. -/
def addItem (test : α → α → Bool) (seen : List α) (v : α) : List α :=
  if seen.any fun w => test w v then seen else seen ++ [v]

/-- If the test compares keys, adding the values one by one keeps the first one of every key. -/
theorem foldl_addItem {test : α → α → Bool} (key : α → κ) {seen values : List α}
    (htest : ∀ v ∈ seen ++ values, ∀ w ∈ seen ++ values, test v w = true ↔ key v = key w) :
    values.foldl (addItem test) seen
      = seen ++ (distinctBy key values).filter fun v => key v ∉ seen.map key := by
  induction values generalizing seen with
  | nil => simp [distinctBy]
  | cons v rest ih =>
    have hv : v ∈ seen ++ v :: rest := List.mem_append_right seen List.mem_cons_self
    -- The test finds `v` among the items exactly if its key is there.
    have hany : (seen.any fun w => test w v) = true ↔ key v ∈ seen.map key := by
      rw [List.any_eq_true, List.mem_map]
      refine exists_congr fun w => and_congr_right fun hw => ?_
      exact htest w (List.mem_append_left _ hw) v hv
    rw [List.foldl_cons, distinctBy, List.filter_cons, List.filter_filter]
    by_cases hseen : key v ∈ seen.map key
    · have hadd : addItem test seen v = seen := by rw [addItem, if_pos (hany.mpr hseen)]
      have hrest : ∀ u ∈ seen ++ rest, u ∈ seen ++ v :: rest := by
        intro u hu
        rw [List.mem_append] at hu ⊢
        exact hu.imp_right (List.mem_cons_of_mem v)
      rw [hadd, ih fun u hu w hw => htest u (hrest u hu) w (hrest w hw)]
      simp only [hseen, not_true_eq_false, decide_false, Bool.false_eq_true, if_false]
      congr 1
      -- What has the key of `v` is left out for an item that was there before.
      refine List.filter_congr fun u _ => ?_
      by_cases hu : key u = key v
      · simp only [hu, hseen, not_true_eq_false, decide_false, Bool.false_and]
      · simp only [hu, ne_eq, not_false_eq_true, decide_true, Bool.and_true]
    · have hadd : addItem test seen v = seen ++ [v] := by
        rw [addItem, if_neg fun h => hseen (hany.mp h)]
      rw [hadd, ih (by simpa [List.append_assoc] using htest)]
      -- From now on `v` is among the items, and what has its key is left out.
      simp only [hseen, not_false_eq_true, decide_true, if_true, List.append_assoc,
        List.singleton_append]
      congr 2
      refine List.filter_congr fun u _ => ?_
      simp only [List.map_append, List.map_singleton, List.mem_append, List.mem_singleton, not_or,
        ne_eq, Bool.decide_and]

/-- There are as many elements left as there are different keys. -/
theorem length_distinctBy (key : α → κ) (xs : List α) :
    (distinctBy key xs).length = (xs.map key).toFinset.card := by
  have hkeys : ((distinctBy key xs).map key).toFinset = (xs.map key).toFinset := by
    ext k
    simp only [List.mem_toFinset, List.mem_map]
    constructor
    · rintro ⟨x, hx, hk⟩
      exact ⟨x, mem_of_mem_distinctBy hx, hk⟩
    · rintro ⟨x, hx, rfl⟩
      exact exists_mem_distinctBy hx
  rw [← hkeys, List.toFinset_card_of_nodup (nodup_map_distinctBy key xs), List.length_map]

end Filling

/-! ### Keys -/

/-- What the hash of a value is computed from. -/
inductive HashKey where
  | word (text : String)
  | words (texts : Finset String)
deriving DecidableEq

namespace Value

/-- The key of a text, of a scope or of a scope set. -/
def key? : Value → Option HashKey
  | text s => some (.word s)
  | scope s => some (.word s.text)
  | scopeSet a => some (.words a.texts.toFinset)
  | _ => none

/-- Whether a value is a text, a scope or a scope set. -/
def Keyed (v : Value) : Prop :=
  v.key?.isSome = true

/-- Whether two values are equal, as objects that are not one and the same. -/
def Equal (v w : Value) : Prop :=
  equals false v w = true

/-- The members of a scope set, in no order. -/
def memberSet? : Value → Option (Finset Scope)
  | scopeSet a => some a.members.toFinset
  | _ => none

/-- The items of a set that compares a value only with the items of the same hash. -/
def hashedItems (hash : HashKey → Int) (values : List Value) : List Value :=
  values.foldl (addItem fun w v => w.key?.map hash == v.key?.map hash && w.same v) []

/-- What can be put into a set is a word, as a text and a scope are, or a scope set. -/
theorem word_or_scopeSet_of_keyed {v : Value} (h : v.Keyed) :
    (∃ t, v.word? = some t) ∨ ∃ a, v = .scopeSet a := by
  cases v with
  | text t => exact Or.inl ⟨t, rfl⟩
  | scope s => exact Or.inl ⟨s.text, rfl⟩
  | scopeSet a => exact Or.inr ⟨a, rfl⟩
  | _ => cases h

/-- The key of a word is the word. -/
theorem key?_of_word? {v : Value} {t : String} (h : v.word? = some t) :
    v.key? = some (.word t) := by
  cases v with
  | text s | scope s =>
    cases h
    rfl
  | _ => cases h

/-- Words can be put into a set. -/
theorem keyed_of_word? {v : Value} {t : String} (h : v.word? = some t) : v.Keyed := by
  rw [Keyed, key?_of_word? h]
  rfl

/-! ### Equality -/

/-- Words are compared as texts, whether they are texts or scopes. -/
theorem same_of_word? {v w : Value} {t u : String} (hv : v.word? = some t)
    (hw : w.word? = some u) : v.same w = true ↔ t = u := by
  cases v with
  | text s | scope s =>
    cases hv
    cases w with
    | text s' | scope s' =>
      cases hw
      simp [same, number?, word?]
    | _ => cases hw
  | _ => cases hv

/-- A word and a scope set have nothing in common by which they could be equal. -/
theorem not_same_scopeSet {v : Value} {t : String} (hv : v.word? = some t) (a : ScopeSet) :
    ¬ v.same (.scopeSet a) = true ∧ ¬ (scopeSet a).same v = true := by
  cases v with
  | text s | scope s => simp [same, number?, word?]
  | _ => cases hv

/-- Scope sets are compared by their members, and scopes are told apart by their texts. -/
theorem same_scopeSet_iff {a b : ScopeSet} :
    (scopeSet a).same (.scopeSet b) = true ↔ a.texts.toFinset = b.texts.toFinset := by
  rw [same, ScopeSet.same_eq_true_iff, Finset.ext_iff]
  simp only [List.mem_toFinset]
  constructor
  · intro h t
    simp only [ScopeSet.texts, List.mem_map, h]
  · exact ScopeSet.sameMembers_of_texts

/-- Whether two values with keys are equal is a matter of their keys. -/
theorem same_eq_true_iff_of_key {v w : Value} (hv : v.Keyed) (hw : w.Keyed) :
    v.same w = true ↔ v.key? = w.key? := by
  rcases word_or_scopeSet_of_keyed hv with ⟨t, ht⟩ | ⟨a, rfl⟩
  · rcases word_or_scopeSet_of_keyed hw with ⟨u, hu⟩ | ⟨b, rfl⟩
    · rw [same_of_word? ht hu, key?_of_word? ht, key?_of_word? hu, Option.some.injEq,
        HashKey.word.injEq]
    · rw [key?_of_word? ht]
      exact iff_of_false (not_same_scopeSet ht b).1 nofun
  · rcases word_or_scopeSet_of_keyed hw with ⟨u, hu⟩ | ⟨b, rfl⟩
    · rw [key?_of_word? hu]
      exact iff_of_false (not_same_scopeSet hu a).2 nofun
    · rw [same_scopeSet_iff, key?, key?, Option.some.injEq, HashKey.words.injEq]

/-- Equality of what can be put into a set never fails. It also holds of one and the same object. -/
theorem equals_of_keyed {v w : Value} (hv : v.Keyed) (hw : w.Keyed) (identical : Bool) :
    equals identical v w = (v.same w || identical) := by
  cases v with
  | text s | scope s => rfl
  | scopeSet a =>
    -- Only a set and a foreign object that offers one are compared in a way of their own.
    cases w with
    | provider offer => cases hw
    | _ => rfl
  | _ => cases hv

/-- Two values with keys are equal exactly if the keys are the same. -/
theorem equal_iff_of_keyed {v w : Value} (hv : v.Keyed) (hw : w.Keyed) :
    v.Equal w ↔ v.key? = w.key? := by
  rw [Equal, equals_of_keyed hv hw, Bool.or_false, same_eq_true_iff_of_key hv hw]

/-! ### Sets of values -/

/-- A set that compares with all of its items keeps the first item of every key. -/
theorem distinctItems_eq_distinctBy {values : List Value} (h : ∀ v ∈ values, v.Keyed) :
    distinctItems values = .ok (distinctBy key? values) := by
  have hcheck : values.forM checkHashable = .ok () := by
    rw [forM_eq_ok_iff]
    intro v hv
    rcases word_or_scopeSet_of_keyed (h v hv) with ⟨t, ht⟩ | ⟨a, rfl⟩
    · cases v with
      | text s | scope s => rfl
      | _ => cases ht
    · rfl
  have hfill : values.foldl (addItem same) [] = distinctBy key? values := by
    rw [foldl_addItem key? fun v hv w hw => same_eq_true_iff_of_key (h v hv) (h w hw)]
    simp
  rw [distinctItems, hcheck, ← hfill]
  rfl

/-- A set that compares with items of the same hash keeps the first item of every key. No hash
function makes it miss an equal item. -/
theorem hashedItems_eq_distinctBy (hash : HashKey → Int) {values : List Value}
    (h : ∀ v ∈ values, v.Keyed) : hashedItems hash values = distinctBy key? values := by
  rw [hashedItems, foldl_addItem key?]
  · simp
  · intro v hv w hw
    rw [Bool.and_eq_true, beq_iff_eq, same_eq_true_iff_of_key (h v hv) (h w hw)]
    -- Equal keys have equal hashes, so the hashes never decide.
    exact ⟨fun htest => htest.2, fun hkey => ⟨congrArg (Option.map hash) hkey, hkey⟩⟩

/-! ### The size of a set -/

/-- The texts of a set, in no order, are those of its members. -/
theorem texts_toFinset (a : ScopeSet) :
    a.texts.toFinset = a.members.toFinset.image Scope.text := by
  ext t
  simp [ScopeSet.texts]

/-- The keys of a list are those of its words and those of its scope sets, and these are different. -/
theorem card_keys {values : List Value} (h : ∀ v ∈ values, v.Keyed) :
    (values.map key?).toFinset.card
      = (values.filterMap word?).toFinset.card + (values.filterMap memberSet?).toFinset.card := by
  let wordKey : String → Option HashKey := fun t => some (.word t)
  let setKey : Finset Scope → Option HashKey := fun ss => some (.words (ss.image Scope.text))
  have hword : Function.Injective wordKey := by
    intro t u htu
    exact HashKey.word.inj (Option.some.inj htu)
  have hset : Function.Injective setKey := by
    intro ss ss' hss
    refine Finset.image_injective (fun s s' => Scope.eq_of_text_eq) ?_
    exact HashKey.words.inj (Option.some.inj hss)
  have hkeys : (values.map key?).toFinset = (values.filterMap word?).toFinset.image wordKey
      ∪ (values.filterMap memberSet?).toFinset.image setKey := by
    ext k
    simp only [List.mem_toFinset, List.mem_map, Finset.mem_union, Finset.mem_image,
      List.mem_filterMap]
    constructor
    · rintro ⟨v, hv, rfl⟩
      rcases word_or_scopeSet_of_keyed (h v hv) with ⟨t, ht⟩ | ⟨a, rfl⟩
      · exact Or.inl ⟨t, ⟨v, hv, ht⟩, (key?_of_word? ht).symm⟩
      · refine Or.inr ⟨a.members.toFinset, ⟨.scopeSet a, hv, rfl⟩, ?_⟩
        rw [key?, texts_toFinset]
    · rintro (⟨t, ⟨v, hv, ht⟩, rfl⟩ | ⟨ss, ⟨v, hv, hss⟩, rfl⟩)
      · exact ⟨v, hv, key?_of_word? ht⟩
      · refine ⟨v, hv, ?_⟩
        cases v with
        | scopeSet a =>
          obtain rfl : a.members.toFinset = ss := Option.some.inj hss
          rw [key?, texts_toFinset]
        | _ => cases hss
  -- The key of a word is never that of a scope set.
  have hdisjoint : Disjoint ((values.filterMap word?).toFinset.image wordKey)
      ((values.filterMap memberSet?).toFinset.image setKey) := by
    rw [Finset.disjoint_left]
    intro k hk hk'
    obtain ⟨t, -, rfl⟩ := Finset.mem_image.mp hk
    obtain ⟨ss, -, hss⟩ := Finset.mem_image.mp hk'
    cases hss
  rw [hkeys, Finset.card_union_of_disjoint hdisjoint, Finset.card_image_of_injective _ hword,
    Finset.card_image_of_injective _ hset]

/-- Equality and hashing of texts, scopes and scope sets.

1. Equality is an equivalence relation.
2. Two values are equal exactly if they have the same key.
3. A scope set is never equal to a text or a scope.
4. All lists of such values can be made into a set, and it makes no difference whether hashes are
   used, whatever the hash function. The set has one item for each text among the texts and the
   scopes of the list, and one for each set of members among its scope sets. -/
theorem equality_and_hashing :
    (Equivalence fun v w : {v : Value // v.Keyed} => v.1.Equal w.1)
      ∧ (∀ v w : Value, v.Keyed → w.Keyed → (v.Equal w ↔ v.key? = w.key?))
      ∧ (∀ (a : ScopeSet) (v : Value) (t : String), v.word? = some t →
          ¬ (scopeSet a).Equal v ∧ ¬ v.Equal (.scopeSet a))
      ∧ ∀ values : List Value, (∀ v ∈ values, v.Keyed) → ∃ items, ofItems values = .ok (.set items)
          ∧ (∀ hash, hashedItems hash values = items)
          ∧ items.length = (values.filterMap word?).toFinset.card
            + (values.filterMap memberSet?).toFinset.card := by
  refine ⟨⟨?_, ?_, ?_⟩, fun v w => equal_iff_of_keyed, ?_, ?_⟩
  · intro v
    exact (equal_iff_of_keyed v.2 v.2).mpr rfl
  · intro v w hvw
    rw [equal_iff_of_keyed w.2 v.2]
    exact ((equal_iff_of_keyed v.2 w.2).mp hvw).symm
  · intro u v w huv hvw
    rw [equal_iff_of_keyed u.2 w.2]
    exact ((equal_iff_of_keyed u.2 v.2).mp huv).trans ((equal_iff_of_keyed v.2 w.2).mp hvw)
  · intro a v t hv
    have hset : (scopeSet a).Keyed := rfl
    rw [Equal, Equal, equals_of_keyed hset (keyed_of_word? hv),
      equals_of_keyed (keyed_of_word? hv) hset, Bool.or_false, Bool.or_false]
    exact (not_same_scopeSet hv a).symm
  · intro values h
    refine ⟨distinctBy key? values, ?_, fun hash => hashedItems_eq_distinctBy hash h, ?_⟩
    · rw [ofItems, distinctItems_eq_distinctBy h]
      rfl
    · rw [length_distinctBy, card_keys h]

/-- A scope and its text are one item, and so are two sets with the same members in different orders.
A set of one scope is not the scope. -/
theorem equality_and_hashing_mixed :
    let read : Scope := ⟨["api", "read"], by decide, by decide⟩
    let write : Scope := ⟨["api", "write"], by decide, by decide⟩
    let values : List Value := [.scope read, .text "api.read", .scopeSet (.ofList [read, write]),
      .scopeSet (.ofList [write, read]), .scopeSet (.ofList [read]), .text "not..a scope"]
    (∀ v ∈ values, v.Keyed) ∧ (scope read).Equal (.text "api.read")
      ∧ (scopeSet (.ofList [read, write])).Equal (.scopeSet (.ofList [write, read]))
      ∧ ¬ (scopeSet (.ofList [read])).Equal (.scope read)
      ∧ ∃ items, ofItems values = .ok (.set items) ∧ items.length = 4 := by
  intro read write values
  have hkeyed : ∀ v ∈ values, v.Keyed := by
    simp [values, Keyed, key?]
  obtain ⟨-, hequal, hapart, hsize⟩ := equality_and_hashing
  obtain ⟨items, hitems, -, hlength⟩ := hsize values hkeyed
  have hwords : (values.filterMap word?).toFinset.card = 2 := by decide
  have hsets : (values.filterMap memberSet?).toFinset.card = 2 := by decide
  have htexts : (ScopeSet.ofList [read, write]).texts.toFinset
      = (ScopeSet.ofList [write, read]).texts.toFinset := by decide
  refine ⟨hkeyed, ?_, ?_, (hapart _ (.scope read) _ rfl).1, items, hitems, ?_⟩
  · exact (hequal (.scope read) (.text "api.read") rfl rfl).mpr rfl
  · exact (hequal (.scopeSet _) (.scopeSet _) rfl rfl).mpr
      (congrArg (fun ts => some (HashKey.words ts)) htexts)
  · rw [hlength, hwords, hsets]

end Value

end AccessScopes
