import AccessScopes.Proofs.Description.Checks

/-!
# `AccessScopes.Proofs.Description.Complaints`: what a check complains about

A check that fails tells all problems. Most of them are about the form of a value, and only a text
that is no pattern brings a fault of its own. `Complaint.Justified` says that such a fault is that of
a text which the value holds.

* `Value.Plain`: the values that are made of plain data.
* `Checked.Complains` says something of all complaints of a check, and goes along with the ways in
  which checks are put together.
* `checkGrammar_complains`: all complaints about a plain value are justified.
-/

set_option autoImplicit false

namespace AccessScopes

namespace Value

/-- A value of plain data. No two keys of a table are equal. -/
inductive Plain : Value → Prop
  | null : Plain .null
  | bool (b : Bool) : Plain (.bool b)
  | int (n : Int) : Plain (.int n)
  | text (s : String) : Plain (.text s)
  | list {items : List Value} (h : ∀ item ∈ items, item.Plain) : Plain (.list items)
  | table {entries : List (Value × Value)} (distinct : (entries.map Prod.fst).Nodup)
    (keys : ∀ e ∈ entries, e.1.Plain) (values : ∀ e ∈ entries, e.2.Plain) : Plain (.table entries)

/-- A table without entries is plain. -/
theorem Plain.nil : Plain (.table []) :=
  .table List.nodup_nil nofun nofun

/-- A further field makes a plain table, if no key of the table is its name. -/
theorem Plain.cons {name : String} {value : Value} {entries : List (Value × Value)}
    (hnew : .text name ∉ entries.map Prod.fst) (hvalue : value.Plain) (h : Plain (.table entries)) :
    Plain (.table ((.text name, value) :: entries)) := by
  cases h with
  | table distinct keys values =>
    exact .table (List.nodup_cons.mpr ⟨hnew, distinct⟩)
      (List.forall_mem_cons.mpr ⟨.text name, keys⟩) (List.forall_mem_cons.mpr ⟨hvalue, values⟩)

/-- Whether a value holds a text: it is the text, or holds it in its items or behind its keys. -/
inductive Holds (s : String) : Value → Prop
  | text : Holds s (.text s)
  | list {items : List Value} {item : Value} (hmem : item ∈ items) (h : Holds s item) :
    Holds s (.list items)
  | table {entries : List (Value × Value)} {e : Value × Value} (hmem : e ∈ entries)
    (h : Holds s e.2) : Holds s (.table entries)

end Value

namespace Description

/-- Whether a complaint about a pattern gives the fault of a text that the value holds. -/
def Complaint.Justified (v : Value) : Complaint → Prop
  | .refused (.invalidPattern source fault) =>
    v.Holds source ∧ Pattern.ofText? source false = .error fault
  | _ => True

/-- A complaint about the value of an entry is justified for the whole table. -/
theorem Complaint.Justified.behind_key {entries : List (Value × Value)} {e : Value × Value}
    (he : e ∈ entries) {complaint : Complaint} (h : complaint.Justified e.2) :
    complaint.Justified (.table entries) := by
  unfold Complaint.Justified at h ⊢
  split
  · exact ⟨.table he h.1, h.2⟩
  · trivial

/-! ### Checks put together -/

/-- Whether every complaint of a check has a property. -/
def Checked.Complains {α : Type} (P : Complaint → Prop) (result : Checked α) : Prop :=
  ∀ problems, result = .error problems → ∀ p ∈ problems, P p.complaint

namespace Checked.Complains

variable {α β : Type} {P Q : Complaint → Prop}

/-- A check that succeeds complains about nothing. -/
theorem ok (a : α) : Complains P (.ok a : Checked α) := nofun

/-- A check that fails with one complaint complains about nothing else. -/
theorem fail {complaint : Complaint} (h : P complaint) :
    Complains P (Checked.fail complaint : Checked α) := by
  rintro _ ⟨⟩ p hp
  rw [List.mem_singleton.mp hp]
  exact h

/-- What is true of all complaints stays true when less is said. -/
theorem mono {result : Checked α} (h : Complains P result) (hPQ : ∀ c, P c → Q c) :
    Complains Q result :=
  fun problems hproblems p hp => hPQ _ (h problems hproblems p hp)

/-- Saying where a check stands changes no complaint. -/
theorem under {result : Checked α} (h : Complains P result) (step : Step) :
    Complains P (result.under step) := by
  intro problems hproblems p hp
  cases result with
  | ok a => cases hproblems
  | error inner =>
    cases hproblems
    obtain ⟨q, hq, rfl⟩ := List.mem_map.mp hp
    exact h inner rfl q hq

/-- Putting a result into another form changes no complaint. -/
theorem map {result : Checked α} (h : Complains P result) (f : α → β) :
    Complains P (Except.map f result) := by
  intro problems hproblems
  exact h problems (map_eq_error_iff.mp hproblems)

/-- The complaints of two checks are those of the one and of the other. -/
theorem both {first : Checked α} {second : Checked β} (hfirst : Complains P first)
    (hsecond : Complains P second) : Complains P (first.both second) := by
  intro problems hproblems p hp
  cases first with
  | ok a =>
    cases second with
    | ok b => cases hproblems
    | error problems' =>
      cases hproblems
      exact hsecond _ rfl p hp
  | error problems' =>
    cases second with
    | ok b =>
      cases hproblems
      exact hfirst _ rfl p hp
    | error problems'' =>
      -- Both fail: no problem of the second is lost behind those of the first.
      cases hproblems
      rcases List.mem_append.mp hp with hp | hp
      · exact hfirst _ rfl p hp
      · exact hsecond _ rfl p hp

/-- The complaints of a list of checks are those of its checks. -/
theorem all {results : List (Checked α)} (h : ∀ result ∈ results, Complains P result) :
    Complains P (Checked.all results) := by
  induction results with
  | nil => exact ok []
  | cons first rest ih =>
    obtain ⟨hfirst, hrest⟩ := List.forall_mem_cons.mp h
    exact (hfirst.both (ih hrest)).map _

/-- A further test adds its own complaint at most. -/
theorem refine {result : Checked α} {test : α → Option Complaint} (h : Complains P result)
    (htest : ∀ a c, result = .ok a → test a = some c → P c) :
    Complains P (result.refine test) := by
  cases result with
  | error problems => exact h
  | ok a =>
    cases hc : test a with
    | some c => simpa [Checked.refine, bind, Except.bind, hc] using fail (htest a c rfl hc)
    | none => simpa [Checked.refine, bind, Except.bind, hc] using ok a

/-- The check of a field complains about the value of the field alone, and not where the field is
missing. -/
theorem optionalField {fields : List (Value × Value)} {name : String} {default : α}
    {check : Value → Checked α} (h : ∀ e ∈ fields, Complains P (check e.2)) :
    Complains P (Description.optionalField name default check fields) := by
  rw [Description.optionalField]
  split
  · exact ok default
  · next v hv =>
    obtain ⟨e, he, rfl⟩ := exists_mem_of_field? hv
    exact (h e he).under _

end Checked.Complains

/-! ### The checks of a description -/

open Checked (Complains)

variable {v : Value}

/-- The complaints about a text give no fault of a pattern. -/
theorem checkText_complains (bounds : Bounds) (v w : Value) :
    Complains (Complaint.Justified w) (checkText bounds v) := by
  unfold checkText
  split
  · split
    · exact .fail trivial
    · split
      · exact .fail trivial
      · exact .ok _
  · exact .fail trivial

/-- The complaints about a list of texts give no fault of a pattern. -/
theorem checkTexts_complains (bounds : Bounds) (limit : Option Nat) (v w : Value) :
    Complains (Complaint.Justified w) (checkTexts bounds limit v) := by
  have hitems : ∀ items : List Value, Complains (Complaint.Justified w)
      (if limit.any (· < items.length) then .fail .tooMany
        else Checked.all (items.mapIdx fun i item => (checkText bounds item).under (.index i))) := by
    intro items
    split
    · exact .fail trivial
    · refine .all fun result hresult => ?_
      obtain ⟨i, hi, rfl⟩ := List.mem_mapIdx.mp hresult
      exact (checkText_complains bounds _ w).under _
  cases v with
  | list items => exact hitems items
  | tuple items => exact hitems items
  | _ => exact .fail trivial

/-- What is said against a name gives no fault of a pattern. -/
theorem justified_of_refuseName {name : String} {c : Complaint} (h : refuseName name = some c) :
    c.Justified v := by
  unfold refuseName at h
  split at h
  · cases h
  · cases h
    trivial

/-- What is said against several names gives no fault of a pattern. -/
theorem justified_of_refuseNames {names : List String} {c : Complaint}
    (h : refuseNames names = some c) : c.Justified v := by
  obtain ⟨name, -, hname⟩ := List.exists_of_findSome?_eq_some h
  exact justified_of_refuseName hname

/-- What is said against aliases gives no fault of a pattern. -/
theorem justified_of_refuseAliases {aliases : List String} {c : Complaint}
    (h : refuseAliases aliases = some c) : c.Justified v := by
  unfold refuseAliases at h
  split at h
  · next complaint hnames =>
    cases h
    exact justified_of_refuseNames hnames
  · split at h
    · cases h
    · cases h
      trivial

/-- The fault that is told is that of the text which was to be the pattern. -/
theorem checkPatternValue_complains (v : Value) :
    Complains (Complaint.Justified v) (checkPatternValue v) := by
  have hvalue : Complains (Complaint.Justified v)
      (((checkText patternBounds v).refine refusePattern).map some) := by
    refine ((checkText_complains patternBounds v v).refine fun source c hsource hc => ?_).map _
    obtain ⟨rfl, -⟩ := checkText_eq_ok_iff.mp hsource
    unfold refusePattern at hc
    split at hc
    · cases hc
    · next fault hfault =>
      cases hc
      exact ⟨.text, hfault⟩
  cases v with
  | null => exact .ok none
  | _ => exact hvalue

/-- The complaints about a key give no fault of a pattern. -/
theorem checkKey_complains (bounds : Bounds) (key w : Value) :
    Complains (Complaint.Justified w) (checkKey bounds key) :=
  ((checkText_complains bounds key w).under _).under _

/-- The complaints about unknown fields give no fault of a pattern. -/
theorem checkFields_complains (known : List String) (fields : List (Value × Value)) (w : Value) :
    Complains (Complaint.Justified w) (checkFields known fields) := by
  have hunknown : ∀ p ∈ unknownFields known fields, p.complaint.Justified w := by
    induction fields with
    | nil => exact fun p hp => absurd hp List.not_mem_nil
    | cons first rest ih =>
      obtain ⟨key, value⟩ := first
      cases key with
      | text k =>
        rw [unknownFields]
        split
        · exact ih
        · exact List.forall_mem_cons.mpr ⟨trivial, ih⟩
      -- A key that is no text is complained about like a name that is not known.
      | _ => exact List.forall_mem_cons.mpr ⟨trivial, ih⟩
  unfold checkFields
  split
  · exact .ok ()
  · rintro _ ⟨⟩
    exact hunknown

/-- If the complaints about a slot are justified, so are those about the field that it is given in.
-/
theorem checkAnyValue_complains {w : Value} (h : Complains (Complaint.Justified w) (checkWild v)) :
    Complains (Complaint.Justified w) (checkAnyValue v) := by
  cases v with
  | null =>
    rw [checkAnyValue]
    exact .ok none
  | table fields =>
    rw [checkAnyValue]
    exact h.map some
  | _ => exact .fail trivial

/-- If the complaints about the nodes are justified, so are those about the table of children. -/
theorem checkChildEntries_complains {entries : List (Value × Value)} {w : Value}
    (h : ∀ e ∈ entries, Complains (Complaint.Justified w) (checkNode e.2)) :
    Complains (Complaint.Justified w) (checkChildEntries entries) := by
  induction entries with
  | nil =>
    rw [checkChildEntries]
    exact .ok []
  | cons first rest ih =>
    obtain ⟨key, value⟩ := first
    obtain ⟨hfirst, hrest⟩ := List.forall_mem_cons.mp h
    rw [checkChildEntries]
    exact (((checkKey_complains nameBounds key w).both (hfirst.under _)).both (ih hrest)).map _

/-- All complaints about nodes, slots and tables of children are justified. The induction is on the
value; what is justified by a part of a table is justified by the table. -/
theorem checks_complain (hv : v.Plain) :
    Complains (Complaint.Justified v) (checkNode v)
      ∧ Complains (Complaint.Justified v) (checkWild v)
      ∧ Complains (Complaint.Justified v) (checkChildTable v) := by
  induction hv with
  | @table fields _ _ _ _ ih =>
    have hparts : Complains (Complaint.Justified (.table fields))
        ((checkChildren fields).both (checkAny fields)) := by
      rw [checkChildren_eq, checkAny_eq]
      refine .both (.optionalField fun e he => ?_) (.optionalField fun e he => ?_)
      · exact (ih e he).2.2.mono fun c hc => hc.behind_key he
      · exact (checkAnyValue_complains (ih e he).2.1).mono fun c hc => hc.behind_key he
    have haliases : Complains (Complaint.Justified (.table fields)) (checkAliases fields) :=
      .optionalField fun e _ => (checkTexts_complains _ _ e.2 _).refine
        fun _ c _ hc => justified_of_refuseAliases hc
    have hpattern : Complains (Complaint.Justified (.table fields)) (checkPattern fields) :=
      .optionalField fun e he =>
        (checkPatternValue_complains e.2).mono fun c hc => hc.behind_key he
    refine ⟨?_, ?_, ?_⟩
    · rw [checkNode]
      exact (hparts.both (checkFields_complains _ fields _)).map _
    · exact (((hparts.both haliases).both hpattern).both (checkFields_complains _ fields _)).map _
    · rw [checkChildTable]
      refine (checkChildEntries_complains fun e he => ?_).refine
        fun _ c _ hc => justified_of_refuseNames hc
      exact (ih e he).1.mono fun c hc => hc.behind_key he
  | _ => exact ⟨.fail trivial, .fail trivial, .fail trivial⟩

/-- All complaints about a value of plain data are justified. -/
theorem checkGrammar_complains (hv : v.Plain) :
    Complains (Complaint.Justified v) (checkGrammar v) := by
  cases hv with
  | @table fields _ _ values =>
    have hroot : Complains (Complaint.Justified (.table fields)) (checkRoot fields) := by
      rw [checkRoot]
      split
      · exact (Complains.fail trivial).under _
      · exact ((checkText_complains _ _ _).refine fun _ c _ hc => justified_of_refuseName hc).under _
    have hnode : Complains (Complaint.Justified (.table fields))
        (optionalField "grammar" .leaf checkNode fields) :=
      .optionalField fun e he =>
        (checks_complain (values e he)).1.mono fun c hc => hc.behind_key he
    have hall := (hroot.both hnode).both (checkFields_complains ["root", "grammar"] fields _)
    rw [checkGrammar_table]
    exact hall.map _
  | _ => exact .fail trivial

end Description

end AccessScopes
