import AccessScopes.Pattern.Fault

/-!
# `AccessScopes.Description.Problem`: what is wrong with a description

A description is checked as a whole. Each problem tells what is wrong and where: the keys and
positions that lead to the place, from the outside in. `Checked` is the outcome of a check, and
`Checked.both` joins two checks, so that the problems of both are told.
-/

set_option autoImplicit false

namespace AccessScopes.Description

/-- What is described. -/
inductive Model where
  | grammar
  | node
  | wildSlot
  | aliasTable
deriving DecidableEq, Repr

/-- The name of a model in reports. -/
def Model.title : Model → String
  | .grammar => "TreeSpec"
  | .node => "NodeSpec"
  | .wildSlot => "AnySpec"
  | .aliasTable => "AliasMapSpec"

/-- One step of a location. -/
inductive Step where
  | key (name : String)
  | index (n : Int)
deriving DecidableEq, Repr

/-- The step that says that the key itself is meant, not its value. -/
def Step.keyItself : Step := .key "[key]"

/-- Why a value of the right form is refused all the same. -/
inductive Refusal where
  | invalidName (name : String)
  | repeatedAliases
  | invalidPattern (source : String) (fault : Pattern.Fault)
deriving DecidableEq, Repr

/-- The words for a refusal. -/
def Refusal.message : Refusal → String
  | .invalidName name => "invalid segment name: " ++ Text.quote name
  | .repeatedAliases => "aliases must be unique"
  | .invalidPattern source fault => fault.report "invalid pattern: " source

/-- What is wrong. -/
inductive Complaint where
  | noModel
  | noTable
  | noList
  | noText
  | textTooShort
  | textTooLong
  /-- Too many elements or keys. -/
  | tooMany
  /-- A field that has to be there is not. -/
  | missingField
  | unknownField
  /-- The key of a field is no text. -/
  | invalidKey
  | refused (refusal : Refusal)
deriving DecidableEq, Repr

/-- The name of a complaint in reports. -/
def Complaint.code : Complaint → String
  | .noModel => "model_type"
  | .noTable => "dict_type"
  | .noList => "list_type"
  | .noText => "string_type"
  | .textTooShort => "string_too_short"
  | .textTooLong => "string_too_long"
  | .tooMany => "too_long"
  | .missingField => "missing"
  | .unknownField => "extra_forbidden"
  | .invalidKey => "invalid_key"
  | .refused _ => "value_error"

/-- The words that go with a complaint, if its code does not say enough. -/
def Complaint.message? : Complaint → Option String
  | .refused refusal => some ("Value error, " ++ refusal.message)
  | _ => none

/-- A complaint and where it applies. -/
structure Problem where
  complaint : Complaint
  location : List Step
deriving DecidableEq, Repr

/-- The outcome of a check: a result, or all problems in the order of the checks. -/
abbrev Checked (α : Type) := Except (List Problem) α

/-- A check that fails with one problem at the place of the check. -/
def Checked.fail {α : Type} (complaint : Complaint) : Checked α :=
  .error [⟨complaint, []⟩]

/-- The same check one step further inside. -/
def Checked.under {α : Type} (step : Step) (result : Checked α) : Checked α :=
  result.mapError fun problems =>
    problems.map fun p => { p with location := step :: p.location }

/-- Both results, or the problems of both. -/
def Checked.both {α β : Type} : Checked α → Checked β → Checked (α × β)
  | .ok a, .ok b => .ok (a, b)
  | .ok _, .error problems => .error problems
  | .error problems, .ok _ => .error problems
  | .error first, .error second => .error (first ++ second)

/-- The results of all checks, or the problems of all. -/
def Checked.all {α : Type} : List (Checked α) → Checked (List α)
  | [] => .ok []
  | first :: rest => (first.both (Checked.all rest)).map fun (a, others) => a :: others

/-- A result that has to pass a test. -/
def Checked.refine {α : Type} (test : α → Option Complaint) (result : Checked α) : Checked α := do
  let a ← result
  match test a with
  | some complaint => .fail complaint
  | none => .ok a

namespace Checked

variable {α β : Type}

/-- Saying where a check stands changes nothing for a check that succeeds. -/
@[simp] theorem under_eq_ok {step : Step} {result : Checked α} {a : α} :
    result.under step = .ok a ↔ result = .ok a := by
  cases result with
  | ok => exact Iff.rfl
  | error => exact iff_of_false nofun nofun

/-- A checked value that is put into another form was checked without problems before. -/
@[simp] theorem map_eq_ok {f : α → β} {result : Checked α} {b : β} :
    Except.map f result = .ok b ↔ ∃ a, result = .ok a ∧ f a = b := by
  cases result <;> simp [Except.map]

/-- Both checks succeed, or the joined check fails. -/
@[simp] theorem both_eq_ok {first : Checked α} {second : Checked β} {p : α × β} :
    first.both second = .ok p ↔ first = .ok p.1 ∧ second = .ok p.2 := by
  cases first <;> cases second <;> simp [both, Prod.ext_iff]

/-- All checks succeed, or the joined check fails. -/
@[simp] theorem all_eq_ok {results : List (Checked α)} {values : List α} :
    Checked.all results = .ok values ↔ results = values.map .ok := by
  induction results generalizing values with
  | nil => cases values <;> simp [all]
  | cons first rest ih =>
    cases values with
    | nil => simp [all]
    | cons v vs => simp [all, ih]

/-- A result passes if the test has no complaint about it. -/
@[simp] theorem refine_eq_ok {test : α → Option Complaint} {result : Checked α} {a : α} :
    result.refine test = .ok a ↔ result = .ok a ∧ test a = none := by
  cases result with
  | error problems => simp [refine, bind, Except.bind]
  | ok b =>
    by_cases h : b = a
    · subst h
      cases ht : test b <;> simp [refine, bind, Except.bind, ht, fail]
    · cases ht : test b <;> simp [refine, bind, Except.bind, ht, fail, h]

end Checked

end AccessScopes.Description
