import AccessScopes.Description.Basic
import AccessScopes.Value.Coercion

/-!
# `AccessScopes.Description.Validation`: checking descriptions

A description comes in as a value. It is checked field by field, in a fixed order of the fields,
and the unknown fields come last. A field is held to the rules for its content only if its form is
right.

* A grammar has a `root`, which is a name, and may have a `grammar`, which is a node.
* A node may have `children`, a table of nodes under names, and `any`, a wild slot or nothing.
* A wild slot is a node that may also have `aliases`, a list of different names, and a `pattern`,
  which is a text that can be read as one or nothing.
* An alias table may have a `mapping`, a table of lists of texts.

`Grammar.ofValue` checks a value and builds the grammar that it describes, and
`Grammar.rebuild` does so with the description of a grammar.
-/

set_option autoImplicit false

namespace AccessScopes.Description

/-- The bounds for the number of characters of a text. -/
structure Bounds where
  least : Nat
  most : Nat

/-- The bounds for names. -/
def nameBounds : Bounds := ⟨1, 64⟩

/-- The bounds for patterns. -/
def patternBounds : Bounds := ⟨1, 256⟩

/-- The bounds for written scopes and the names of alias tables. -/
def scopeBounds : Bounds := ⟨1, 1024⟩

/-- The number of aliases that a wild slot may have. -/
def aliasLimit : Nat := 64

/-- The number of names that an alias table may have. -/
def mappingLimit : Nat := 256

/-- The step of a location for a key of any kind. Numbers stay numbers if they fit into a machine
word, and all else is told in words. -/
def keyStep : Value → Step
  | .int n => if fitsWord n then .index n else .key (Value.int n).plain
  | .bool b => .index (if b then 1 else 0)
  | key => .key key.plain

/-- A text within bounds. -/
def checkText (bounds : Bounds) : Value → Checked String
  | .text s =>
    if s.length < bounds.least then .fail .textTooShort
    else if bounds.most < s.length then .fail .textTooLong
    else .ok s
  | _ => .fail .noText

/-- A list of texts within bounds. Beyond the limit nothing else is told. -/
def checkTexts (bounds : Bounds) (limit : Option Nat) : Value → Checked (List String)
  | .list items | .tuple items =>
    if limit.any (· < items.length) then .fail .tooMany
    else .all (items.mapIdx fun i item => (checkText bounds item).under (.index i))
  | _ => .fail .noList

/-- The complaint about a text that is no name. -/
def refuseName (name : String) : Option Complaint :=
  if isToken name then none else some (.refused (.invalidName name))

/-- The complaint about the first of several texts that is no name. -/
def refuseNames (names : List String) : Option Complaint :=
  names.findSome? refuseName

/-- The complaint about aliases: one is no name, or two are the same. -/
def refuseAliases (aliases : List String) : Option Complaint :=
  match refuseNames aliases with
  | some complaint => some complaint
  | none => if aliases.Nodup then none else some (.refused .repeatedAliases)

/-- The complaint about a text that is no pattern. -/
def refusePattern (source : String) : Option Complaint :=
  match Pattern.ofText? source false with
  | .ok _ => none
  | .error fault => some (.refused (.invalidPattern source fault))

/-- The value of a field. -/
def field? (name : String) : List (Value × Value) → Option Value
  | [] => none
  | (.text key, value) :: rest => if key = name then some value else field? name rest
  | _ :: rest => field? name rest

/-- The problems with the keys of fields: those that are unknown and those that are no texts. -/
def unknownFields (known : List String) : List (Value × Value) → List Problem
  | [] => []
  | (.text key, _) :: rest =>
    if known.contains key then unknownFields known rest
    else ⟨.unknownField, [.key key]⟩ :: unknownFields known rest
  | (key, _) :: rest => ⟨.invalidKey, [keyStep key]⟩ :: unknownFields known rest

/-- Accepts fields if all of them are known. -/
def checkFields (known : List String) (fields : List (Value × Value)) : Checked Unit :=
  match unknownFields known fields with
  | [] => .ok ()
  | problems => .error problems

/-- The check of a field that may be left out. -/
def optionalField {α : Type} (name : String) (default : α) (check : Value → Checked α)
    (fields : List (Value × Value)) : Checked α :=
  match field? name fields with
  | none => .ok default
  | some value => (check value).under (.key name)

/-- The aliases of a wild slot. -/
def checkAliases (fields : List (Value × Value)) : Checked (List String) :=
  optionalField "aliases" []
    (fun value => (checkTexts nameBounds (some aliasLimit) value).refine refuseAliases) fields

/-- A pattern or nothing. -/
def checkPatternValue : Value → Checked (Option String)
  | .null => .ok none
  | value => ((checkText patternBounds value).refine refusePattern).map some

/-- The pattern of a wild slot. -/
def checkPattern (fields : List (Value × Value)) : Checked (Option String) :=
  optionalField "pattern" none checkPatternValue fields

/-- A key of a table. -/
def checkKey (bounds : Bounds) (key : Value) : Checked String :=
  ((checkText bounds key).under .keyItself).under (keyStep key)

/-- The fields of a node. -/
def nodeFields : List String := ["children", "any"]

/-- The fields of a wild slot. -/
def wildFields : List String := nodeFields ++ ["aliases", "pattern"]

/-- The children and the wild slot of a node, from the fields that hold them. -/
abbrev NodeParts := List (String × Node String) × Option (WildSlot String × Node String)

/-- A node with the given parts, if it has no fields but those of a node. -/
def joinNode (parts : Checked NodeParts) (fields : List (Value × Value)) :
    Checked (Node String) :=
  (parts.both (checkFields nodeFields fields)).map fun ((children, wild), _) => .mk children wild

/-- A wild slot whose subtree has the given parts. -/
def joinWild (parts : Checked NodeParts) (fields : List (Value × Value)) :
    Checked (WildSlot String × Node String) :=
  (((parts.both (checkAliases fields)).both (checkPattern fields)).both
    (checkFields wildFields fields)).map fun ((((children, wild), aliases), pattern), _) =>
      (⟨aliases, pattern⟩, .mk children wild)

mutual

/-- A node. -/
def checkNode : Value → Checked (Node String)
  | .table fields => joinNode ((checkChildren fields).both (checkAny fields)) fields
  | _ => .fail .noModel

/-- The children among the fields of a node. -/
def checkChildren : List (Value × Value) → Checked (List (String × Node String))
  | [] => .ok []
  | (.text key, value) :: rest =>
    if key = "children" then (checkChildTable value).under (.key "children")
    else checkChildren rest
  | _ :: rest => checkChildren rest

/-- A table of nodes under names. -/
def checkChildTable : Value → Checked (List (String × Node String))
  | .table entries =>
    (checkChildEntries entries).refine fun children => refuseNames (children.map Prod.fst)
  | _ => .fail .noTable

/-- The entries of a table of nodes: for each the problems of its key, then those of its value. -/
def checkChildEntries : List (Value × Value) → Checked (List (String × Node String))
  | [] => .ok []
  | (key, value) :: rest =>
    (((checkKey nameBounds key).both ((checkNode value).under (keyStep key))).both
      (checkChildEntries rest)).map fun (child, others) => child :: others

/-- The wild slot among the fields of a node. -/
def checkAny : List (Value × Value) → Checked (Option (WildSlot String × Node String))
  | [] => .ok none
  | (.text key, value) :: rest =>
    if key = "any" then (checkAnyValue value).under (.key "any") else checkAny rest
  | _ :: rest => checkAny rest

/-- A wild slot or nothing. -/
def checkAnyValue : Value → Checked (Option (WildSlot String × Node String))
  | .null => .ok none
  | .table fields =>
    (joinWild ((checkChildren fields).both (checkAny fields)) fields).map some
  | _ => .fail .noModel

end

/-- A wild slot with its subtree. -/
def checkWild : Value → Checked (WildSlot String × Node String)
  | .table fields => joinWild ((checkChildren fields).both (checkAny fields)) fields
  | _ => .fail .noModel

/-- A grammar. -/
def checkGrammar : Value → Checked GrammarDescription
  | .table fields => do
    let root : Checked String :=
      match field? "root" fields with
      | none => (Checked.fail .missingField).under (.key "root")
      | some value => ((checkText nameBounds value).refine refuseName).under (.key "root")
    let node := optionalField "grammar" .leaf checkNode fields
    let ((root, node), _) ← (root.both node).both (checkFields ["root", "grammar"] fields)
    return ⟨root, node⟩
  | _ => .fail .noModel

/-- An entry of an alias table: the problems of its name, then those of its targets. -/
def checkAliasEntry (entry : Value × Value) : Checked (String × List String) :=
  (checkKey scopeBounds entry.1).both
    ((checkTexts scopeBounds none entry.2).under (keyStep entry.1))

/-- A table of lists of texts. The number of names is looked at if all else is in order. -/
def checkMapping : Value → Checked AliasDescription
  | .table entries =>
    (Checked.all (entries.map checkAliasEntry)).refine fun mapping =>
      if mappingLimit < mapping.length then some .tooMany else none
  | _ => .fail .noTable

/-- An alias table. -/
def checkAliasTable : Value → Checked AliasDescription
  | .table fields => do
    let mapping := optionalField "mapping" [] checkMapping fields
    let (mapping, _) ← mapping.both (checkFields ["mapping"] fields)
    return mapping
  | _ => .fail .noModel

mutual

/-- The fields that describe a node. -/
def nodeValue : Node String → List (Value × Value)
  | .mk children wild => (.text "children", .table (childValues children)) :: wildValue wild

/-- The entries that describe children. -/
def childValues : List (String × Node String) → List (Value × Value)
  | [] => []
  | (name, child) :: rest => (.text name, .table (nodeValue child)) :: childValues rest

/-- The field that describes a wild slot, if there is one. -/
def wildValue : Option (WildSlot String × Node String) → List (Value × Value)
  | none => []
  | some (slot, subtree) =>
    [(.text "any", .table (nodeValue subtree ++
      [(.text "aliases", .list (slot.aliases.map .text)),
        (.text "pattern", (slot.constraint.map Value.text).getD .null)]))]

end

end AccessScopes.Description

namespace AccessScopes

/-- The value that describes a grammar. -/
def GrammarDescription.toValue (d : GrammarDescription) : Value :=
  .table [(.text "root", .text d.root), (.text "grammar", .table (Description.nodeValue d.node))]

/-- The pattern with a repeat too large among problems, if there is one. -/
def Description.tooLarge? (problems : List Description.Problem) : Option ArgumentError :=
  problems.findSome? fun problem =>
    match problem.complaint with
    | .refused (.invalidPattern source fault) =>
      if fault.cause = .repeatTooLarge then some (.invalidPattern source fault) else none
    | _ => none

/-- The outcome of a check as part of a larger call. A repeat that is too large ends the check by
itself. -/
def liftChecked {α : Type} (model : Description.Model) (result : Description.Checked α) :
    Except Failure α :=
  result.mapError fun problems =>
    match Description.tooLarge? problems with
    | some e => .argument e
    | none => .description model problems

/-- The grammar that a value describes. -/
def Grammar.ofValue (v : Value) : Except Failure Grammar := do
  let d ← liftChecked .grammar (Description.checkGrammar v)
  liftArgument (Grammar.ofDescription d)

/-- The grammar that the description of a grammar describes. -/
def Grammar.rebuild (g : Grammar) : Except Failure Grammar :=
  Grammar.ofValue g.describe.toValue

/-- The alias table that a value describes. -/
def AliasTable.ofValue (v : Value) : Except Failure AliasTable := do
  let d ← liftChecked .aliasTable (Description.checkAliasTable v)
  liftArgument (AliasTable.ofDescription d)

end AccessScopes
