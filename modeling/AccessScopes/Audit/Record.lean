import AccessScopes.Audit.Sanitize
import AccessScopes.Error

/-!
# `AccessScopes.Audit.Record`: records of decisions

Every decision about scopes is an event. An event becomes a record, which has a name, a level, a
judgement on how harmful the caller's behaviour looks, and named fields. Text fields are
sanitised; lists are recorded as they are. Records below the level of the configuration are not
written.
-/

set_option autoImplicit false

namespace AccessScopes.Audit

/-- How much attention a record deserves. -/
inductive Level where
  | debug
  | info
  | warning
  | error
  | critical
deriving DecidableEq, Repr

/-- The levels by rising importance. -/
def Level.rank : Level → Nat
  | .debug => 10
  | .info => 20
  | .warning => 30
  | .error => 40
  | .critical => 50

/-- The name of a level in a record. -/
def Level.name : Level → String
  | .debug => "debug"
  | .info => "info"
  | .warning => "warning"
  | .error => "error"
  | .critical => "critical"

/-- How harmful the behaviour behind an event looks. -/
inductive Judgement where
  | benign
  | malformed
  | escalation
deriving DecidableEq, Repr

/-- The name of a judgement in a record. -/
def Judgement.name : Judgement → String
  | .benign => "BENIGN"
  | .malformed => "MALFORMED"
  | .escalation => "ESCALATION_ATTEMPT"

/-- The value of a field. -/
inductive Field where
  | absent
  | text (value : String)
  | texts (values : List String)
  | count (value : Nat)
deriving DecidableEq, Repr

/-- A record as it is written. -/
structure Record where
  event : String
  level : Level
  judgement : Judgement
  fields : List (String × Field)
deriving DecidableEq, Repr

/-- What is written and how. -/
structure Config where
  threshold : Level
  maxLength : Int
deriving DecidableEq, Repr

/-- The decisions that are recorded. -/
inductive Event where
  /-- A grammar accepted a scope. -/
  | scopeParsed (tree scope : String)
  /-- A grammar rejected a key behind a path. -/
  | hierarchyRejected (tree key : String) (path : List String) (reason : String)
    (route : Option String)
  /-- The grants satisfied the required scopes. -/
  | authorizationGranted (required matched : List String) (mode : String)
  /-- The grants did not satisfy the required scopes. Of the grants only the number is told. -/
  | authorizationDenied (required : List String) (grantedCount : Nat) (missing : List String)
    (mode : String)
deriving DecidableEq, Repr

/-- A text field, sanitised. -/
def Config.text (config : Config) (value : String) : Field :=
  .text (sanitize config.maxLength value)

/-- A text field that may be left out. -/
def Config.optionalText (config : Config) : Option String → Field
  | none => .absent
  | some value => config.text value

/-- The record of an event. An empty reason counts as none. -/
def Config.record (config : Config) : Event → Record
  | .scopeParsed tree scope =>
    ⟨"scope.parsed", .debug, .benign, [("tree", config.text tree), ("scope", config.text scope)]⟩
  | .hierarchyRejected tree key path reason route =>
    ⟨"scope.hierarchy_rejected", .warning, .malformed,
      [("tree", config.text tree), ("key", config.text key),
        ("path", config.text (Text.join separator path)),
        ("reason", config.optionalText (if reason.isEmpty then none else some reason)),
        ("route", config.optionalText route)]⟩
  | .authorizationGranted required matched mode =>
    ⟨"authz.success", .info, .benign,
      [("required_scopes", .texts required), ("matched_scopes", .texts matched),
        ("mode", config.text mode)]⟩
  | .authorizationDenied required grantedCount missing mode =>
    ⟨"authz.failure", .warning, .escalation,
      [("required_scopes", .texts required), ("granted_count", .count grantedCount),
        ("missing_scopes", .texts missing), ("mode", config.text mode)]⟩

/-- Whether records of a level are written. -/
def Config.writes (config : Config) (level : Level) : Bool :=
  config.threshold.rank ≤ level.rank

/-- A configuration that writes the records of a level writes those of every higher level. -/
theorem Config.writes_of_rank_le {config : Config} {low high : Level} (hle : low.rank ≤ high.rank)
    (h : config.writes low = true) : config.writes high = true := by
  have hlow : config.threshold.rank ≤ low.rank := of_decide_eq_true h
  exact decide_eq_true (Nat.le_trans hlow hle)

/-- The records that are written for a list of events. -/
def Config.records (config : Config) (events : List Event) : List Record :=
  (events.map config.record).filter fun r => config.writes r.level

end AccessScopes.Audit
