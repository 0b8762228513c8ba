import AccessScopes.Grammar.Reading
import AccessScopes.Guard

/-!
# `AccessScopes.Response`: answers to a client

A client never learns which part of a scope was refused, only that it was. The refused key and
path go to the audit, once: a rejection that has been recorded already is not recorded again.
-/

set_option autoImplicit false

namespace AccessScopes

/-- The status of a request that is answered. -/
def Response.success : Nat := 200

/-- The status of a request that cannot be understood. -/
def Response.badRequest : Nat := 400

/-- The status of a request that is not permitted. -/
def Response.forbidden : Nat := 403

/-- The body of an answer to a bad request. -/
structure ErrorBody where
  error : String
  detail : String
deriving DecidableEq, Repr

/-- The answer to a scope that the grammar rejects. -/
def Rejection.body : ErrorBody :=
  ⟨"invalid_scope", "Scope is not valid for this API"⟩

/-- The answer to a text that is no scope. -/
def ArgumentError.body : ErrorBody :=
  ⟨"malformed_scope", "Scope string is malformed"⟩

/-- What a handler has to record for a rejection on a route. The grammar is known by the first
segment of the path. -/
def Rejection.events (r : Rejection) (route : String) : List Audit.Event :=
  if r.audited then []
  else [Grammar.rejectedEvent (r.path.headD "<unknown>") r (some route)]

/-- The detail of an answer that denies access. -/
def Decision.deniedDetail : String := "Insufficient scope"

/-- The challenge that tells a client which scopes are required. -/
def Decision.challenge (required : List String) : String :=
  "Bearer scope=\"" ++ " ".intercalate required ++ "\""

end AccessScopes
