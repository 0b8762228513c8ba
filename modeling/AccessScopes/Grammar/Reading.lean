import AccessScopes.Audit.Record
import AccessScopes.Cursor

/-!
# `AccessScopes.Grammar.Reading`: reading scopes by a grammar

A grammar reads a scope segment by segment with a cursor. `Grammar.navigate` gives the cursor
behind the last segment, or the rejection of the first segment that does not fit. `Grammar.parse`
gives the scope that the cursor holds, together with the event for the audit; a rejection that
comes from it counts as audited.
-/

set_option autoImplicit false

namespace AccessScopes.Grammar

/-- Reads segments behind a cursor. -/
def navigateFrom (c : Cursor) : List String → Except Rejection Cursor
  | [] => .ok c
  | segment :: rest =>
    match c.read segment with
    | .ok next => navigateFrom next rest
    | .error r => .error r

/-- Reads the segments of a scope. The first has to be the root. -/
def navigate (g : Grammar) : List String → Except Rejection Cursor
  | [] => .error ⟨"", [], .unknownRoot, false⟩
  | first :: rest =>
    if first = g.root then navigateFrom (.ofGrammar g) rest
    else .error ⟨first, [], .unknownRoot, false⟩

/-- The event of a rejection. -/
def rejectedEvent (tree : String) (r : Rejection) (route : Option String) : Audit.Event :=
  .hierarchyRejected tree r.key r.path r.reason.text route

/-- Reads a scope and tells what to record. -/
def parse (g : Grammar) (s : Scope) : Except Failure Scope × List Audit.Event :=
  match g.navigate s.segments with
  | .error r => (.error (.rejection { r with audited := true }), [rejectedEvent g.root r none])
  | .ok c =>
    match c.toScope with
    | .error e => (.error (.argument e), [])
    | .ok result => (.ok result, [.scopeParsed g.root result.text])

/-- Whether the grammar accepts a scope. -/
def accepts (g : Grammar) (s : Scope) : Bool :=
  (g.parse s).1.isOk

end AccessScopes.Grammar
