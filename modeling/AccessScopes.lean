import AccessScopes.Description.Validation
import AccessScopes.Response
import AccessScopes.Value.Comparison
import AccessScopes.Proofs.Guard.Decision
import AccessScopes.Proofs.Scope.Coverage
import AccessScopes.Proofs.Grammar.WellFormed
import AccessScopes.Proofs.Cursor.Move
import AccessScopes.Proofs.Grammar.RoundTrip
import AccessScopes.Proofs.Grammar.Reading
import AccessScopes.Proofs.Grammar.Reparsing
import AccessScopes.Proofs.Grammar.Places
import AccessScopes.Proofs.Cursor.Routing
import AccessScopes.Proofs.Grammar.Literal
import AccessScopes.Proofs.Grammar.Rejection
import AccessScopes.Proofs.Cursor.Narrowing
import AccessScopes.Proofs.Grammar.Declaring
import AccessScopes.Proofs.Grammar.Sealing
import AccessScopes.Proofs.Grammar.Constraint
import AccessScopes.Proofs.Cursor.Constraint
import AccessScopes.Proofs.Description.Checks
import AccessScopes.Proofs.Description.Describable
import AccessScopes.Proofs.Description.Rebuilding
import AccessScopes.Proofs.Description.Validity
import AccessScopes.Proofs.Grammar.WireFormat
import AccessScopes.Proofs.ScopeSet.StrictCoverage
import AccessScopes.Proofs.Guard.Relevance
import AccessScopes.Proofs.Guard.Unaliased
import AccessScopes.Proofs.ScopeSet.Resolution
import AccessScopes.Proofs.Audit.Rejections
import AccessScopes.Proofs.Audit.Cleanliness
import AccessScopes.Proofs.Description.AliasTables
import AccessScopes.Proofs.Sequence.Concatenation
import AccessScopes.Proofs.ScopeSet.Merging
import AccessScopes.Proofs.Value.Leaves
import AccessScopes.Proofs.ScopeSet.Subsumption
import AccessScopes.Proofs.ScopeSet.NormalForm
import AccessScopes.Proofs.ScopeSet.TopMember
import AccessScopes.Proofs.Value.Forms
import AccessScopes.Proofs.AliasTable.Translation
import AccessScopes.Proofs.Scope.Substitution
import AccessScopes.Proofs.ScopeSet.Substitution
import AccessScopes.Proofs.Value.Segments
import AccessScopes.Proofs.Cursor.Conjunction
import AccessScopes.Proofs.Grammar.Arrangement
import AccessScopes.Proofs.Grammar.PathDeclarations
