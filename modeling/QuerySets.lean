import QuerySets.CommandLine.Program
import QuerySets.Main
import QuerySets.Proofs.Definition.Transparency
import QuerySets.Proofs.Execution.MaskedResults
import QuerySets.Proofs.Execution.Concealment
import QuerySets.Proofs.Execution.SavedRuns
import QuerySets.Proofs.Execution.SavedKeys
import QuerySets.Proofs.Store.Index
import QuerySets.Proofs.Store.Requests
import QuerySets.Proofs.Store.Memory
import QuerySets.Proofs.Store.Persistent
import QuerySets.Proofs.Store.Agreement
import QuerySets.Proofs.Decimal.Dyadic
import QuerySets.Proofs.Value.Order
import QuerySets.Proofs.Value.Preserved
import QuerySets.Proofs.Time.Calendar
import QuerySets.Proofs.Time.Rfc3339
import QuerySets.Proofs.Decimal.Whole
import QuerySets.Proofs.Store.Restored
import QuerySets.Proofs.Json.Nesting
import QuerySets.Proofs.Store.Enforcement
import QuerySets.Proofs.Store.Identifiers
import QuerySets.Proofs.Store.Readable
import QuerySets.Proofs.Store.Writes
import QuerySets.Proofs.Store.KeptKeys
import QuerySets.Proofs.Execution.Frame
import QuerySets.Proofs.Execution.Explanation
import QuerySets.Proofs.Store.Isolation
import QuerySets.Proofs.Definition.Faithful
import QuerySets.Proofs.Template.Rendering
import QuerySets.Proofs.Sorting
import QuerySets.Proofs.Stage.Sort
import QuerySets.Proofs.Stage.Group
import QuerySets.Proofs.Filter.Candidates
import QuerySets.Proofs.Document.Edits
import QuerySets.Proofs.Stage.Sum
import QuerySets.Proofs.Stage.Unwind
import QuerySets.Proofs.Stage.AddedFields
import QuerySets.Proofs.Stage.Exclusion
import QuerySets.Proofs.Definition.CurrentPatterns
import QuerySets.Proofs.Definition.MaskKeys
import QuerySets.Proofs.Recency
import QuerySets.Proofs.Template.Tokens
import QuerySets.Proofs.Template.Literal
import QuerySets.Proofs.Decimal.Nonnegative
import QuerySets.Proofs.Template.Duration
import QuerySets.Proofs.Execution.Parameters
import QuerySets.Proofs.Filter.Required
import QuerySets.Proofs.Pipeline
import QuerySets.Proofs.Store.IndexNames
import QuerySets.Proofs.Definition.MaskSpelling
