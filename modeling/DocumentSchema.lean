import DocumentSchema.Proofs.Json.DistinctKeys
import DocumentSchema.Cell.Session
import DocumentSchema.Extraction
import DocumentSchema.Json.View
import DocumentSchema.Main
import DocumentSchema.Proofs.Validation.Outcome
import DocumentSchema.Proofs.Validation.Modes
import DocumentSchema.Proofs.Validation.Positions
import DocumentSchema.Proofs.Validation.Order
import DocumentSchema.Proofs.Blueprint.Resolution
import DocumentSchema.Proofs.Validation.Report
import DocumentSchema.Proofs.Validation.Conformance
import DocumentSchema.Proofs.Validation.Acceptance
import DocumentSchema.Proofs.Schema.Reachable
import DocumentSchema.Proofs.Blueprint.Words
import DocumentSchema.Proofs.Schema.JsonSchema
import DocumentSchema.Proofs.Json.Pointer
import DocumentSchema.Proofs.Validation.Idempotence
import DocumentSchema.Proofs.Schema.Coherence
import DocumentSchema.Proofs.Blueprint.Acceptance
import DocumentSchema.Proofs.Blueprint.Places
import DocumentSchema.Proofs.Schema.Correspondence
import DocumentSchema.Proofs.Blueprint.Independence
import DocumentSchema.Proofs.Schema.Openness
import DocumentSchema.Proofs.Blueprint.Openness
import DocumentSchema.Proofs.Blueprint.Grammar
import DocumentSchema.Proofs.Blueprint.Parsing
import DocumentSchema.Proofs.Blueprint.Derivation
import DocumentSchema.Proofs.Blueprint.Recognition
import DocumentSchema.Proofs.Blueprint.Characters
import DocumentSchema.Proofs.Blueprint.Layout
import DocumentSchema.Proofs.Blueprint.Lexing
import DocumentSchema.Proofs.Blueprint.Displacement
import DocumentSchema.Proofs.Blueprint.Spelling
import DocumentSchema.Proofs.Blueprint.Anchors
import DocumentSchema.Proofs.Blueprint.Positions
import DocumentSchema.Proofs.Blueprint.Blame
import DocumentSchema.Proofs.Json.NumberOrder
import DocumentSchema.Proofs.Validation.Replacement
import DocumentSchema.Proofs.Validation.Defaults
import DocumentSchema.Proofs.Validation.Discipline
import DocumentSchema.Proofs.Validation.Presentation
import DocumentSchema.Proofs.Cell.History
import DocumentSchema.Proofs.Validation.Path
import DocumentSchema.Proofs.Validation.SingleFault
import DocumentSchema.Proofs.Schema.Search
import DocumentSchema.Proofs.Schema.References
import DocumentSchema.Proofs.Schema.Simulation
import DocumentSchema.Proofs.Blueprint.Unfolding
import DocumentSchema.Proofs.Json.WholeNumber
import DocumentSchema.Proofs.Blueprint.Literals
import DocumentSchema.Proofs.Schema.Bounds
import DocumentSchema.Proofs.CommandLine.Verdicts
import DocumentSchema.Proofs.CommandLine.Explanation
import DocumentSchema.Proofs.Extraction.Integers
import DocumentSchema.Proofs.Text.Utf8
import DocumentSchema.Proofs.Text.Split
import DocumentSchema.Proofs.CommandLine.Loading
import DocumentSchema.Proofs.CommandLine.Batch
import DocumentSchema.Proofs.Blueprint.Exchange
import DocumentSchema.Proofs.Blueprint.Slots
import DocumentSchema.Proofs.Schema.Restating
import DocumentSchema.Proofs.Blueprint.Scanning
import DocumentSchema.Proofs.Json.Midpoints
import DocumentSchema.Proofs.Json.Shortest
import DocumentSchema.Proofs.Blueprint.Printing
import DocumentSchema.Proofs.Schema.TypeText
import DocumentSchema.Proofs.Schema.ReadingBack
