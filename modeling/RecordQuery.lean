import RecordQuery.Main
import RecordQuery.Session
import RecordQuery.Proofs.Folding
import RecordQuery.Proofs.Builder.Step
import RecordQuery.Proofs.Builder.Derivation
import RecordQuery.Proofs.Builder.Brackets
import RecordQuery.Proofs.Builder.Invariant
import RecordQuery.Proofs.Builder.Soundness
import RecordQuery.Proofs.Builder.Enclosed
import RecordQuery.Proofs.Evaluation.Errors
import RecordQuery.Proofs.Decimal.Clear
import RecordQuery.Proofs.Decimal.Double
import RecordQuery.Proofs.Decimal.Mixed
import RecordQuery.Proofs.ValueOrder
import RecordQuery.Proofs.Lexing.Reading
import RecordQuery.Proofs.Lexing.Standard
import RecordQuery.Proofs.Decimal.Numeral
import RecordQuery.Proofs.Lexing.RoundTrip
import RecordQuery.Proofs.Lexing.Numbering
import RecordQuery.Proofs.Evaluation.Parameters
import RecordQuery.Proofs.Evaluation.Patterns
import RecordQuery.Proofs.Sorting
import RecordQuery.Proofs.Batch
import RecordQuery.Proofs.Evaluation.KeptPatterns
import RecordQuery.Proofs.Lexing.Segments
import RecordQuery.Proofs.Builder.Outline
import RecordQuery.Proofs.Compilation
import RecordQuery.Proofs.Builder.Language
import RecordQuery.Proofs.Builder.Diagnostics
import RecordQuery.Proofs.Lexing.Concatenation
import RecordQuery.Proofs.Evaluation.Safety
import RecordQuery.Proofs.Evaluation.Relevance
import RecordQuery.Proofs.Indexing
import RecordQuery.Proofs.Checking
import RecordQuery.Proofs.RecordOrder
import RecordQuery.Proofs.Rearrangement
import RecordQuery.Proofs.Lexing.Extension
import RecordQuery.Proofs.Decimal.Rounding
import RecordQuery.Proofs.MixedOrder
import RecordQuery.Proofs.ValueEquality
import RecordQuery.Proofs.Evaluation.Comparisons
import RecordQuery.Proofs.Keys
import RecordQuery.Proofs.Lexing.Composition
import RecordQuery.Proofs.Builder.Literals
import RecordQuery.Proofs.Evaluation.Connectives
import RecordQuery.Proofs.Evaluation.Membership
import RecordQuery.Proofs.KeySorting
import RecordQuery.Proofs.OrderClauses
import RecordQuery.Proofs.Lexing.Counting
import RecordQuery.Proofs.Lexing.Registration
import RecordQuery.Proofs.Lexing.Numbers
import RecordQuery.Proofs.Conversion
import RecordQuery.Proofs.Printing
import RecordQuery.Proofs.Inertness
import RecordQuery.Proofs.Traversal
import RecordQuery.Proofs.RecordReading
import RecordQuery.Proofs.Builder.Places
