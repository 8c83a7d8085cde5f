import Tabular.Assistant
import Tabular.Session
import Tabular.Table.Columnar
import Tabular.Proofs.Outcome
import Tabular.Proofs.Cell.Induction
import Tabular.Proofs.Number.Place
import Tabular.Proofs.Text.Digit
import Tabular.Proofs.Number.Numeral
import Tabular.Proofs.Filter.Position
import Tabular.Proofs.Filter.Rows
import Tabular.Proofs.Rule.Clause
import Tabular.Proofs.Rule.Reading
import Tabular.Proofs.Rule.Comparison
import Tabular.Proofs.Filter.Columns
import Tabular.Proofs.Table.Transpose
import Tabular.Proofs.Table.Removal
import Tabular.Proofs.Filter.Exchange
import Tabular.Proofs.Filter.Alignment
import Tabular.Proofs.Filter.Pooling
import Tabular.Proofs.Filter.Composition
import Tabular.Proofs.Filter.Rearrangement
import Tabular.Proofs.Filter.Unmet
import Tabular.Proofs.TableName
import Tabular.Proofs.TableName.Tidy
import Tabular.Proofs.Store.Coherent
import Tabular.Proofs.Store.Log
import Tabular.Proofs.Operation.Cells
import Tabular.Proofs.Cell.Writable
import Tabular.Proofs.Number.Reading
import Tabular.Proofs.Calendar.Ordinal
import Tabular.Proofs.Calendar.Instant
import Tabular.Proofs.Calendar.Writing
import Tabular.Proofs.Calendar.Universal
import Tabular.Proofs.Calendar.Failure
import Tabular.Proofs.Operation.Writable
import Tabular.Proofs.Operation.Interpretation
import Tabular.Proofs.Refinement.Parsing
import Tabular.Proofs.Refinement.Composition
import Tabular.Proofs.Refinement.Eager
import Tabular.Proofs.Operation.Aborting
import Tabular.Proofs.Session.Run
import Tabular.Proofs.Session.Failure
import Tabular.Proofs.Session.Refining
import Tabular.Proofs.Session.Naming
import Tabular.Proofs.Session.History
import Tabular.Proofs.Operation.Exchange
import Tabular.Proofs.Operation.Saturation
import Tabular.Proofs.Operation.Independence
import Tabular.Proofs.Selector
import Tabular.Proofs.Table.Preview
import Tabular.Proofs.Number.Literal
import Tabular.Proofs.Rule.Written
import Tabular.Proofs.Rule.Verdict
import Tabular.Proofs.Text.Expression
import Tabular.Proofs.Calendar.Matching
import Tabular.Proofs.Calendar.DayText
import Tabular.Proofs.Operation.DayText
import Tabular.Proofs.Cell.Equality
import Tabular.Proofs.Table.Layout
import Tabular.Proofs.Cell.Literal
import Tabular.Proofs.Table.Kinds
