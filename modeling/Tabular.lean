import Tabular.Main
import Tabular.Declaration.Content
import Tabular.Declaration.Read
import Tabular.Proofs.View.Consistent
import Tabular.Proofs.View.Groups
import Tabular.Proofs.Order.Positions
import Tabular.Proofs.Page.Headers
import Tabular.Proofs.Document.Wire
import Tabular.Proofs.View.Saved
import Tabular.Proofs.Filter.Expression
import Tabular.Proofs.Binary64.Reading
import Tabular.Proofs.Filter.Range
import Tabular.Proofs.Group.Fold
import Tabular.Proofs.View.Toggle
import Tabular.Proofs.Binary64.Interval
import Tabular.Proofs.Binary64.Shortest
import Tabular.Proofs.Binary64.Display
import Tabular.Proofs.Instant.Calendar
import Tabular.Proofs.Instant.Label
import Tabular.Proofs.Group.Label
import Tabular.Proofs.View.Filtered
import Tabular.Proofs.Program.Options
import Tabular.Proofs.Binary64.Integer
import Tabular.Proofs.Order.Precision
import Tabular.Proofs.Csv
import Tabular.Proofs.Program.Export
import Tabular.Proofs.Declaration.Constant
import Tabular.Proofs.Declaration.Content
import Tabular.Proofs.Declaration.Fields
import Tabular.Proofs.Declaration.Schema
import Tabular.Proofs.Filter.Literal
import Tabular.Proofs.Filter.Ordered
import Tabular.Proofs.Filter.Reading
import Tabular.Proofs.Filter.Interval
import Tabular.Proofs.Text.Split
import Tabular.Proofs.Filter.Collection
import Tabular.Proofs.Group.Shown
import Tabular.Proofs.Order.Click
import Tabular.Proofs.Group.Order
import Tabular.Proofs.Page.Words
import Tabular.Proofs.View.Typed
import Tabular.Proofs.Group.Outermost
import Tabular.Proofs.View.Collapse
import Tabular.Proofs.Record.Inference
import Tabular.Proofs.Instant.Spelling
import Tabular.Proofs.Instant.ReadBack
import Tabular.Proofs.Record.Dates
import Tabular.Proofs.Program.Argument
import Tabular.Proofs.Text.Width
import Tabular.Proofs.Table.Lines
import Tabular.Proofs.Binary64.Nearest
import Tabular.Proofs.Table.Amount
import Tabular.Proofs.Table.Narrowing
import Tabular.Proofs.Group.Collection
import Tabular.Proofs.Instant.Day
