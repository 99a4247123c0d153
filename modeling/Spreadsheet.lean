import Spreadsheet.Calendar.Date
import Spreadsheet.Calendar.Iso
import Spreadsheet.Calendar.Pattern
import Spreadsheet.Cli.Layout
import Spreadsheet.Cli.Line
import Spreadsheet.Cli.Program
import Spreadsheet.Config
import Spreadsheet.Data.Csv
import Spreadsheet.Data.Disk
import Spreadsheet.Data.Json
import Spreadsheet.Data.Order
import Spreadsheet.Data.Path
import Spreadsheet.Eval.Fault
import Spreadsheet.Eval.Operators
import Spreadsheet.Formula.Expr
import Spreadsheet.Formula.Parse
import Spreadsheet.Formula.References
import Spreadsheet.Formula.Token
import Spreadsheet.Functions.Catalog
import Spreadsheet.Functions.Criteria
import Spreadsheet.Functions.Dates
import Spreadsheet.Functions.Info
import Spreadsheet.Functions.Logic
import Spreadsheet.Functions.Lookup
import Spreadsheet.Functions.Math
import Spreadsheet.Functions.Statistics
import Spreadsheet.Functions.Text
import Spreadsheet.Log.Event
import Spreadsheet.Log.Redact
import Spreadsheet.Log.Sink
import Spreadsheet.Main
import Spreadsheet.Number.Binary
import Spreadsheet.Number.Elementary
import Spreadsheet.Number.Literal
import Spreadsheet.Number.Num
import Spreadsheet.Number.Quantize
import Spreadsheet.Number.Sample
import Spreadsheet.Number.Shortest
import Spreadsheet.Number.Text
import Spreadsheet.Ref
import Spreadsheet.Sheet.Display
import Spreadsheet.Sheet.Evaluate
import Spreadsheet.Sheet.File
import Spreadsheet.Sheet.Recalc
import Spreadsheet.Sheet.Resolve
import Spreadsheet.Sheet.Store
import Spreadsheet.Text.Blank
import Spreadsheet.Text.Case
import Spreadsheet.Text.CaseTable
import Spreadsheet.Text.Digit
import Spreadsheet.Text.Lines
import Spreadsheet.Text.PrintableTable
import Spreadsheet.Text.Quote
import Spreadsheet.Text.Similar
import Spreadsheet.Text.Table
import Spreadsheet.Value.Basic
import Spreadsheet.Value.Coerce
import Spreadsheet.Value.Error
import Spreadsheet.Yaml.Cursor
import Spreadsheet.Yaml.Event
import Spreadsheet.Yaml.Load
import Spreadsheet.Yaml.Mark
import Spreadsheet.Yaml.Node
import Spreadsheet.Yaml.Property
import Spreadsheet.Yaml.Resolve
import Spreadsheet.Yaml.Scalar
import Spreadsheet.Yaml.Scanner
import Spreadsheet.Yaml.Token
import Spreadsheet.Proofs.Runs
import Spreadsheet.Proofs.PlainResolution
import Spreadsheet.Proofs.Simulation
import Spreadsheet.Proofs.Resolution
import Spreadsheet.Proofs.Keys
import Spreadsheet.Proofs.Columns
import Spreadsheet.Proofs.Rectangles
import Spreadsheet.Proofs.Postorder
import Spreadsheet.Proofs.RememberedReads
import Spreadsheet.Proofs.References
import Spreadsheet.Proofs.Dependencies
import Spreadsheet.Proofs.Agreement
import Spreadsheet.Proofs.Passes
import Spreadsheet.Proofs.Builtins
import Spreadsheet.Proofs.Scalars
import Spreadsheet.Proofs.Recalculation
import Spreadsheet.Proofs.RangeArguments
import Spreadsheet.Proofs.OneCellRanges
import Spreadsheet.Proofs.Reads
import Spreadsheet.Proofs.Frame
import Spreadsheet.Proofs.Stack
import Spreadsheet.Proofs.Settling
import Spreadsheet.Proofs.StringLiterals
import Spreadsheet.Proofs.Descent
import Spreadsheet.Proofs.DoubleBits
import Spreadsheet.Proofs.BinaryRounding
import Spreadsheet.Proofs.ShortestDecimal
import Spreadsheet.Proofs.HalfAwayRounding
import Spreadsheet.Proofs.Criteria
import Spreadsheet.Proofs.NumberText
import Spreadsheet.Proofs.NumericCriteria
import Spreadsheet.Proofs.Ordinals
import Spreadsheet.Proofs.DayFirstText
import Spreadsheet.Proofs.DateFunctions
import Spreadsheet.Proofs.Redaction
import Spreadsheet.Proofs.NumberOrder
import Spreadsheet.Proofs.ApproximateMatch
import Spreadsheet.Proofs.EventLog
import Spreadsheet.Proofs.PrintedText
import Spreadsheet.Proofs.JsonText
import Spreadsheet.Proofs.JsonDocument
import Spreadsheet.Proofs.LogWindow
import Spreadsheet.Proofs.NumericReaders
import Spreadsheet.Proofs.LexemeSpans
import Spreadsheet.Proofs.ReadBack
