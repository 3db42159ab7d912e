import TableLoad.Batch.Bytes
import TableLoad.Batch.Conforms
import TableLoad.Batch.Decode
import TableLoad.Batch.Encode
import TableLoad.Batch.Error
import TableLoad.Batch.Reader
import TableLoad.Batch.Writer
import TableLoad.Calendar.Clock
import TableLoad.Calendar.Date
import TableLoad.Calendar.Pattern
import TableLoad.Calendar.Text
import TableLoad.CommandLine.Arguments
import TableLoad.CommandLine.Command
import TableLoad.CommandLine.Help
import TableLoad.CommandLine.Outcome
import TableLoad.Conversion.Coercion
import TableLoad.Conversion.Convert
import TableLoad.Conversion.Converter
import TableLoad.Conversion.Error
import TableLoad.Conversion.Verify
import TableLoad.DataType.Basic
import TableLoad.DataType.Join
import TableLoad.DataType.Text
import TableLoad.Engine.Failure
import TableLoad.Engine.Request
import TableLoad.Engine.State
import TableLoad.Frame.Cell
import TableLoad.Frame.ColumnType
import TableLoad.Frame.Mapping
import TableLoad.Inference
import TableLoad.Inspection
import TableLoad.Json.Basic
import TableLoad.Json.Read
import TableLoad.Json.Render
import TableLoad.Load
import TableLoad.Main
import TableLoad.Number.Binary
import TableLoad.Number.Rounding
import TableLoad.Number.Shortest
import TableLoad.Number.Stepwise
import TableLoad.Path.Basic
import TableLoad.Path.Identifier
import TableLoad.Proofs.Batch.Aborted
import TableLoad.Proofs.Batch.Consumption
import TableLoad.Proofs.Batch.Frames
import TableLoad.Proofs.Batch.Limits
import TableLoad.Proofs.Batch.LongHeaders
import TableLoad.Proofs.Batch.Misfits
import TableLoad.Proofs.Batch.Nesting
import TableLoad.Proofs.Batch.Opening
import TableLoad.Proofs.Batch.PrefixFree
import TableLoad.Proofs.Batch.Reading
import TableLoad.Proofs.Batch.Rewriting
import TableLoad.Proofs.Batch.RoundTrip
import TableLoad.Proofs.Batch.Values
import TableLoad.Proofs.Batch.Whole
import TableLoad.Proofs.Batch.Writing
import TableLoad.Proofs.Calendar.Clock
import TableLoad.Proofs.Calendar.Days
import TableLoad.Proofs.Calendar.Reading
import TableLoad.Proofs.Conversion.Agreement
import TableLoad.Proofs.Conversion.Collections
import TableLoad.Proofs.Conversion.Fitting
import TableLoad.Proofs.Conversion.FixedPoints
import TableLoad.Proofs.Conversion.Joining
import TableLoad.Proofs.Conversion.Numbers
import TableLoad.Proofs.Conversion.Plain
import TableLoad.Proofs.Conversion.Reports
import TableLoad.Proofs.Conversion.Shapes
import TableLoad.Proofs.Conversion.Unchanged
import TableLoad.Proofs.DataType.Names
import TableLoad.Proofs.DataType.Semilattice
import TableLoad.Proofs.DataType.Widening
import TableLoad.Proofs.Engine.Consistency
import TableLoad.Proofs.Engine.Effects
import TableLoad.Proofs.Engine.Listings
import TableLoad.Proofs.Engine.Locality
import TableLoad.Proofs.Engine.Tables
import TableLoad.Proofs.Frame.Mapped
import TableLoad.Proofs.Frame.Reading
import TableLoad.Proofs.Frame.Rows
import TableLoad.Proofs.Inference.Alike
import TableLoad.Proofs.Inference.Mismatches
import TableLoad.Proofs.Inference.Order
import TableLoad.Proofs.Inference.Renaming
import TableLoad.Proofs.Inference.Soundness
import TableLoad.Proofs.Inference.Values
import TableLoad.Proofs.Json.Blanks
import TableLoad.Proofs.Json.Documents
import TableLoad.Proofs.Json.Strings
import TableLoad.Proofs.Json.Weights
import TableLoad.Proofs.Load.Output
import TableLoad.Proofs.Load.Retries
import TableLoad.Proofs.Load.Stages
import TableLoad.Proofs.Lookup
import TableLoad.Proofs.Outcome
import TableLoad.Proofs.Path.Grammar
import TableLoad.Proofs.Path.Rendering
import TableLoad.Proofs.Schema.Depth
import TableLoad.Proofs.Schema.Header
import TableLoad.Proofs.Schema.Resolved
import TableLoad.Proofs.Schema.Spellings
import TableLoad.Proofs.Session.FailedLoads
import TableLoad.Proofs.Session.Frames
import TableLoad.Proofs.Session.Loading
import TableLoad.Proofs.Session.Names
import TableLoad.Proofs.Session.Outcomes
import TableLoad.Proofs.Session.Resolving
import TableLoad.Proofs.Session.Running
import TableLoad.Proofs.Session.Sharing
import TableLoad.Proofs.Session.Views
import TableLoad.Proofs.Source.Delimited
import TableLoad.Proofs.Source.JsonLines
import TableLoad.Proofs.Source.Scalars
import TableLoad.Proofs.Text.Digits
import TableLoad.Proofs.Text.Trimming
import TableLoad.Proofs.Value.Decimal
import TableLoad.Proofs.Value.Numerals
import TableLoad.Proofs.Value.Rescaling
import TableLoad.Schema.Basic
import TableLoad.Schema.Header
import TableLoad.Session.Basic
import TableLoad.Session.Catalog
import TableLoad.Session.Dialogue
import TableLoad.Session.Elements
import TableLoad.Source.Delimited
import TableLoad.Source.File
import TableLoad.Source.Format
import TableLoad.Source.JsonLines
import TableLoad.Source.Scalar
import TableLoad.Storage.Folder
import TableLoad.Storage.Place
import TableLoad.Storage.Scratch
import TableLoad.Text.Digits
import TableLoad.Text.Hex
import TableLoad.Text.Quoted
import TableLoad.Text.Split
import TableLoad.Text.Utf8
import TableLoad.Unicode.Alphanumeric
import TableLoad.Unicode.Printable
import TableLoad.Unicode.Ranges
import TableLoad.Unicode.WhiteSpace
import TableLoad.Value.Basic
import TableLoad.Value.Decimal
import TableLoad.Value.Text
