import ReportSegments.Action.Popover
import ReportSegments.Action.RowAction
import ReportSegments.Config.Basic
import ReportSegments.Config.Reader
import ReportSegments.Display.Layout
import ReportSegments.Display.Recompose
import ReportSegments.Display.Tree
import ReportSegments.Expression.Clause
import ReportSegments.Expression.Condition
import ReportSegments.Expression.Describe
import ReportSegments.Expression.Operator
import ReportSegments.Json.Basic
import ReportSegments.Json.Dialect
import ReportSegments.Json.Parser
import ReportSegments.Json.Printer
import ReportSegments.Json.Relaxed
import ReportSegments.Json.Strict
import ReportSegments.Main
import ReportSegments.Number.Basic
import ReportSegments.Number.Binary64
import ReportSegments.Number.Literal
import ReportSegments.Number.Shortest
import ReportSegments.Pass.Basic
import ReportSegments.Pass.Pipeline
import ReportSegments.Program.Arguments
import ReportSegments.Program.Host
import ReportSegments.Program.Invocation
import ReportSegments.Program.Recomposed
import ReportSegments.Program.Run
import ReportSegments.Program.Settings
import ReportSegments.Program.Source
import ReportSegments.Program.VisitsLink
import ReportSegments.Proofs.Action.Parameter
import ReportSegments.Proofs.Action.Popover
import ReportSegments.Proofs.Action.RowAction
import ReportSegments.Proofs.Config.FirstEntry
import ReportSegments.Proofs.Config.Names
import ReportSegments.Proofs.Display.Above
import ReportSegments.Proofs.Display.Ascent
import ReportSegments.Proofs.Display.Build
import ReportSegments.Proofs.Display.Growth
import ReportSegments.Proofs.Display.Hierarchy
import ReportSegments.Proofs.Display.Layout
import ReportSegments.Proofs.Display.Links
import ReportSegments.Proofs.Display.NestedFlat
import ReportSegments.Proofs.Display.Reads
import ReportSegments.Proofs.Display.Shows
import ReportSegments.Proofs.Display.Untruncated
import ReportSegments.Proofs.Expression.Clause
import ReportSegments.Proofs.Expression.Condition
import ReportSegments.Proofs.Expression.Describe
import ReportSegments.Proofs.Expression.Escape
import ReportSegments.Proofs.Expression.Grammar
import ReportSegments.Proofs.Expression.Operator
import ReportSegments.Proofs.Expression.RoundTrip
import ReportSegments.Proofs.Expression.Unescape
import ReportSegments.Proofs.Json.Accepted
import ReportSegments.Proofs.Json.Fields
import ReportSegments.Proofs.Json.Integer
import ReportSegments.Proofs.Json.Parse
import ReportSegments.Proofs.Json.Pretty
import ReportSegments.Proofs.Json.Quoted
import ReportSegments.Proofs.Json.Revised
import ReportSegments.Proofs.Json.RoundTrip
import ReportSegments.Proofs.Json.Scan
import ReportSegments.Proofs.Json.Written
import ReportSegments.Proofs.Pass.Counted
import ReportSegments.Proofs.Pass.Distinct
import ReportSegments.Proofs.Pass.FirstWriter
import ReportSegments.Proofs.Pass.Frame
import ReportSegments.Proofs.Pass.Idempotent
import ReportSegments.Proofs.Pass.Interleaved
import ReportSegments.Proofs.Pass.Misconfigured
import ReportSegments.Proofs.Pass.Recovered
import ReportSegments.Proofs.Pass.Reports
import ReportSegments.Proofs.Pass.Rowwise
import ReportSegments.Proofs.Pass.Source
import ReportSegments.Proofs.Program.Answerable
import ReportSegments.Proofs.Program.FileSystem
import ReportSegments.Proofs.Program.Run
import ReportSegments.Proofs.Program.Source
import ReportSegments.Proofs.Program.VisitsLink
import ReportSegments.Proofs.Raw.OfJson
import ReportSegments.Proofs.Raw.Record
import ReportSegments.Proofs.Render.Annotated
import ReportSegments.Proofs.Render.Conditions
import ReportSegments.Proofs.Report.Addresses
import ReportSegments.Proofs.Report.Annotate
import ReportSegments.Proofs.Report.Bare
import ReportSegments.Proofs.Report.Marking
import ReportSegments.Proofs.Report.Openings
import ReportSegments.Proofs.Report.Outline
import ReportSegments.Proofs.Report.Path
import ReportSegments.Proofs.Report.PathText
import ReportSegments.Proofs.Report.Reached
import ReportSegments.Proofs.Report.ReadPath
import ReportSegments.Proofs.Report.RoundTrip
import ReportSegments.Proofs.Report.Visitor
import ReportSegments.Proofs.Report.Walk
import ReportSegments.Proofs.Report.WalkedRows
import ReportSegments.Proofs.Report.Written
import ReportSegments.Proofs.Segment.Registry
import ReportSegments.Proofs.Text.Blank
import ReportSegments.Proofs.Text.Cut
import ReportSegments.Proofs.Text.Encode
import ReportSegments.Proofs.Text.Joined
import ReportSegments.Proofs.Text.Percent
import ReportSegments.Proofs.Text.Pieces
import ReportSegments.Raw.Basic
import ReportSegments.Raw.Record
import ReportSegments.Render.Annotated
import ReportSegments.Render.Conditions
import ReportSegments.Render.Grid
import ReportSegments.Render.Style
import ReportSegments.Report.Document
import ReportSegments.Report.Path
import ReportSegments.Report.Reader
import ReportSegments.Report.Table
import ReportSegments.Report.Walk
import ReportSegments.Report.Writer
import ReportSegments.Segment.Dimension
import ReportSegments.Segment.Registry
import ReportSegments.Segment.ValueTable
import ReportSegments.Text.Blank
import ReportSegments.Text.CodeUnit
import ReportSegments.Text.Columns
import ReportSegments.Text.Hex
import ReportSegments.Text.Joining
import ReportSegments.Text.Letter
import ReportSegments.Text.Percent
import ReportSegments.Text.Pieces
import ReportSegments.Text.Ranges
import ReportSegments.Text.WidthRanges
import ReportSegments.Toml.Parser
import ReportSegments.Toml.Quoted
import ReportSegments.Toml.Scalar
import ReportSegments.Toml.Tree
