import BuildDiagnostics.CommandLine
import BuildDiagnostics.Decimal.Shortest
import BuildDiagnostics.Diagnosis
import BuildDiagnostics.Diagnostic
import BuildDiagnostics.DiagnosticSet
import BuildDiagnostics.Fault
import BuildDiagnostics.Fault.ErrorText
import BuildDiagnostics.Fault.LoadError
import BuildDiagnostics.Fault.OneLine
import BuildDiagnostics.Fault.Traceback
import BuildDiagnostics.Files
import BuildDiagnostics.Files.Tree
import BuildDiagnostics.Format
import BuildDiagnostics.Json.Expect
import BuildDiagnostics.Json.Literal
import BuildDiagnostics.Json.Number
import BuildDiagnostics.Json.Problem
import BuildDiagnostics.Json.Skip
import BuildDiagnostics.Json.Value
import BuildDiagnostics.Location
import BuildDiagnostics.Location.Token
import BuildDiagnostics.Log
import BuildDiagnostics.Log.Filter
import BuildDiagnostics.Main
import BuildDiagnostics.OrderedMap
import BuildDiagnostics.Ordinal
import BuildDiagnostics.Pattern
import BuildDiagnostics.Pattern.Bracket
import BuildDiagnostics.Pattern.CharClass
import BuildDiagnostics.Pattern.Count
import BuildDiagnostics.Pattern.Escape
import BuildDiagnostics.Pattern.Flags
import BuildDiagnostics.Pattern.Group
import BuildDiagnostics.Pattern.Problem
import BuildDiagnostics.Pattern.Read
import BuildDiagnostics.Pattern.Room
import BuildDiagnostics.Position
import BuildDiagnostics.Report.Human
import BuildDiagnostics.Report.Json
import BuildDiagnostics.Report.Stream
import BuildDiagnostics.Run
import BuildDiagnostics.Session
import BuildDiagnostics.Session.Document
import BuildDiagnostics.Session.Stream
import BuildDiagnostics.Settings
import BuildDiagnostics.Settings.Decode
import BuildDiagnostics.Settings.Discovery
import BuildDiagnostics.Severity
import BuildDiagnostics.Severity.Decode
import BuildDiagnostics.Sink
import BuildDiagnostics.Source.Excerpt
import BuildDiagnostics.Source.Place
import BuildDiagnostics.Source.Snippet
import BuildDiagnostics.Text.Blank
import BuildDiagnostics.Text.CodePoint
import BuildDiagnostics.Text.Lines
import BuildDiagnostics.Text.Names
import BuildDiagnostics.Text.Properties
import BuildDiagnostics.Text.Quoted
import BuildDiagnostics.Text.Token
import BuildDiagnostics.Text.Utf8
import BuildDiagnostics.Text.Width
import BuildDiagnostics.Toml.Document
import BuildDiagnostics.Toml.Scalar
import BuildDiagnostics.Toml.Text
import BuildDiagnostics.Toml.Value
import BuildDiagnostics.Tool
import BuildDiagnostics.ToolError
import BuildDiagnostics.Proofs.Text.Pieces
import BuildDiagnostics.Proofs.Fault.Traceback
import BuildDiagnostics.Proofs.Fault.OneLine
import BuildDiagnostics.Proofs.Fault.Frame
import BuildDiagnostics.Proofs.Fault.LoadError
import BuildDiagnostics.Proofs.Session.History
import BuildDiagnostics.Proofs.Json.Escape
import BuildDiagnostics.Proofs.Session.Document
import BuildDiagnostics.Proofs.Report.Modes
import BuildDiagnostics.Proofs.Fault.RoundTrip
import BuildDiagnostics.Proofs.Text.Lines
import BuildDiagnostics.Proofs.Session.Stream
import BuildDiagnostics.Proofs.Json.Numeral
import BuildDiagnostics.Proofs.Json.Unique
import BuildDiagnostics.Proofs.Json.Expect
import BuildDiagnostics.Proofs.Session.Forms
import BuildDiagnostics.Proofs.Json.Written
import BuildDiagnostics.Proofs.Report.Json
import BuildDiagnostics.Proofs.Json.Skip
import BuildDiagnostics.Proofs.Json.Detach
import BuildDiagnostics.Proofs.Session.Object
import BuildDiagnostics.Proofs.Session.Delivery
import BuildDiagnostics.Proofs.Session.Refusal
import BuildDiagnostics.Proofs.Session.Journal
import BuildDiagnostics.Proofs.Report.Limit
import BuildDiagnostics.Proofs.Tool.Status
import BuildDiagnostics.Proofs.Fault.Slices
import BuildDiagnostics.Proofs.DiagnosticSet.Order
import BuildDiagnostics.Proofs.DiagnosticSet.Sound
import BuildDiagnostics.Proofs.Source.Place
import BuildDiagnostics.Proofs.Source.Snippet
import BuildDiagnostics.Proofs.Session.Reachable
import BuildDiagnostics.Proofs.Toml.Keys
import BuildDiagnostics.Proofs.Settings.Fields
import BuildDiagnostics.Proofs.Settings.Sections
import BuildDiagnostics.Proofs.Settings.Independence
import BuildDiagnostics.Proofs.Settings.Discovery
