import ProseCheck.Backend
import ProseCheck.Checker.Basic
import ProseCheck.Checker.Cache
import ProseCheck.Checker.Config
import ProseCheck.Checker.Task
import ProseCheck.Checker.Worker
import ProseCheck.Cli.Arguments
import ProseCheck.Cli.Command
import ProseCheck.Cli.Run
import ProseCheck.Decimal.Shortest
import ProseCheck.Dictionary.Basic
import ProseCheck.Dictionary.Record
import ProseCheck.Error
import ProseCheck.Files.Basic
import ProseCheck.Files.Tree
import ProseCheck.Finding.Basic
import ProseCheck.Finding.Classification
import ProseCheck.Finding.Placement
import ProseCheck.Finding.Problem
import ProseCheck.Finding.Record
import ProseCheck.Grazie.Adapter
import ProseCheck.Grazie.Answer
import ProseCheck.Json.Basic
import ProseCheck.Json.Numeral
import ProseCheck.Json.Printer
import ProseCheck.Json.Reader
import ProseCheck.Json.Record
import ProseCheck.Json.Source
import ProseCheck.Json.Token
import ProseCheck.Language
import ProseCheck.LanguageTool.Adapter
import ProseCheck.LanguageTool.Answer
import ProseCheck.Main
import ProseCheck.Markdown.Backtick
import ProseCheck.Markdown.CodeRegion
import ProseCheck.Markdown.Html
import ProseCheck.Markdown.Link
import ProseCheck.Markdown.PositionMap
import ProseCheck.Markdown.Stripped
import ProseCheck.Net.Exchange
import ProseCheck.Net.Host
import ProseCheck.Net.Percent
import ProseCheck.Net.Url
import ProseCheck.Preferences.Basic
import ProseCheck.Preferences.Record
import ProseCheck.Proofs.Backend
import ProseCheck.Proofs.Checker.Bounds
import ProseCheck.Proofs.Checker.Cache
import ProseCheck.Proofs.Checker.Call
import ProseCheck.Proofs.Checker.Interleaving
import ProseCheck.Proofs.Checker.Pool
import ProseCheck.Proofs.Checker.Progress
import ProseCheck.Proofs.Checker.Result
import ProseCheck.Proofs.Checker.Run
import ProseCheck.Proofs.Checker.Schedule
import ProseCheck.Proofs.Checker.Sending
import ProseCheck.Proofs.Checker.Shift
import ProseCheck.Proofs.Checker.Simulation
import ProseCheck.Proofs.Checker.Task
import ProseCheck.Proofs.Checker.Worker
import ProseCheck.Proofs.Cli.Run
import ProseCheck.Proofs.Dictionary.Record
import ProseCheck.Proofs.Dictionary.ScopedWords
import ProseCheck.Proofs.Files.Tree
import ProseCheck.Proofs.Finding.Checked
import ProseCheck.Proofs.Finding.Fidelity
import ProseCheck.Proofs.Finding.Made
import ProseCheck.Proofs.Finding.Overflow
import ProseCheck.Proofs.Finding.Placement
import ProseCheck.Proofs.Finding.Prose
import ProseCheck.Proofs.Finding.Replacement
import ProseCheck.Proofs.Finding.Selection
import ProseCheck.Proofs.Finding.Sort
import ProseCheck.Proofs.Finding.Translation
import ProseCheck.Proofs.Grazie.Acceptance
import ProseCheck.Proofs.Grazie.Adapter
import ProseCheck.Proofs.Grazie.Answer
import ProseCheck.Proofs.Grazie.Change
import ProseCheck.Proofs.Grazie.Echo
import ProseCheck.Proofs.Grazie.Fix
import ProseCheck.Proofs.Json.Field
import ProseCheck.Proofs.Json.Printed
import ProseCheck.Proofs.Json.Record
import ProseCheck.Proofs.Json.Token
import ProseCheck.Proofs.LanguageTool.Adapter
import ProseCheck.Proofs.LanguageTool.Answer
import ProseCheck.Proofs.LanguageTool.Boundary
import ProseCheck.Proofs.Markdown.Agreement
import ProseCheck.Proofs.Markdown.Backtick
import ProseCheck.Proofs.Markdown.Code
import ProseCheck.Proofs.Markdown.CodeRegion
import ProseCheck.Proofs.Markdown.CodeSpan
import ProseCheck.Proofs.Markdown.Construct
import ProseCheck.Proofs.Markdown.Link
import ProseCheck.Proofs.Markdown.LinkEnd
import ProseCheck.Proofs.Markdown.LinkGrammar
import ProseCheck.Proofs.Markdown.Lookahead
import ProseCheck.Proofs.Markdown.Paragraph
import ProseCheck.Proofs.Markdown.Piece
import ProseCheck.Proofs.Markdown.PositionMap
import ProseCheck.Proofs.Markdown.Region
import ProseCheck.Proofs.Markdown.Rendering
import ProseCheck.Proofs.Markdown.Strip
import ProseCheck.Proofs.Markdown.Walk
import ProseCheck.Proofs.Preferences.Record
import ProseCheck.Proofs.Report
import ProseCheck.Proofs.Service.Basic
import ProseCheck.Proofs.Service.Choice
import ProseCheck.Proofs.Service.Fidelity
import ProseCheck.Proofs.Service.Ledger
import ProseCheck.Proofs.Service.Reload
import ProseCheck.Proofs.Service.Setup
import ProseCheck.Proofs.Service.Staleness
import ProseCheck.Proofs.Service.Stored
import ProseCheck.Proofs.Session.Course
import ProseCheck.Proofs.Session.Diary
import ProseCheck.Proofs.Session.Latest
import ProseCheck.Proofs.Session.Process
import ProseCheck.Proofs.Session.Publication
import ProseCheck.Proofs.Store.Basic
import ProseCheck.Proofs.Store.File
import ProseCheck.Proofs.Text.Bytes
import ProseCheck.Proofs.Text.Indexed
import ProseCheck.Proofs.Text.Offset
import ProseCheck.Proofs.Text.Paragraph
import ProseCheck.Proofs.Text.Segment
import ProseCheck.Proofs.Text.Sentence
import ProseCheck.Proofs.Text.Utf16
import ProseCheck.Proofs.Text.Utf8
import ProseCheck.Proofs.Time.Calendar
import ProseCheck.Proofs.Time.Instant
import ProseCheck.Provider
import ProseCheck.Report
import ProseCheck.Service.Basic
import ProseCheck.Service.Stored
import ProseCheck.Session.Basic
import ProseCheck.Session.Debouncer
import ProseCheck.Store.Basic
import ProseCheck.Store.File
import ProseCheck.Text.Alphanumeric
import ProseCheck.Text.Blank
import ProseCheck.Text.CodeRange
import ProseCheck.Text.Lowercase
import ProseCheck.Text.Offset
import ProseCheck.Text.Printable
import ProseCheck.Text.Quoted
import ProseCheck.Text.Segment
import ProseCheck.Text.Utf8
import ProseCheck.Time.Calendar
import ProseCheck.Time.Instant
import ProseCheck.Time.Wait
