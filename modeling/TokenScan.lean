import TokenScan.CharClass
import TokenScan.CommandLine.Invocation
import TokenScan.CommandLine.Switch
import TokenScan.CommandLine.Word
import TokenScan.Cursor
import TokenScan.Diagnostic
import TokenScan.Diagnostic.Code
import TokenScan.Failure
import TokenScan.FileTree
import TokenScan.Host
import TokenScan.Json
import TokenScan.Lexer
import TokenScan.Lexer.Rule
import TokenScan.Location
import TokenScan.Log
import TokenScan.Main
import TokenScan.Outcome
import TokenScan.Program
import TokenScan.Proofs.AllOrNothing
import TokenScan.Proofs.AnySpan
import TokenScan.Proofs.ByteCursor
import TokenScan.Proofs.Calls
import TokenScan.Proofs.Classes
import TokenScan.Proofs.Codes
import TokenScan.Proofs.Continuation
import TokenScan.Proofs.Coverage
import TokenScan.Proofs.Cut
import TokenScan.Proofs.Delivery
import TokenScan.Proofs.Grammar
import TokenScan.Proofs.JsonReport
import TokenScan.Proofs.JsonText
import TokenScan.Proofs.LineBreak
import TokenScan.Proofs.LineEndings
import TokenScan.Proofs.LineTable
import TokenScan.Proofs.Lines
import TokenScan.Proofs.LongerText
import TokenScan.Proofs.Loops
import TokenScan.Proofs.MaximalMunch
import TokenScan.Proofs.Motion
import TokenScan.Proofs.Portion
import TokenScan.Proofs.Position
import TokenScan.Proofs.Progress
import TokenScan.Proofs.Rendering
import TokenScan.Proofs.Restart
import TokenScan.Proofs.RoundTrip
import TokenScan.Proofs.SharedHandler
import TokenScan.Proofs.Strictness
import TokenScan.Proofs.TextReport
import TokenScan.Proofs.Unambiguous
import TokenScan.Proofs.Underline
import TokenScan.Proofs.Utf8
import TokenScan.Proofs.Warnings
import TokenScan.Proofs.Wording
import TokenScan.Report
import TokenScan.Report.Chunk
import TokenScan.Scan
import TokenScan.Settings
import TokenScan.Settings.ConfigFile
import TokenScan.Settings.ConfigText
import TokenScan.Snippet
import TokenScan.SourceFile
import TokenScan.Text.Bytes
import TokenScan.Text.CharSet
import TokenScan.Text.Invisible
import TokenScan.Text.Printed
import TokenScan.Token
import TokenScan.Toml.DateTime
import TokenScan.Toml.Document
import TokenScan.Toml.Number
import TokenScan.Toml.Reader
import TokenScan.Toml.Text
import TokenScan.Toml.Value
