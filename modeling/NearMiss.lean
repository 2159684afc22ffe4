import NearMiss.Archive
import NearMiss.Checker
import NearMiss.Command.Arguments
import NearMiss.Command.Build
import NearMiss.Command.Check
import NearMiss.Command.Invocation
import NearMiss.Command.Lookup
import NearMiss.Command.Run
import NearMiss.Command.Script
import NearMiss.Command.Tables
import NearMiss.Console.CellWidth
import NearMiss.Console.Emoji
import NearMiss.Console.EmojiTable
import NearMiss.Console.Handler
import NearMiss.Console.Layout
import NearMiss.Console.Markup
import NearMiss.Console.Style
import NearMiss.Console.Table
import NearMiss.Corpus
import NearMiss.Corpus.BuiltIn
import NearMiss.Declaration
import NearMiss.Diagnostic
import NearMiss.FileTree.Basic
import NearMiss.FileTree.Walk
import NearMiss.Go.Interface
import NearMiss.Go.Lexeme
import NearMiss.Go.Statement
import NearMiss.Go.TypeParams
import NearMiss.Grouping
import NearMiss.Harvest
import NearMiss.Index
import NearMiss.Json.Basic
import NearMiss.Json.Decimal
import NearMiss.Json.Parser
import NearMiss.Json.Printer
import NearMiss.Main
import NearMiss.Method
import NearMiss.Param
import NearMiss.Path
import NearMiss.Proofs.Blank
import NearMiss.Proofs.Cut
import NearMiss.Proofs.Depth
import NearMiss.Release
import NearMiss.Schema.Checked
import NearMiss.Schema.IntegerText
import NearMiss.Schema.Reader
import NearMiss.Schema.Record
import NearMiss.Settings.Basic
import NearMiss.Settings.Environment
import NearMiss.Settings.FieldValue
import NearMiss.Settings.Session
import NearMiss.Settings.Sources
import NearMiss.Settings.Surroundings
import NearMiss.Settings.Template
import NearMiss.Settings.VariableFile
import NearMiss.Suggestion
import NearMiss.Text.Alphanumeric
import NearMiss.Text.Blank
import NearMiss.Text.DecimalDigit
import NearMiss.Text.Depth
import NearMiss.Text.Lines
import NearMiss.Text.LowerCase
import NearMiss.Text.Printable
import NearMiss.Text.Quoted
import NearMiss.Text.Ranges
import NearMiss.Text.Split
import NearMiss.Text.Utf8
import NearMiss.Proofs.Pieces
import NearMiss.Proofs.Entry
import NearMiss.Proofs.MethodLine
import NearMiss.Proofs.Grouping
import NearMiss.Proofs.Matching
import NearMiss.Proofs.ShapeKey
import NearMiss.Proofs.Checker
import NearMiss.Proofs.Rename
import NearMiss.Proofs.Placement
import NearMiss.Proofs.Implementation
import NearMiss.Proofs.LineNumbers
import NearMiss.Proofs.JsonString
import NearMiss.Proofs.JsonText
import NearMiss.Proofs.Utf8
import NearMiss.Proofs.Records
import NearMiss.Proofs.FileTree
import NearMiss.Proofs.CorpusFile
import NearMiss.Proofs.Documents
import NearMiss.Proofs.Walk
import NearMiss.Proofs.Harvest
import NearMiss.Proofs.Packing
import NearMiss.Proofs.Partition
import NearMiss.Proofs.Extraction
import NearMiss.Proofs.Candidates
import NearMiss.Proofs.Provenance
import NearMiss.Proofs.Markup
import NearMiss.Proofs.Literal
import NearMiss.Proofs.Layout
import NearMiss.Proofs.Script
import NearMiss.Proofs.Lookup
import NearMiss.Proofs.Session
import NearMiss.Proofs.JsonNumber
import NearMiss.Proofs.Wording
import NearMiss.Proofs.Faults
import NearMiss.Proofs.Loading
import NearMiss.Proofs.CheckCommand
import NearMiss.Proofs.BuildCommand
import NearMiss.Proofs.Parts
import NearMiss.Proofs.ResultParens
import NearMiss.Proofs.SharedTypes
import NearMiss.Proofs.Growth
import NearMiss.Proofs.LineFailure
import NearMiss.Proofs.Elision
import NearMiss.Proofs.KeyInvariance
import NearMiss.Proofs.Respelling
import NearMiss.Proofs.FaultPlaces
import NearMiss.Proofs.Collection
import NearMiss.Proofs.Verbatim
import NearMiss.Proofs.Joining
import NearMiss.Proofs.Recovery
import NearMiss.Proofs.Address
