import CommandAdvisor.Command.Lexer
import CommandAdvisor.Command.Record
import CommandAdvisor.Command.Token
import CommandAdvisor.Display
import CommandAdvisor.Explanation.Asking
import CommandAdvisor.Explanation.Basic
import CommandAdvisor.Explanation.Request
import CommandAdvisor.Failure
import CommandAdvisor.History.Entries
import CommandAdvisor.History.Entry
import CommandAdvisor.History.Profile
import CommandAdvisor.History.Store
import CommandAdvisor.Inspection.Cache
import CommandAdvisor.Inspection.Report
import CommandAdvisor.Journal
import CommandAdvisor.Json.Lexeme
import CommandAdvisor.Json.Reading
import CommandAdvisor.Json.Room
import CommandAdvisor.Json.Value
import CommandAdvisor.Json.Writing
import CommandAdvisor.Main
import CommandAdvisor.Number.Amount
import CommandAdvisor.Number.Binary64
import CommandAdvisor.Number.Decimal
import CommandAdvisor.Number.Numeral
import CommandAdvisor.Number.Quantity
import CommandAdvisor.Program
import CommandAdvisor.Record.Decoder
import CommandAdvisor.Record.Issue
import CommandAdvisor.Record.Schema
import CommandAdvisor.Risk.Analysis
import CommandAdvisor.Risk.BuiltIn
import CommandAdvisor.Risk.Level
import CommandAdvisor.Risk.Pattern
import CommandAdvisor.Risk.Record
import CommandAdvisor.Risk.Registry
import CommandAdvisor.Settings.Basic
import CommandAdvisor.Settings.Storage
import CommandAdvisor.Storage.Disk
import CommandAdvisor.Storage.FileSystem
import CommandAdvisor.Storage.Path
import CommandAdvisor.Storage.PrivateFile
import CommandAdvisor.Text.Basic
import CommandAdvisor.Text.Blank
import CommandAdvisor.Text.Bytes
import CommandAdvisor.Text.Case
import CommandAdvisor.Text.Digit
import CommandAdvisor.Text.Filled
import CommandAdvisor.Text.Lines
import CommandAdvisor.Text.Lowercase
import CommandAdvisor.Text.Printable
import CommandAdvisor.Text.Quoted
import CommandAdvisor.Usage.Grammar
import CommandAdvisor.Usage.Page
import CommandAdvisor.Usage.Request
import CommandAdvisor.Usage.Subcommand
import CommandAdvisor.Workspace
import CommandAdvisor.Proofs.Repetitions
import CommandAdvisor.Proofs.Text.Casing
import CommandAdvisor.Proofs.Text.Surroundings
import CommandAdvisor.Proofs.Command.Kinds
import CommandAdvisor.Proofs.Command.Segmentation
import CommandAdvisor.Proofs.Command.Stages
import CommandAdvisor.Proofs.Command.WordsOfTokens
import CommandAdvisor.Proofs.Json.Lexemes
import CommandAdvisor.Proofs.Risk.Verdict
import CommandAdvisor.Proofs.Json.Bytes
import CommandAdvisor.Proofs.History.Record
import CommandAdvisor.Proofs.Storage.Directories
import CommandAdvisor.Proofs.Storage.SavedFile
import CommandAdvisor.Proofs.History.Recency
import CommandAdvisor.Proofs.History.Stored
import CommandAdvisor.Proofs.History.Refinement
import CommandAdvisor.Proofs.Risk.Escalation
import CommandAdvisor.Proofs.Risk.Soundness
import CommandAdvisor.Proofs.Risk.Spacing
import CommandAdvisor.Proofs.Risk.Warnings
import CommandAdvisor.Proofs.Risk.Spelling
import CommandAdvisor.Proofs.Usage.Arguments
import CommandAdvisor.Proofs.Inspection.Reports
import CommandAdvisor.Proofs.Program.CommandLine
import CommandAdvisor.Proofs.Number.Numerals
import CommandAdvisor.Proofs.Number.Rounding
import CommandAdvisor.Proofs.Number.Shortest
import CommandAdvisor.Proofs.Number.Layouts
import CommandAdvisor.Proofs.Json.LongIntegers
import CommandAdvisor.Proofs.Json.Nesting
import CommandAdvisor.Proofs.Json.Reals
import CommandAdvisor.Proofs.Frames
import CommandAdvisor.Proofs.Explanation.Asking
import CommandAdvisor.Proofs.Settings.Environment
import CommandAdvisor.Proofs.Settings.Fields
import CommandAdvisor.Proofs.Settings.Loading
import CommandAdvisor.Proofs.Settings.Saving
import CommandAdvisor.Proofs.Storage.Ways
import CommandAdvisor.Proofs.Storage.Writes
import CommandAdvisor.Proofs.Storage.Passages
import CommandAdvisor.Proofs.Storage.Modes
import CommandAdvisor.Proofs.Writing
import CommandAdvisor.Proofs.Privacy
import CommandAdvisor.Proofs.History.Revisions
import CommandAdvisor.Proofs.History.Searching
import CommandAdvisor.Proofs.History.Edits
import CommandAdvisor.Proofs.History.Editing
import CommandAdvisor.Proofs.Usage.Lines
import CommandAdvisor.Proofs.Program.Explaining
import CommandAdvisor.Proofs.Program.ExplainedRuns
import CommandAdvisor.Proofs.Inspection.Recall
import CommandAdvisor.Proofs.Program.KeptHistories
import CommandAdvisor.Proofs.Risk.Drafts
import CommandAdvisor.Proofs.Risk.Samples
import CommandAdvisor.Proofs.Usage.Values
import CommandAdvisor.Proofs.Program.EntryEdits
import CommandAdvisor.Proofs.Settings.Unusable
import CommandAdvisor.Proofs.Program.Endings
import CommandAdvisor.Proofs.Command.Record
import CommandAdvisor.Proofs.Record.Printing
import CommandAdvisor.Proofs.Explanation.Record
import CommandAdvisor.Proofs.Risk.Record
import CommandAdvisor.Proofs.Program.PrintedData
