import BotScript.Check.Mentions
import BotScript.Check.Report
import BotScript.Command.Argument
import BotScript.Command.File
import BotScript.Command.Line
import BotScript.Command.Perform
import BotScript.Command.Tools
import BotScript.Datum.Basic
import BotScript.Datum.Inspect
import BotScript.Datum.Shown
import BotScript.Entries
import BotScript.Evaluation.Environment
import BotScript.Evaluation.Expr
import BotScript.Fault
import BotScript.Host.Dialogue
import BotScript.Host.Limits
import BotScript.Host.Narrative
import BotScript.Host.Scripted
import BotScript.Main
import BotScript.Memory.Calls
import BotScript.Memory.Private
import BotScript.Memory.Sessions
import BotScript.Memory.Slot
import BotScript.Memory.Store
import BotScript.Metadata
import BotScript.Number.Binary64
import BotScript.Number.Decimal
import BotScript.Number.ExactDecimal
import BotScript.Number.Fraction
import BotScript.Number.Reading
import BotScript.Proofs.Evaluation.Grouping
import BotScript.Proofs.Evaluation.Readable
import BotScript.Proofs.Host.Conversion
import BotScript.Proofs.Host.Exchange
import BotScript.Proofs.Host.Limits
import BotScript.Proofs.Host.Overtime
import BotScript.Proofs.Host.Turns
import BotScript.Proofs.Number.Counting
import BotScript.Proofs.Number.Numerals
import BotScript.Proofs.Run.Accounts
import BotScript.Proofs.Run.Coherence
import BotScript.Proofs.Run.Contained
import BotScript.Proofs.Run.Course
import BotScript.Proofs.Run.Effects
import BotScript.Proofs.Run.Execution
import BotScript.Proofs.Run.Expiry
import BotScript.Proofs.Run.Overtime
import BotScript.Proofs.Run.Reaches
import BotScript.Proofs.Run.Statements
import BotScript.Proofs.Run.Takes
import BotScript.Proofs.Run.Totality
import BotScript.Proofs.Run.Trail
import BotScript.Proofs.Syntax.Blame
import BotScript.Proofs.Syntax.Chains
import BotScript.Proofs.Syntax.Decides
import BotScript.Proofs.Syntax.Derivations
import BotScript.Proofs.Syntax.Digits
import BotScript.Proofs.Syntax.Each
import BotScript.Proofs.Syntax.Escapes
import BotScript.Proofs.Syntax.Expressions
import BotScript.Proofs.Syntax.Grammar
import BotScript.Proofs.Syntax.Holes
import BotScript.Proofs.Syntax.Lexemes
import BotScript.Proofs.Syntax.Lines
import BotScript.Proofs.Syntax.Positions
import BotScript.Proofs.Syntax.Programs
import BotScript.Proofs.Syntax.Readable
import BotScript.Proofs.Syntax.Recognition
import BotScript.Proofs.Syntax.Statements
import BotScript.Proofs.Syntax.Templates
import BotScript.Proofs.Syntax.Tiling
import BotScript.Report.Interceptor
import BotScript.Report.Journal
import BotScript.Report.Log
import BotScript.Report.Metrics
import BotScript.Report.Redaction
import BotScript.Run.Execute
import BotScript.Run.Rehearsal
import BotScript.Run.Result
import BotScript.Run.Selection
import BotScript.Run.State
import BotScript.Run.Statement
import BotScript.Run.Trace
import BotScript.Service.Address
import BotScript.Service.Answer
import BotScript.Service.Body
import BotScript.Service.Reply
import BotScript.Service.Request
import BotScript.Service.Route
import BotScript.Settings
import BotScript.Syntax.Bot.Reader
import BotScript.Syntax.Complaint
import BotScript.Syntax.Expr
import BotScript.Syntax.Expr.Reader
import BotScript.Syntax.Lexer
import BotScript.Syntax.Outline
import BotScript.Syntax.Position
import BotScript.Syntax.Program
import BotScript.Syntax.Reading
import BotScript.Syntax.Stmt.Reader
import BotScript.Syntax.Template
import BotScript.Syntax.Token
import BotScript.Text.CaseTables
import BotScript.Text.Casing
import BotScript.Text.CharClass
import BotScript.Text.CodePoint
import BotScript.Text.Indentation
import BotScript.Text.LetterRanges
import BotScript.Text.NumericRanges
import BotScript.Text.Percent
import BotScript.Text.PrintableRanges
import BotScript.Text.Quoted
import BotScript.Text.Similarity
import BotScript.Text.Units
import BotScript.Text.Utf8
import BotScript.Tool.Call
import BotScript.Tool.Catalogue
import BotScript.Tool.Result
import BotScript.Value.Access
import BotScript.Value.Basic
import BotScript.Value.Equality
import BotScript.Value.Reading
import BotScript.Value.Shown
import BotScript.Value.Written
import BotScript.Proofs.Syntax.Faults
import BotScript.Proofs.Syntax.FrontEnd
import BotScript.Proofs.Syntax.Variables
import BotScript.Proofs.Evaluation.Unbound
import BotScript.Proofs.Evaluation.Keys
import BotScript.Proofs.Host.Raised
import BotScript.Proofs.Run.Flow
import BotScript.Proofs.Run.Frame
import BotScript.Proofs.Evaluation.Bound
import BotScript.Proofs.Run.Prepare
import BotScript.Proofs.Check.Foreseen
import BotScript.Proofs.Check.Resolved
import BotScript.Proofs.Memory.Load
import BotScript.Proofs.Memory.Recency
import BotScript.Proofs.Memory.Slots
import BotScript.Proofs.Run.Mirror
import BotScript.Proofs.Run.Persistence
import BotScript.Proofs.Run.Journal
import BotScript.Proofs.Report.Conservation
import BotScript.Proofs.Layout.Insensitive
import BotScript.Proofs.Run.Concurrent
import BotScript.Proofs.Service.Isolation
import BotScript.Proofs.Run.Detached
import BotScript.Proofs.Tool.Verdict
import BotScript.Proofs.Run.Recast
import BotScript.Proofs.Check.Answered
import BotScript.Proofs.Run.Intact
import BotScript.Proofs.Report.Concealed
import BotScript.Proofs.Value.Equality
import BotScript.Proofs.Datum.Normal
import BotScript.Proofs.Run.Normal
import BotScript.Proofs.Run.Gathered
import BotScript.Proofs.Syntax.Identifiers
import BotScript.Proofs.Memory.Owners
import BotScript.Proofs.Run.Strangers
import BotScript.Proofs.Run.Completion
import BotScript.Proofs.Tool.Fields
