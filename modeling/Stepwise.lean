import Stepwise.Check
import Stepwise.Code.Action
import Stepwise.Code.Term
import Stepwise.Fault
import Stepwise.Grammar.Rule
import Stepwise.Machine.Basic
import Stepwise.Machine.Eval
import Stepwise.Machine.Exec
import Stepwise.Machine.Failure
import Stepwise.Machine.Function
import Stepwise.Machine.Node
import Stepwise.Machine.Operation
import Stepwise.Machine.Style
import Stepwise.Machine.Supply
import Stepwise.Notebook.Cell
import Stepwise.Notebook.Options
import Stepwise.Notebook.Page
import Stepwise.Notebook.StyleSheet
import Stepwise.Number.Binary64
import Stepwise.Number.Fixed
import Stepwise.Number.Reading
import Stepwise.Number.Shortest
import Stepwise.Program.Basic
import Stepwise.Program.Parser
import Stepwise.Program.Reading
import Stepwise.Proofs.Acceptance.Expression
import Stepwise.Proofs.Acceptance.Operand
import Stepwise.Proofs.Acceptance.Program
import Stepwise.Proofs.Acceptance.Rules
import Stepwise.Proofs.Acceptance.Statement
import Stepwise.Proofs.Cells
import Stepwise.Proofs.Changes
import Stepwise.Proofs.Checking
import Stepwise.Proofs.Conditions
import Stepwise.Proofs.Contexts
import Stepwise.Proofs.Course.Agreement
import Stepwise.Proofs.Course.Basic
import Stepwise.Proofs.Course.Exec
import Stepwise.Proofs.Course.Frame
import Stepwise.Proofs.Course.Indentation
import Stepwise.Proofs.Course.Returns
import Stepwise.Proofs.Course.Triple
import Stepwise.Proofs.Definitions
import Stepwise.Proofs.Derivation
import Stepwise.Proofs.Dictionaries
import Stepwise.Proofs.Faults.Entries
import Stepwise.Proofs.Faults.Ordinary
import Stepwise.Proofs.Faults.Origin
import Stepwise.Proofs.Faults.Traced
import Stepwise.Proofs.Faults.Whole
import Stepwise.Proofs.Indexing
import Stepwise.Proofs.Lexemes.Joining
import Stepwise.Proofs.Lexemes.Partition
import Stepwise.Proofs.Lexemes.Rules
import Stepwise.Proofs.Lexemes.Scanning
import Stepwise.Proofs.Lexemes.Spreading
import Stepwise.Proofs.Lexing
import Stepwise.Proofs.Loops.Basic
import Stepwise.Proofs.Loops.Bounds
import Stepwise.Proofs.Loops.Numbered
import Stepwise.Proofs.Loops.Reports
import Stepwise.Proofs.NextToken
import Stepwise.Proofs.Pages
import Stepwise.Proofs.Phrases
import Stepwise.Proofs.Places
import Stepwise.Proofs.Printing.Continuation
import Stepwise.Proofs.Printing.Expression
import Stepwise.Proofs.Printing.Lexemes
import Stepwise.Proofs.Printing.Numerals
import Stepwise.Proofs.Printing.Printer
import Stepwise.Proofs.Printing.RoundTrip
import Stepwise.Proofs.Printing.Statement
import Stepwise.Proofs.QuotedTexts
import Stepwise.Proofs.Reading.Columns
import Stepwise.Proofs.Reading.Compact
import Stepwise.Proofs.Reading.Events
import Stepwise.Proofs.Reading.Layout
import Stepwise.Proofs.Reading.Marks
import Stepwise.Proofs.Reading.Misplaced
import Stepwise.Proofs.Reading.Numerals
import Stepwise.Proofs.Reading.Outcome
import Stepwise.Proofs.Reading.Snippets
import Stepwise.Proofs.Settings.Independence
import Stepwise.Proofs.Settings.Silent
import Stepwise.Proofs.Settings.Steady
import Stepwise.Proofs.Shape.Parsed
import Stepwise.Proofs.Shape.Tree
import Stepwise.Proofs.Soundness
import Stepwise.Proofs.Spelling
import Stepwise.Proofs.Stranding
import Stepwise.Proofs.TaskLookup
import Stepwise.Proofs.Termination.Clock
import Stepwise.Proofs.Termination.Enumeration
import Stepwise.Proofs.Termination.Settling
import Stepwise.Proofs.Uniform
import Stepwise.Proofs.Values.Code
import Stepwise.Proofs.Values.Invariant
import Stepwise.Proofs.Values.Numeral
import Stepwise.Proofs.Values.Plain
import Stepwise.Proofs.Values.Sameness
import Stepwise.Proofs.Values.Whole
import Stepwise.Proofs.Verdict
import Stepwise.Proofs.Writes.Code
import Stepwise.Proofs.Writes.Program
import Stepwise.Proofs.Writes.Targets
import Stepwise.Report
import Stepwise.Report.Fields
import Stepwise.Source
import Stepwise.Text.Blank
import Stepwise.Text.Boundaries
import Stepwise.Text.Case
import Stepwise.Text.CaseTable
import Stepwise.Text.Cutting
import Stepwise.Text.DecimalDigit
import Stepwise.Text.Lines
import Stepwise.Text.Printable
import Stepwise.Text.Quoted
import Stepwise.Token.Basic
import Stepwise.Token.Lexer
import Stepwise.Value.Access
import Stepwise.Value.Arithmetic
import Stepwise.Value.Basic
import Stepwise.Value.Same
import Stepwise.Value.Shown
import Stepwise.Value.Table
import Stepwise.Workload.Basic
import Stepwise.Workload.Program
import Stepwise.Workload.Result
