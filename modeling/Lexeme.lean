import Lexeme.Text.CodePoint
import Lexeme.Text.Utf8
import Lexeme.Text.Blank
import Lexeme.Text.Printable
import Lexeme.Text.Numeral
import Lexeme.Text.Quoted
import Lexeme.Text.Position
import Lexeme.Diagnostic.Code
import Lexeme.Diagnostic.Span
import Lexeme.Diagnostic.Basic
import Lexeme.Diagnostic.Json
import Lexeme.Diagnostic.Format
import Lexeme.Fault
import Lexeme.Consumed
import Lexeme.Cursor
import Lexeme.Trace
import Lexeme.Scan
import Lexeme.Item
import Lexeme.Extract
import Lexeme.Limit
import Lexeme.Pull
import Lexeme.Stream
import Lexeme.Slices
import Lexeme.Lexer
import Lexeme.Scanner
import Lexeme.Arithmetic
import Lexeme.Program.Kind
import Lexeme.Program.Recipe
import Lexeme.Program.Basic
import Lexeme.Program.Run
import Lexeme.Tour
import Lexeme.Main
import Lexeme.Proofs.Moves
import Lexeme.Proofs.Actions
import Lexeme.Proofs.Extraction
import Lexeme.Proofs.Course
import Lexeme.Proofs.Streams
import Lexeme.Proofs.Lossless
import Lexeme.Proofs.Accounting
import Lexeme.Proofs.Calls
import Lexeme.Proofs.Exhaustion
import Lexeme.Proofs.Drains
import Lexeme.Proofs.Determinacy
import Lexeme.Proofs.Lexers
import Lexeme.Proofs.Agreement
import Lexeme.Proofs.Measuring
import Lexeme.Proofs.Octets
import Lexeme.Proofs.Termination
import Lexeme.Proofs.Progress
import Lexeme.Proofs.Windows
import Lexeme.Proofs.Forgetting
import Lexeme.Proofs.Arithmetic.Grammar
import Lexeme.Proofs.Arithmetic.Lexing
import Lexeme.Proofs.Arithmetic.Relexing
import Lexeme.Proofs.Rejections
import Lexeme.Proofs.Records
import Lexeme.Proofs.Bumps
import Lexeme.Proofs.Slicing
import Lexeme.Proofs.Positions
import Lexeme.Proofs.Refusals
import Lexeme.Proofs.Telling
import Lexeme.Proofs.Readability
import Lexeme.Proofs.Contents
import Lexeme.Proofs.Layouts
import Lexeme.Proofs.Controls
import Lexeme.Proofs.Encoding
