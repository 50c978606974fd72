/-
# A tour of the library

Three short examples with the arithmetic classifier: kinds with texts, kinds with lengths, and a
scanner.  Each example is a text of whole lines.
-/
import Lexeme.Arithmetic
import Lexeme.Lexer
import Lexeme.Scanner

namespace Lexeme.Tour

open Arithmetic (classify errorKind)

/-- One line. -/
def line (t : Text) : Text :=
  t ++ [.newline]

/-- A title between two rules. -/
def heading (title : String) : Text :=
  let rule := line (List.replicate 60 (.ofChar '='))
  rule ++ line (Text.ofString title) ++ rule

/-- A name in a column of ten places. -/
def column (t : Text) : Text :=
  t ++ List.replicate (10 - t.length) (.ofChar ' ')

/-- An indented row with the name of a kind in front. -/
def row (kind : Arithmetic.Kind) (value : Text) : Text :=
  line (Text.ofString "  " ++ column kind.name ++ Text.ofString " " ++ value)

/-- An item with all its fields. -/
def describe : Item Arithmetic.Kind → Text
  | .token kind text =>
    Text.ofString "Token(kind=<Kind." ++ kind.name ++ Text.ofString ": " ++
      Numeral.decimal kind.number ++ Text.ofString ">, text=" ++ text.quoted ++ Text.ofString ")"
  | .sized kind length =>
    Text.ofString "SizedToken(kind=<Kind." ++ kind.name ++ Text.ofString ": " ++
      Numeral.decimal kind.number ++ Text.ofString ">, length=" ++ Numeral.ofInt length ++
      Text.ofString ")"
  | .custom kind _ => kind.name

/-- A buffer with the given text. -/
def source (text : String) : Source :=
  ⟨0, Text.ofString text⟩

/-- The row of an item: its kind, and its text in quotes or its length. -/
def itemRow : Item Arithmetic.Kind → Text
  | .token kind text => row kind text.quoted
  | .sized kind length => row kind (Numeral.ofInt length)
  | .custom kind _ => row kind []

/-- An example: what it prints, and what it tells. -/
structure Page where
  /-- The printed lines. -/
  text : Text
  /-- The trace. -/
  trace : Trace := {}

/-- A page with a title, some rows, and an empty line. -/
def page (title : String) (rows : Text) (trace : Trace) : Page :=
  ⟨heading title ++ rows ++ line [], trace⟩

/-- One page after the other. -/
def Page.append (p q : Page) : Page :=
  ⟨p.text ++ q.text, p.trace.append q.trace⟩

/-- Kinds with texts. -/
def textTokens : Except Fault Page := do
  let (convert, lexer) ← Lexer.start (source "1 + 2.3 + 4. + .5") errorKind
  let run := lexer.run classify convert
  return page "Example 1: (kind, text) tokens" (run.items.flatMap itemRow)
    run.state.stream.session.trace

/-- Kinds with lengths, and where the cursor stands after them. -/
def sizedTokens : Except Fault Page := do
  let (convert, stream) ← Stream.start (source "12+€") errorKind
  let run := Pull.drain (Stream.pull classify convert) Pull.patience stream
  let cursor := run.state.session.cursor
  let summary := line (Text.ofString "  consumed " ++ Numeral.decimal cursor.pos ++
    Text.ofString " chars / " ++ Numeral.decimal cursor.bytePos ++ Text.ofString " UTF-8 bytes")
  return page "Example 2: (kind, length) tokens" (run.items.flatMap itemRow ++ summary)
    run.state.session.trace

/-- The items of a scanner. -/
def scannerTokens : Except Fault Page := do
  let (convert, scanner) ← Scanner.start (source ".5 + x") errorKind
  let run := Pull.drain (Scanner.pull classify convert) Pull.patience scanner
  return page "Example 3: Scanner"
    (run.items.flatMap fun item => line (Text.ofString "  " ++ describe item))
    run.state.session.trace

/-- The whole tour. -/
def all : Except Fault Page := do
  return ((← textTokens).append (← sizedTokens)).append (← scannerTokens)

end Lexeme.Tour
