/-
# Arithmetic

A classifier for sums of decimal numbers: runs of blanks, the plus sign, integers, and floats.
A float needs a digit after its point, so `.5` is a float and `4.` is rejected.  Everything else
is rejected one code point at a time.
-/
import Lexeme.Item
import Lexeme.Text.Blank

namespace Lexeme.Arithmetic

/-- The kinds of arithmetic tokens. -/
inductive Kind where
  /-- Rejected input. -/
  | error
  /-- A run of blanks. -/
  | whitespace
  /-- The plus sign. -/
  | add
  /-- Digits with a point among or before them. -/
  | float
  /-- Digits. -/
  | integer
deriving DecidableEq, Repr

namespace Kind

/-- The name of a kind. -/
def name : Kind → Text
  | error => Text.ofString "ERROR"
  | whitespace => Text.ofString "WHITESPACE"
  | add => Text.ofString "ADD"
  | float => Text.ofString "FLOAT"
  | integer => Text.ofString "INTEGER"

/-- The number of a kind. -/
def number : Kind → Nat
  | error => 1
  | whitespace => 2
  | add => 3
  | float => 4
  | integer => 5

end Kind

/-- The decimal point. -/
def point : CodePoint := .ofChar '.'

/-- The plus sign. -/
def plus : CodePoint := .ofChar '+'

/-- Past a run of digits. -/
def digits : Scan Consumed := Scan.takeWhile (.ofBool CodePoint.isDigit)

/-- A number, from its first digit or its point on. -/
def number : Scan (Outcome Kind) := do
  let _ ← digits
  let dot ← Scan.take [point]
  if dot.any then
    let fraction ← digits
    let _ ← Scan.ofExcept (fraction.atLeast 1)
    pure (.kind .float)
  else pure (.kind .integer)

/-- The arithmetic token that comes next. -/
def classify : Scan (Outcome Kind) := do
  let c ← Scan.peek
  if c.isBlank then
    let _ ← Scan.takeWhile (.ofBool CodePoint.isBlank)
    pure (.kind .whitespace)
  else if c = point ∨ c.isDigit then number
  else if c = plus then
    Scan.bump
    pure (.kind .add)
  else
    Scan.bump
    throw (.rejection .unexpectedInput)

/-- Arithmetic kinds have one kind for all rejected input. -/
def errorKind : ErrorKind Kind :=
  .family fun _ => .ok .error

end Lexeme.Arithmetic
