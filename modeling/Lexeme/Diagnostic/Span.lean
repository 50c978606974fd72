/-
# Source spans

A span is a stretch of a source with the line and column of its start.  Offsets count code
points from zero, the stop is not part of the span, and lines and columns count from one.  The
type carries these rules; `SourceSpan.ofInts` checks four integers against them, in the order
in which the fields stand.
-/
import Lexeme.Text.Numeral

namespace Lexeme

/-- A stretch of a source, with the line and column of its start. -/
@[ext] structure SourceSpan where
  /-- The offset of the first code point. -/
  start : Nat
  /-- The offset right after the last code point. -/
  stop : Nat
  /-- The line of the start, counted from one. -/
  line : Nat
  /-- The column of the start, counted from one. -/
  column : Nat
  start_le_stop : start ≤ stop
  one_le_line : 1 ≤ line
  one_le_column : 1 ≤ column
deriving DecidableEq, Repr

namespace SourceSpan

/-- What keeps four integers from being a span. -/
inductive Problem where
  /-- The start is negative. -/
  | negativeStart (start : Int)
  /-- The stop lies before the start. -/
  | reversed (start stop : Int)
  /-- The line is not counted from one. -/
  | lowLine (line : Int)
  /-- The column is not counted from one. -/
  | lowColumn (column : Int)
deriving DecidableEq, Repr

/-- The wording of a problem. -/
def Problem.message : Problem → Text
  | negativeStart start =>
    Text.ofString "SourceSpan.start must be >= 0, got " ++ Numeral.ofInt start
  | reversed start stop =>
    Text.ofString "SourceSpan.end (" ++ Numeral.ofInt stop ++
      Text.ofString ") must be >= start (" ++ Numeral.ofInt start ++ Text.ofString ")"
  | lowLine line =>
    Text.ofString "SourceSpan.line must be >= 1 (1-indexed), got " ++ Numeral.ofInt line
  | lowColumn column =>
    Text.ofString "SourceSpan.column must be >= 1 (1-indexed), got " ++ Numeral.ofInt column

/-- The span with the given fields, or the first problem with them. -/
def ofInts (start stop line column : Int) : Except Problem SourceSpan :=
  if _ : start < 0 then .error (.negativeStart start)
  else if _ : stop < start then .error (.reversed start stop)
  else if _ : line < 1 then .error (.lowLine line)
  else if _ : column < 1 then .error (.lowColumn column)
  else .ok {
    start := start.toNat
    stop := stop.toNat
    line := line.toNat
    column := column.toNat
    start_le_stop := by omega
    one_le_line := by omega
    one_le_column := by omega }

/-- Fields that keep the rules make a span, and it has these fields. -/
theorem ofInts_natCast {start stop line column : Nat} (hstop : start ≤ stop)
    (hline : 1 ≤ line) (hcolumn : 1 ≤ column) :
    ofInts start stop line column =
      .ok ⟨start, stop, line, column, hstop, hline, hcolumn⟩ := by
  unfold ofInts
  rw [dif_neg (by omega), dif_neg (by omega), dif_neg (by omega), dif_neg (by omega)]
  simp

end SourceSpan

end Lexeme
