/-
# Consumption records

A record says how far one move went: in code points and in octets.  Records add up field by
field.  Classifiers check a record against bounds instead of counting by hand.
-/
import Lexeme.Fault
import Lexeme.Text.Utf8

namespace Lexeme

/-- How much was consumed.  The distance between two cursors that were placed by hand may be
negative in octets, so both fields are integers. -/
structure Consumed where
  /-- The number of code points. -/
  chars : Int
  /-- The number of octets. -/
  bytes : Int
deriving DecidableEq, Repr

namespace Consumed

/-- Nothing was consumed. -/
def zero : Consumed := ⟨0, 0⟩

/-- The record of a text, measured by writing its octets. -/
def ofText (t : Text) : Consumed :=
  ⟨t.length, Text.encodedSize t⟩

/-- The record of a run of code points, measured by their widths. -/
def ofRun (t : Text) : Consumed :=
  t.foldl (fun r c => ⟨r.chars + 1, r.bytes + c.width⟩) zero

/-- The code point that a piece of text consists of. -/
def single? : Text → Except Fault CodePoint
  | [c] => .ok c
  | _ => .error .unsuitableArgument

/-- The record of pieces of text, each of which has to be one code point. -/
def ofPieces (pieces : List Text) : Except Fault Consumed :=
  ofRun <$> pieces.mapM single?

/-- Whether anything was consumed, judged by octets. -/
def any (r : Consumed) : Bool :=
  0 < r.bytes

/-- Two moves, one after the other. -/
def add (r s : Consumed) : Consumed :=
  ⟨r.chars + s.chars, r.bytes + s.bytes⟩

instance : Add Consumed := ⟨add⟩

instance : Zero Consumed := ⟨zero⟩

/-- The rejection of a record that is outside a bound. -/
def outOfBound (r : Consumed) (bound : String) (n : Int) : Fault :=
  .rejection (.unexpectedInput (.diagnostic (.boundNotMet (Text.ofString bound) n r.chars)))

/-- The same record, if it has at least `n` code points. -/
def atLeast (r : Consumed) (n : Int) : Except Fault Consumed :=
  if n ≤ r.chars then .ok r else .error (r.outOfBound "at least" n)

/-- The same record, if it has at most `n` code points. -/
def atMost (r : Consumed) (n : Int) : Except Fault Consumed :=
  if r.chars ≤ n then .ok r else .error (r.outOfBound "at most" n)

@[ext] theorem ext {r s : Consumed} (hc : r.chars = s.chars) (hb : r.bytes = s.bytes) : r = s := by
  cases r; cases s; simp_all

@[simp] theorem add_chars (r s : Consumed) : (r + s).chars = r.chars + s.chars := rfl

@[simp] theorem add_bytes (r s : Consumed) : (r + s).bytes = r.bytes + s.bytes := rfl

theorem ofText_eq (t : Text) : ofText t = ⟨t.length, Text.width t⟩ := by
  simp [ofText, Text.encodedSize_eq_width]

end Consumed

end Lexeme
