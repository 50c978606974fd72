/-
# Cursors

A cursor is a place in a source.  It knows how many code points and how many octets lie before
it, and keeps at hand the text that lies after it.  Moves return a new cursor; a move that fails
returns none, so the old one is what remains.

A cursor can be measured only against another one over the same buffer.  Buffers with equal texts
and different labels are different buffers.
-/
import Lexeme.Consumed
import Lexeme.Text.Position

namespace Lexeme

/-- A buffer: a text with a label that tells it from every other buffer. -/
structure Source where
  /-- The label of the buffer. -/
  label : Nat
  /-- The text in the buffer. -/
  text : Text
deriving Repr

/-- A buffer is compared with itself at once; otherwise most buffers differ in their labels. -/
instance : DecidableEq Source := fun a b =>
  withPtrEqDecEq a b fun _ =>
    decidable_of_iff (a.label = b.label ∧ a.text = b.text) (by cases a; cases b; simp)

/-- A place in a source. -/
structure Cursor where
  /-- The buffer. -/
  source : Source
  /-- The number of code points before the cursor.  It may exceed the length of the source when
  it was set by hand. -/
  pos : Nat
  /-- The number of octets before the cursor. -/
  bytePos : Nat
  /-- The text after the cursor. -/
  rest : Text
  rest_eq : rest = source.text.drop pos
deriving DecidableEq

/-- A test of code points that a run is measured with.  It is told how many code points of the
run it has accepted, and may fail.  It is assumed not to touch the cursor that it is run on. -/
abbrev CharTest := Nat → CodePoint → Except Fault Bool

/-- The test for a property of code points. -/
def CharTest.ofBool (p : CodePoint → Bool) : CharTest := fun _ c => .ok (p c)

/-- The length and the width of the longest run at the start of a text that a test accepts,
added to those of the code points before. -/
def CharTest.measure (test : CharTest) (length width : Nat) : Text → Except Fault (Nat × Nat)
  | [] => .ok (length, width)
  | c :: t =>
    match test length c with
    | .error f => .error f
    | .ok false => .ok (length, width)
    | .ok true => test.measure (length + 1) (width + c.width) t

namespace Cursor

/-- Cursors with the same buffer and offsets are equal. -/
@[ext] theorem ext {a b : Cursor} (hs : a.source = b.source) (hp : a.pos = b.pos)
    (hb : a.bytePos = b.bytePos) : a = b := by
  have h : a.rest = b.rest := by rw [a.rest_eq, b.rest_eq, hs, hp]
  cases a; cases b; simp_all

/-! ## Placing a cursor -/

/-- The cursor at an offset, with the octets before it given. -/
def place (source : Source) (pos bytePos : Nat) : Cursor :=
  ⟨source, pos, bytePos, source.text.drop pos, rfl⟩

/-- The cursor at the start of a source. -/
def start (source : Source) : Cursor :=
  ⟨source, 0, 0, source.text, rfl⟩

/-- The cursor at an offset into a source, which has to lie inside it. -/
def atOffset (source : Source) (pos : Int) : Except Fault Cursor :=
  if 0 ≤ pos ∧ pos ≤ source.text.length then
    .ok (place source pos.toNat (Text.encodedSize (source.text.take pos.toNat)))
  else .error (.outsideSource pos source.text.length)

/-- The cursor `n` code points and `width` octets further on. -/
def advance (c : Cursor) (n width : Nat) : Cursor :=
  ⟨c.source, c.pos + n, c.bytePos + width, c.rest.drop n, by rw [c.rest_eq, List.drop_drop]⟩

/-- The cursor with its offset set by hand.  The number of octets stays what it was. -/
def setPos (c : Cursor) (pos : Nat) : Cursor :=
  place c.source pos c.bytePos

/-- The cursor with its buffer exchanged.  Both offsets stay what they were. -/
def setSource (c : Cursor) (source : Source) : Cursor :=
  place source c.pos c.bytePos

/-! ## Looking -/

/-- Whether no input remains. -/
def atEnd (c : Cursor) : Bool :=
  c.rest.isEmpty

/-- The start of what remains, as it is quoted in messages. -/
def preview (c : Cursor) : Text :=
  c.rest.take previewLength

/-- The line and column of the cursor. -/
def position (c : Cursor) : Position :=
  .ofOffset c.source.text c.pos

/-- The span from the cursor to an offset, or the empty span at the cursor. -/
def spanTo (c : Cursor) (stop : Option Int) : Except Fault SourceSpan :=
  SourceSpan.check c.pos (stop.getD c.pos) c.position.line c.position.column

/-- The failure of a broken contract at the cursor. -/
def contract (c : Cursor) (diagnostic : Option SourceSpan → Diagnostic) : Fault :=
  match c.spanTo none with
  | .error f => f
  | .ok span => .contract (.diagnostic (diagnostic span))

/-- The cursor in words: the start of what remains, and the offset. -/
def describe (c : Cursor) : Text :=
  Text.ofString "Cursor(" ++ c.preview.quoted ++ Text.ofString " @ " ++ Numeral.ofInt c.pos ++
    Text.ofString ")"

/-- The next code point. -/
def peek (c : Cursor) : Except Fault CodePoint :=
  match c.rest with
  | [] => .error (.rejection (.unexpectedEnd (.diagnostic (.unexpectedEnd (some c.pos)))))
  | x :: _ => .ok x

/-! ## Moving -/

/-- One code point further on. -/
def bump (c : Cursor) : Except Fault Cursor :=
  match c.rest with
  | [] => .error (c.contract .bumpPastEnd)
  | x :: _ => .ok (c.advance 1 x.width)

/-- Past a literal, if the remaining text starts with it; an empty literal consumes nothing. -/
def take (c : Cursor) (literal : Text) : Consumed × Cursor :=
  if !literal.isEmpty && literal.isPrefixOf c.rest then
    (.ofText literal, c.advance literal.length (Text.encodedSize literal))
  else (.zero, c)

/-- Past the longest run that a test accepts. -/
def takeWhile (c : Cursor) (test : CharTest) : Except Fault (Consumed × Cursor) :=
  match test.measure 0 0 c.rest with
  | .error f => .error f
  | .ok (length, width) => .ok (⟨length, width⟩, c.advance length width)

/-- The number of code points that remain.  It is negative past the end. -/
def remaining (c : Cursor) : Int :=
  c.source.text.length - c.pos

/-- Past the next `n` code points. -/
def consume (c : Cursor) (n : Int) : Except Fault (Consumed × Cursor) :=
  if n < 0 ∨ c.remaining < n then .error (c.contract (.consumePastEnd · n c.remaining))
  else
    let piece := c.rest.take n.toNat
    .ok (.ofText piece, c.advance piece.length (Text.encodedSize piece))

/-! ## Comparing cursors -/

/-- Whether two cursors stand at the same offsets of equal texts, perhaps in different
buffers. -/
def sameAs (c d : Cursor) : Bool :=
  c.source.text = d.source.text && c.pos = d.pos && c.bytePos = d.bytePos

/-- Check that `previous` is an earlier cursor over the same buffer. -/
def follows (c previous : Cursor) : Except Fault Unit :=
  if previous.source ≠ c.source then .error (.contract (.diagnostic .foreignCursor))
  else if c.pos < previous.pos then
    .error (.contract (.diagnostic (.outOfOrder previous.pos c.pos)))
  else .ok ()

/-- How far the cursor is from an earlier one. -/
def distanceSince (c previous : Cursor) : Except Fault Consumed := do
  c.follows previous
  return ⟨c.pos - previous.pos, c.bytePos - previous.bytePos⟩

/-- The text between an earlier cursor and this one. -/
def textSince (c previous : Cursor) : Except Fault Text := do
  c.follows previous
  return previous.rest.take (c.pos - previous.pos)

/-! ## First facts -/

@[simp] theorem advance_source (c : Cursor) (n w : Nat) : (c.advance n w).source = c.source := rfl

@[simp] theorem advance_pos (c : Cursor) (n w : Nat) : (c.advance n w).pos = c.pos + n := rfl

@[simp] theorem advance_bytePos (c : Cursor) (n w : Nat) :
    (c.advance n w).bytePos = c.bytePos + w := rfl

@[simp] theorem advance_rest (c : Cursor) (n w : Nat) : (c.advance n w).rest = c.rest.drop n := rfl

theorem atEnd_iff (c : Cursor) : c.atEnd = true ↔ c.source.text.length ≤ c.pos := by
  rw [atEnd, List.isEmpty_iff, c.rest_eq, List.drop_eq_nil_iff]

/-- The empty span at the cursor. -/
def here (c : Cursor) : SourceSpan :=
  ⟨c.pos, c.pos, c.position.line, c.position.column, Nat.le_refl _,
    Position.one_le_line_ofOffset c.source.text c.pos,
    Position.one_le_column_ofOffset c.source.text c.pos⟩

/-- The empty span can be made at every cursor. -/
theorem spanTo_none (c : Cursor) : c.spanTo none = .ok c.here := by
  have h : SourceSpan.ofInts c.pos c.pos c.position.line c.position.column = .ok c.here :=
    SourceSpan.ofInts_natCast _ _ _
  simp only [spanTo, Option.getD_none, SourceSpan.check, h]

/-- So a broken contract is always reported as such. -/
theorem contract_eq (c : Cursor) (diagnostic : Option SourceSpan → Diagnostic) :
    c.contract diagnostic = .contract (.diagnostic (diagnostic c.here)) := by
  rw [contract, spanTo_none]

end Cursor

end Lexeme
