/-
# Lines and columns

A place in a text as a reader sees it: the number of its line and its column in that line, both
counted from one.  Only the newline ends a line.
-/
import Lexeme.Text.CodePoint

namespace Lexeme

/-- A line and a column, both counted from one. -/
structure Position where
  /-- The number of the line. -/
  line : Nat := 1
  /-- The column in the line. -/
  column : Nat := 1
deriving DecidableEq, Repr

namespace Position

/-- The place right after a code point that stands at `p`. -/
def next (p : Position) (c : CodePoint) : Position :=
  if c = .newline then ⟨p.line + 1, 1⟩ else ⟨p.line, p.column + 1⟩

/-- The place right after a text. -/
def after (t : Text) : Position :=
  t.foldl next {}

/-- The place of an offset into a text.  An offset past the end counts on in the last line. -/
def ofOffset (t : Text) (offset : Nat) : Position :=
  let p := after (t.take offset)
  { p with column := p.column + (offset - t.length) }

/-- The lines of a text: it is cut at every newline. -/
def lines : Text → List Text
  | [] => [[]]
  | c :: t =>
    if c = .newline then [] :: lines t
    else match lines t with
      | [] => [[c]]
      | line :: rest => (c :: line) :: rest

@[simp] theorem after_nil : after [] = {} := rfl

theorem after_append_singleton (t : Text) (c : CodePoint) :
    after (t ++ [c]) = (after t).next c := by
  simp [after]

theorem foldl_next_pos (t : Text) {p : Position} (hl : 1 ≤ p.line) (hc : 1 ≤ p.column) :
    1 ≤ (t.foldl next p).line ∧ 1 ≤ (t.foldl next p).column := by
  induction t generalizing p with
  | nil => exact ⟨hl, hc⟩
  | cons c t ih =>
    apply ih
    · unfold next
      split <;> dsimp only <;> omega
    · unfold next
      split <;> dsimp only <;> omega

/-- Lines are counted from one. -/
theorem one_le_line_ofOffset (t : Text) (offset : Nat) : 1 ≤ (ofOffset t offset).line :=
  (foldl_next_pos (t.take offset) (Nat.le_refl 1) (Nat.le_refl 1)).1

/-- Columns are counted from one. -/
theorem one_le_column_ofOffset (t : Text) (offset : Nat) : 1 ≤ (ofOffset t offset).column :=
  Nat.le_add_right_of_le (foldl_next_pos (t.take offset) (Nat.le_refl 1) (Nat.le_refl 1)).2

end Position

end Lexeme
