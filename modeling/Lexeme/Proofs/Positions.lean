/-
# Places in a text

A place in a text can be given by its offset, or by its line and its column.  The position of an
offset is found in one pass over the text before it, which starts a line anew at every newline.
The other way is arithmetic, `Position.offset`: the code points of all lines before, each with its
newline, and those before the column.

The main result, `Position.positions_biject`, says that the two ways are inverse to each other.  The
positions of the offsets are exactly the places that lie in the lines of the text, each of them is
the position of one offset only, and greater offsets have later positions.

The pass is followed by an invariant, `Position.Cuts`: where it has come to, the lines of the text
are those that are complete, then what the current line has so far, and then what the lines of the
remaining text add.
-/
import Lexeme.Proofs.Moves
import Mathlib.Data.List.Induction

namespace Lexeme

namespace Position

variable {t rest : Text} {c : CodePoint} {p q : Position} {ls : List Text} {line : Text}

/-! ## The lines of a text -/

lemma lines_ne_nil (t : Text) : lines t ≠ [] := by
  cases t with
  | nil => simp [lines]
  | cons c t =>
    simp only [lines]
    split
    · simp
    · split <;> simp

lemma lines_newline (t : Text) : lines (.newline :: t) = [] :: lines t := by
  simp [lines]

lemma lines_cons_of_ne (hc : c ≠ .newline) (t : Text) :
    lines (c :: t) = (lines t).modifyHead (c :: ·) := by
  obtain ⟨line, more, hlines⟩ := List.exists_cons_of_ne_nil (lines_ne_nil t)
  simp [lines, hc, hlines]

/-- The lines of a text are its pieces between the newlines. -/
lemma lines_eq_splitOn (t : Text) : lines t = t.splitOn .newline := by
  induction t with
  | nil => simp [lines]
  | cons c t ih =>
    by_cases hc : c = .newline
    · subst hc
      rw [lines_newline, List.splitOn_cons_eq_if_modifyHead, ih]
      simp
    · rw [lines_cons_of_ne hc, List.splitOn_cons_eq_if_modifyHead, ih]
      simp [hc]

/-- The number of code points of some lines, each with the newline that ends it. -/
def extent : List Text → Nat
  | [] => 0
  | line :: ls => line.length + 1 + extent ls

lemma extent_append (ls ms : List Text) : extent (ls ++ ms) = extent ls + extent ms := by
  induction ls with
  | nil => simp [extent]
  | cons line ls ih => simp only [List.cons_append, extent, ih, Nat.add_assoc]

/-- What stands in front of the first line is counted with it. -/
lemma extent_modifyHead (left : Text) (hne : ls ≠ []) :
    extent (ls.modifyHead (left ++ ·)) = left.length + extent ls := by
  cases ls with
  | nil => exact absurd rfl hne
  | cons line ls =>
    simp only [List.modifyHead_cons, extent, List.length_append]
    omega

/-- The last line has no newline, and so one more than the text is counted. -/
lemma extent_lines (t : Text) : extent (lines t) = t.length + 1 := by
  induction t with
  | nil => rfl
  | cons c t ih =>
    by_cases hc : c = .newline
    · subst hc
      rw [lines_newline, extent, ih, List.length_cons, List.length_nil]
      omega
    · have hhead : extent ((lines t).modifyHead (c :: ·)) = 1 + extent (lines t) :=
        extent_modifyHead [c] (lines_ne_nil t)
      rw [lines_cons_of_ne hc, hhead, ih, List.length_cons]
      omega

lemma extent_take_succ {i : Nat} (hline : ls[i]? = some line) :
    extent (ls.take (i + 1)) = extent (ls.take i) + line.length + 1 := by
  rw [List.take_add_one, hline, extent_append]
  simp [extent, Nat.add_assoc]

lemma extent_take_mono {i j : Nat} (h : i ≤ j) : extent (ls.take i) ≤ extent (ls.take j) := by
  obtain ⟨k, rfl⟩ := Nat.exists_eq_add_of_le h
  rw [List.take_add, extent_append]
  exact Nat.le_add_right _ _

lemma extent_take_le (ls : List Text) (i : Nat) : extent (ls.take i) ≤ extent ls := by
  conv_rhs => rw [← List.take_append_drop i ls, extent_append]
  exact Nat.le_add_right _ _

/-! ## Places that lie in lines -/

/-- The offset of a place: what the lines before it count, and the columns before it. -/
def offset (ls : List Text) (p : Position) : Nat :=
  extent (ls.take (p.line - 1)) + (p.column - 1)

/-- The place stands at a code point of its line, or at the end of the line. -/
structure Within (ls : List Text) (p : Position) : Prop where
  one_le_line : 1 ≤ p.line
  line_le : p.line ≤ ls.length
  one_le_column : 1 ≤ p.column
  column_le : ∃ line, ls[p.line - 1]? = some line ∧ p.column ≤ line.length + 1

/-- The place comes earlier: in an earlier line, or further to the left in the same line. -/
def Before (p q : Position) : Prop :=
  p.line < q.line ∨ p.line = q.line ∧ p.column < q.column

lemma before_trichotomy (p q : Position) : p.Before q ∨ p = q ∨ q.Before p := by
  obtain ⟨l, c⟩ := p
  obtain ⟨m, d⟩ := q
  simp only [Before, mk.injEq]
  omega

/-- A place in a line comes before everything that is counted after that line. -/
lemma Within.offset_lt_extent (h : p.Within ls) : p.offset ls < extent (ls.take p.line) := by
  obtain ⟨line, hline, hcolumn⟩ := h.column_le
  have hl := h.one_le_line
  have hc := h.one_le_column
  have hsucc := extent_take_succ hline
  rw [Nat.sub_add_cancel hl] at hsucc
  rw [hsucc, offset]
  omega

/-- Of two places, the earlier one has the smaller offset. -/
lemma Within.offset_lt (hp : p.Within ls) (h : p.Before q) : p.offset ls < q.offset ls := by
  have hcolumn := hp.one_le_column
  rcases h with hline | ⟨hline, hlt⟩
  · calc p.offset ls < extent (ls.take p.line) := hp.offset_lt_extent
      _ ≤ extent (ls.take (q.line - 1)) := extent_take_mono (by omega)
      _ ≤ q.offset ls := Nat.le_add_right _ _
  · rw [offset, offset, hline]
    omega

lemma Within.eq_of_offset_eq (hp : p.Within ls) (hq : q.Within ls)
    (h : p.offset ls = q.offset ls) : p = q := by
  rcases before_trichotomy p q with hbefore | heq | hbefore
  · have hlt := hp.offset_lt hbefore
    omega
  · exact heq
  · have hlt := hq.offset_lt hbefore
    omega

lemma Within.offset_le_length (h : p.Within (lines t)) : p.offset (lines t) ≤ t.length := by
  have hlt := h.offset_lt_extent
  have hle := extent_take_le (lines t) p.line
  rw [extent_lines] at hle
  omega

/-! ## The pass over a text -/

/-- The pass stands at `p`, and `rest` is still to come.  The lines are then the complete ones, and
after them the lines of the rest, the first of which continues what is `left` of the place. -/
def Cuts (ls : List Text) (rest : Text) (p : Position) : Prop :=
  ∃ complete left, ls = complete ++ (lines rest).modifyHead (left ++ ·) ∧
    p.line = complete.length + 1 ∧ p.column = left.length + 1

namespace Cuts

lemma start (t : Text) : Cuts (lines t) t {} := by
  refine ⟨[], [], ?_, rfl, rfl⟩
  obtain ⟨line, more, hlines⟩ := List.exists_cons_of_ne_nil (lines_ne_nil t)
  rw [hlines]
  rfl

/-- One code point on, the current line has grown by it, or is complete and a new one begins. -/
lemma step (h : Cuts ls (c :: rest) p) : Cuts ls rest (p.next c) := by
  obtain ⟨complete, left, hls, hline, hcolumn⟩ := h
  obtain ⟨line, more, hlines⟩ := List.exists_cons_of_ne_nil (lines_ne_nil rest)
  by_cases hc : c = .newline
  · subst hc
    refine ⟨complete ++ [left], [], ?_, ?_, ?_⟩
    · rw [hls, lines_newline, hlines]
      simp
    · simp [next, hline]
    · simp [next]
  · refine ⟨complete, left ++ [c], ?_, ?_, ?_⟩
    · rw [hls, lines_cons_of_ne hc, hlines]
      simp
    · simp [next, hc, hline]
    · simp [next, hc, hcolumn]

/-- So the invariant holds after every part of the text. -/
lemma run (h : Cuts ls (t ++ rest) p) : Cuts ls rest (t.foldl next p) := by
  induction t generalizing p with
  | nil => exact h
  | cons c t ih => exact ih h.step

/-- The place to which the pass has come lies in the lines. -/
lemma within (h : Cuts ls rest p) : p.Within ls := by
  obtain ⟨complete, left, rfl, hline, hcolumn⟩ := h
  obtain ⟨line, more, hlines⟩ := List.exists_cons_of_ne_nil (lines_ne_nil rest)
  rw [hlines]
  refine ⟨by omega, ?_, by omega, left ++ line, ?_, ?_⟩
  · simp only [List.modifyHead_cons, List.length_append, List.length_cons]
    omega
  · simp [hline]
  · simp only [List.length_append]
    omega

/-- Its offset is what the pass has left behind. -/
lemma offset_add_length (h : Cuts (lines t) rest p) :
    p.offset (lines t) + rest.length = t.length := by
  obtain ⟨complete, left, hls, hline, hcolumn⟩ := h
  have hextent := extent_lines t
  rw [hls, extent_append, extent_modifyHead left (lines_ne_nil rest), extent_lines] at hextent
  rw [offset, hls, hline, hcolumn, Nat.add_sub_cancel, List.take_left, Nat.add_sub_cancel]
  omega

end Cuts

lemma ofOffset_of_le {n : Nat} (hn : n ≤ t.length) : ofOffset t n = after (t.take n) := by
  simp only [ofOffset, Nat.sub_eq_zero_of_le hn, Nat.add_zero]

/-- The position of an offset lies in the lines, and the offset can be computed from it. -/
lemma ofOffset_within {n : Nat} (hn : n ≤ t.length) :
    (ofOffset t n).Within (lines t) ∧ (ofOffset t n).offset (lines t) = n := by
  have hcuts : Cuts (lines t) (t.drop n) (ofOffset t n) := by
    rw [ofOffset_of_le hn]
    refine Cuts.run ?_
    rw [List.take_append_drop]
    exact Cuts.start t
  have hlength := hcuts.offset_add_length
  rw [List.length_drop] at hlength
  exact ⟨hcuts.within, by omega⟩

/-- The pass counts the newlines, and the code points since the last one of them. -/
lemma after_counts (t : Text) :
    (after t).line = t.count .newline + 1 ∧
      ∃ line, .newline ∉ line ∧ (t = line ∨ ∃ above, t = above ++ .newline :: line) ∧
        (after t).column = line.length + 1 := by
  induction t using List.reverseRecOn with
  | nil => exact ⟨rfl, [], by simp, Or.inl rfl, rfl⟩
  | append_singleton t c ih =>
    obtain ⟨hline, line, hfree, hsplit, hcolumn⟩ := ih
    rw [after_append_singleton, List.count_append]
    by_cases hc : c = .newline
    · subst hc
      exact ⟨by simp [next, hline], [], by simp, Or.inr ⟨t, rfl⟩, by simp [next]⟩
    · refine ⟨by simp [next, hc, hline], line ++ [c], ?_, ?_, by simp [next, hc, hcolumn]⟩
      · simp [hfree, Ne.symm hc]
      · rcases hsplit with rfl | ⟨above, rfl⟩
        · exact Or.inl rfl
        · exact Or.inr ⟨above, by simp⟩

/-! ## Offsets and positions -/

lemma exists_atOffset {source : Source} {n : Nat} (hn : n ≤ source.text.length) :
    ∃ c, Cursor.atOffset source n = .ok c ∧ c.position = ofOffset source.text n := by
  refine ⟨Cursor.place source n (Text.encodedSize (source.text.take n)), ?_, rfl⟩
  simp [Cursor.atOffset, hn]

lemma position_of_atOffset {source : Source} {n : Nat} {c : Cursor}
    (h : Cursor.atOffset source n = .ok c) :
    n ≤ source.text.length ∧ c.position = ofOffset source.text n := by
  obtain ⟨hn, rfl⟩ := Cursor.of_atOffset h
  exact ⟨hn, rfl⟩

/-- **Offsets and positions correspond to each other.**  A cursor can be placed at every offset into
a source, and its position lies in the lines of the source; the line is one more than the number of
newlines before the cursor, and the column one more than the number of code points since the last
one of them.  The offset can be computed back from the position.  Every place in the lines is the
position of exactly one offset, and greater offsets have later positions. -/
theorem positions_biject (source : Source) :
    (∀ n : Nat, n ≤ source.text.length → ∃ c, Cursor.atOffset source n = .ok c ∧
      c.position.Within (source.text.splitOn .newline) ∧
      n = extent ((source.text.splitOn .newline).take (c.position.line - 1)) +
        (c.position.column - 1) ∧
      c.position.line = (source.text.take n).count .newline + 1 ∧
      ∃ line, .newline ∉ line ∧
        (source.text.take n = line ∨ ∃ above, source.text.take n = above ++ .newline :: line) ∧
        c.position.column = line.length + 1) ∧
    (∀ p : Position, p.Within (source.text.splitOn .newline) →
      ∃! n : Nat, ∃ c, Cursor.atOffset source n = .ok c ∧ c.position = p) ∧
    ∀ (m n : Nat) (c d : Cursor), Cursor.atOffset source m = .ok c →
      Cursor.atOffset source n = .ok d → (m < n ↔ c.position.Before d.position) := by
  rw [← lines_eq_splitOn]
  refine ⟨?_, ?_, ?_⟩
  · intro n hn
    obtain ⟨c, hc, hposition⟩ := exists_atOffset hn
    obtain ⟨hwithin, hoffset⟩ := ofOffset_within hn
    have hcounts := after_counts (source.text.take n)
    rw [← ofOffset_of_le hn] at hcounts
    rw [← hposition] at hwithin hoffset hcounts
    exact ⟨c, hc, hwithin, hoffset.symm, hcounts⟩
  · intro p hp
    obtain ⟨c, hc, hposition⟩ := exists_atOffset hp.offset_le_length
    obtain ⟨hwithin, hoffset⟩ := ofOffset_within hp.offset_le_length
    refine ⟨p.offset (lines source.text), ⟨c, hc, ?_⟩, ?_⟩
    · rw [hposition]
      exact hwithin.eq_of_offset_eq hp hoffset
    · rintro n ⟨d, hd, rfl⟩
      obtain ⟨hn, hposition'⟩ := position_of_atOffset hd
      rw [hposition', (ofOffset_within hn).2]
  · intro m n c d hc hd
    obtain ⟨hm, hcposition⟩ := position_of_atOffset hc
    obtain ⟨hn, hdposition⟩ := position_of_atOffset hd
    obtain ⟨hcwithin, hcoffset⟩ := ofOffset_within hm
    obtain ⟨hdwithin, hdoffset⟩ := ofOffset_within hn
    rw [hcposition, hdposition]
    constructor
    · intro hlt
      -- an equal or a later place would have an equal or a greater offset
      rcases before_trichotomy (ofOffset source.text m) (ofOffset source.text n) with
        hbefore | heq | hbefore
      · exact hbefore
      · rw [heq, hdoffset] at hcoffset
        omega
      · have hgt := hdwithin.offset_lt hbefore
        omega
    · intro hbefore
      have hlt := hcwithin.offset_lt hbefore
      omega

/-- A source with an empty line between two others. -/
def gapped : Source := ⟨0, Text.ofString "a\n\nbc"⟩

/-- Its end is the third place of the third line, its empty line has one place only, and that comes
after the end of the first line. -/
theorem positions_biject_gapped :
    gapped.text.splitOn .newline = [Text.ofString "a", [], Text.ofString "bc"] ∧
    (∃ c, Cursor.atOffset gapped (5 : Nat) = .ok c ∧ c.position = ⟨3, 3⟩ ∧
      c.position.Within (gapped.text.splitOn .newline)) ∧
    (∃! n : Nat, ∃ c, Cursor.atOffset gapped n = .ok c ∧ c.position = ⟨2, 1⟩) ∧
    ∃ c d, Cursor.atOffset gapped (1 : Nat) = .ok c ∧ Cursor.atOffset gapped (2 : Nat) = .ok d ∧
      d.position = ⟨2, 1⟩ ∧ c.position.Before d.position := by
  have hlines : gapped.text.splitOn .newline = [Text.ofString "a", [], Text.ofString "bc"] := by
    rw [← lines_eq_splitOn]
    rfl
  obtain ⟨hplaced, hunique, hordered⟩ := positions_biject gapped
  obtain ⟨c, hc, hwithin, -⟩ := hplaced 5 (Nat.le_refl 5)
  have hend : Cursor.atOffset gapped (5 : Nat) = .ok (.place gapped 5 5) := rfl
  have hposition : c.position = ⟨3, 3⟩ := by
    rw [hend, Except.ok.injEq] at hc
    subst hc
    rfl
  have hempty : (⟨2, 1⟩ : Position).Within (gapped.text.splitOn .newline) := by
    rw [hlines]
    exact ⟨by decide, by decide, by decide, [], rfl, by decide⟩
  have hfirst : Cursor.atOffset gapped (1 : Nat) = .ok (.place gapped 1 1) := rfl
  have hsecond : Cursor.atOffset gapped (2 : Nat) = .ok (.place gapped 2 2) := rfl
  exact ⟨hlines, ⟨c, hc, hposition, hwithin⟩, hunique ⟨2, 1⟩ hempty, _, _, hfirst, hsecond, rfl,
    (hordered 1 2 _ _ hfirst hsecond).1 (by decide)⟩

end Position

end Lexeme
