/-
# Moves of a cursor

A cursor moves by four operations: one code point on, past a literal, past a run, and past a
number of code points.  They measure the octets of what they pass in different ways, by widths
and by writing, but each of them only skips some of the code points that remain, `Cursor.skip`.
A cursor *reaches* another one if moves lead from the one to the other.  The main results are

* `Cursor.reaches_iff_skip`: a cursor reaches exactly the cursors that skip some of what remains;
* `Cursor.exact_iff_atOffset`: a cursor is exact if and only if it is the one that is placed
  afresh at its offset;
* `Cursor.Exact.reaches`: what an exact cursor reaches is exact.
-/
import Lexeme.Cursor
import Mathlib.Logic.Relation

namespace Lexeme

namespace Text

lemma width_take_add (t : Text) (m n : Nat) :
    width (t.take (m + n)) = width (t.take m) + width ((t.drop m).take n) := by
  rw [List.take_add, width_append]

lemma width_eq_zero_iff {t : Text} : width t = 0 ↔ t = [] := by
  cases t with
  | nil => simp
  | cons c t =>
    have hc := c.width_pos
    simp only [width_cons, reduceCtorEq, iff_false]
    omega

end Text

namespace Cursor

variable {c d e : Cursor}

/-! ## Skipping code points -/

/-- The cursor past the next `n` code points, with their widths added up. -/
def skip (c : Cursor) (n : Nat) : Cursor :=
  c.advance n (Text.width (c.rest.take n))

@[simp] lemma skip_source (c : Cursor) (n : Nat) : (c.skip n).source = c.source := rfl

@[simp] lemma skip_pos (c : Cursor) (n : Nat) : (c.skip n).pos = c.pos + n := rfl

@[simp] lemma skip_bytePos (c : Cursor) (n : Nat) :
    (c.skip n).bytePos = c.bytePos + Text.width (c.rest.take n) := rfl

@[simp] lemma skip_rest (c : Cursor) (n : Nat) : (c.skip n).rest = c.rest.drop n := rfl

@[simp] lemma skip_zero (c : Cursor) : c.skip 0 = c :=
  Cursor.ext rfl rfl (by simp)

lemma skip_skip (c : Cursor) (m n : Nat) : (c.skip m).skip n = c.skip (m + n) := by
  refine Cursor.ext rfl (by simp [Nat.add_assoc]) ?_
  simp only [skip_bytePos, skip_rest, Text.width_take_add, Nat.add_assoc]

lemma length_rest (c : Cursor) : c.rest.length = c.source.text.length - c.pos := by
  rw [c.rest_eq, List.length_drop]

/-- The text before a cursor grows by what is skipped. -/
lemma take_skip (c : Cursor) (n : Nat) :
    (c.skip n).source.text.take (c.skip n).pos = c.source.text.take c.pos ++ c.rest.take n := by
  rw [skip_source, skip_pos, List.take_add, c.rest_eq]

/-! ## Each move skips some of what remains, and records it -/

lemma bump_eq_ok_iff : c.bump = .ok d ↔ 1 ≤ c.rest.length ∧ d = c.skip 1 := by
  rcases hr : c.rest with _ | ⟨x, t⟩
  · simp [bump, hr]
  · simp [bump, hr, skip, eq_comm]

/-- The octets of a literal are counted by writing it, those that are skipped by their widths. -/
lemma take_of_prefix {literal : Text} (hne : literal ≠ []) (h : literal <+: c.rest) :
    c.take literal = (.ofText literal, c.skip literal.length) := by
  simp [take, hne, List.isPrefixOf_iff_prefix.2 h, skip, Text.encodedSize_eq_width,
    ← List.prefix_iff_eq_take.1 h]

lemma take_of_not_prefix {literal : Text} (h : ¬ literal <+: c.rest) :
    c.take literal = (.zero, c) := by
  simp [take, List.isPrefixOf_iff_prefix, h]

lemma take_skips (c : Cursor) (literal : Text) :
    ∃ n ≤ c.rest.length, c.take literal = (.ofText (c.rest.take n), c.skip n) := by
  by_cases hprefix : literal <+: c.rest
  · by_cases hne : literal = []
    · subst hne
      exact ⟨0, Nat.zero_le _, by rw [skip_zero]; rfl⟩
    · have htake := take_of_prefix hne hprefix
      refine ⟨literal.length, hprefix.length_le, ?_⟩
      rw [htake, ← List.prefix_iff_eq_take.1 hprefix]
  · have htake := take_of_not_prefix hprefix
    exact ⟨0, Nat.zero_le _, by rw [htake, skip_zero]; rfl⟩

/-- A run is measured by its length and by the sum of its widths. -/
lemma measure_eq_ok {test : CharTest} {t : Text} {m w l v : Nat}
    (h : test.measure m w t = .ok (l, v)) :
    ∃ n ≤ t.length, l = m + n ∧ v = w + Text.width (t.take n) := by
  induction t generalizing m w with
  | nil =>
    simp only [CharTest.measure, Except.ok.injEq, Prod.mk.injEq] at h
    exact ⟨0, Nat.zero_le _, h.1.symm, by simpa using h.2.symm⟩
  | cons x t ih =>
    simp only [CharTest.measure] at h
    split at h
    · exact absurd h (by simp)
    · simp only [Except.ok.injEq, Prod.mk.injEq] at h
      exact ⟨0, Nat.zero_le _, h.1.symm, by simpa using h.2.symm⟩
    · -- the code point was accepted, and the counts go on with it added
      obtain ⟨n, hn, hl, hv⟩ := ih h
      refine ⟨n + 1, Nat.succ_le_succ hn, by omega, ?_⟩
      rw [hv, List.take_succ_cons, Text.width_cons, Nat.add_assoc]

lemma takeWhile_eq_ok {test : CharTest} {r : Consumed} (h : c.takeWhile test = .ok (r, d)) :
    ∃ n ≤ c.rest.length, r = .ofText (c.rest.take n) ∧ d = c.skip n := by
  simp only [takeWhile] at h
  split at h
  · exact absurd h (by simp)
  · rename_i l v hm
    obtain ⟨n, hn, hl, hv⟩ := measure_eq_ok hm
    simp only [Nat.zero_add] at hl hv
    subst hl; subst hv
    simp only [Except.ok.injEq, Prod.mk.injEq] at h
    refine ⟨l, hn, ?_, h.2.symm⟩
    rw [Consumed.ofText_eq, List.length_take, Nat.min_eq_left hn]
    exact h.1.symm

lemma consume_of_pos_le {n : Nat} (h : c.pos + n ≤ c.source.text.length) :
    c.consume n = .ok (.ofText (c.rest.take n), c.skip n) := by
  have hlen := c.length_rest
  have hn : n ≤ c.rest.length := by omega
  have hfit : ¬ ((n : Int) < 0 ∨ c.remaining < n) := by
    simp only [remaining]
    omega
  simp [consume, hfit, skip, Nat.min_eq_left hn, Text.encodedSize_eq_width]

lemma consume_of_le {n : Nat} (hpos : 0 < n) (hn : n ≤ c.rest.length) :
    c.consume n = .ok (.ofText (c.rest.take n), c.skip n) := by
  have hlen := c.length_rest
  exact consume_of_pos_le (by omega)

lemma consume_eq_ok {n : Int} {r : Consumed} (h : c.consume n = .ok (r, d)) :
    ∃ m ≤ c.rest.length, r = .ofText (c.rest.take m) ∧ d = c.skip m := by
  by_cases hn : n < 0 ∨ c.remaining < n
  · simp [consume, hn] at h
  · have hlen := c.length_rest
    have hfit : c.pos + n.toNat ≤ c.source.text.length := by
      simp only [remaining] at hn
      omega
    have hok := consume_of_pos_le hfit
    rw [Int.toNat_of_nonneg (by omega), h, Except.ok.injEq, Prod.mk.injEq] at hok
    exact ⟨n.toNat, by omega, hok⟩

/-! ## Runs of code points with a property -/

lemma take_length_takeWhile (p : CodePoint → Bool) (t : Text) :
    t.take (t.takeWhile p).length = t.takeWhile p :=
  (List.prefix_iff_eq_take.1 (List.takeWhile_prefix p)).symm

lemma measure_ofBool (p : CodePoint → Bool) (m w : Nat) (t : Text) :
    (CharTest.ofBool p).measure m w t =
      .ok (m + (t.takeWhile p).length, w + Text.width (t.takeWhile p)) := by
  induction t generalizing m w with
  | nil => rfl
  | cons x t ih =>
    rcases hx : p x with _ | _
    · simp [CharTest.measure, CharTest.ofBool, hx]
    · simp only [CharTest.measure, CharTest.ofBool, hx, List.takeWhile_cons, if_true,
        List.length_cons, Text.width_cons, ← Nat.add_assoc]
      rw [Nat.add_right_comm m]
      exact ih (m + 1) (w + x.width)

lemma takeWhile_ofBool (c : Cursor) (p : CodePoint → Bool) :
    c.takeWhile (.ofBool p) =
      .ok (.ofText (c.rest.takeWhile p), c.skip (c.rest.takeWhile p).length) := by
  simp only [takeWhile, measure_ofBool, Nat.zero_add, Consumed.ofText_eq, skip,
    take_length_takeWhile]

/-! ## Reaching another cursor -/

/-- One move: an operation that moves the cursor, when it succeeds. -/
inductive Move (c : Cursor) : Cursor → Prop
  | bump {d : Cursor} (h : c.bump = .ok d) : Move c d
  | take (literal : Text) : Move c (c.take literal).2
  | takeWhile {test : CharTest} {r : Consumed} {d : Cursor} (h : c.takeWhile test = .ok (r, d)) :
      Move c d
  | consume {n : Int} {r : Consumed} {d : Cursor} (h : c.consume n = .ok (r, d)) : Move c d

/-- The cursors that moves lead to. -/
def Reaches : Cursor → Cursor → Prop := Relation.ReflTransGen Move

lemma Reaches.refl (c : Cursor) : c.Reaches c := Relation.ReflTransGen.refl

lemma Reaches.trans (h₁ : c.Reaches d) (h₂ : d.Reaches e) : c.Reaches e :=
  Relation.ReflTransGen.trans h₁ h₂

lemma Move.reaches (h : c.Move d) : c.Reaches d := Relation.ReflTransGen.single h

lemma Move.skips (h : c.Move d) : ∃ n ≤ c.rest.length, d = c.skip n := by
  cases h with
  | bump h => exact ⟨1, bump_eq_ok_iff.1 h⟩
  | take literal =>
    obtain ⟨n, hn, htake⟩ := take_skips c literal
    exact ⟨n, hn, by rw [htake]⟩
  | takeWhile h =>
    obtain ⟨n, hn, -, hd⟩ := takeWhile_eq_ok h
    exact ⟨n, hn, hd⟩
  | consume h =>
    obtain ⟨n, hn, -, hd⟩ := consume_eq_ok h
    exact ⟨n, hn, hd⟩

/-- Skipping what remains is possible one code point at a time. -/
lemma reaches_skip {n : Nat} (hn : n ≤ c.rest.length) : c.Reaches (c.skip n) := by
  induction n with
  | zero => rw [skip_zero]; exact .refl c
  | succ n ih =>
    have hstep : (c.skip n).bump = .ok ((c.skip n).skip 1) := by
      rw [bump_eq_ok_iff]
      refine ⟨?_, rfl⟩
      rw [skip_rest, List.length_drop]
      omega
    rw [skip_skip] at hstep
    exact (ih (by omega)).trans (Move.bump hstep).reaches

/-- **Moves only skip.**  A cursor reaches exactly the cursors that skip some of the code points
that remain, whatever the moves were. -/
theorem reaches_iff_skip : c.Reaches d ↔ ∃ n ≤ c.rest.length, d = c.skip n := by
  constructor
  · intro h
    induction h with
    | refl => exact ⟨0, Nat.zero_le _, (skip_zero c).symm⟩
    | tail _ hmove ih =>
      -- two skips, one after the other, are one
      obtain ⟨m, hm, rfl⟩ := ih
      obtain ⟨n, hn, rfl⟩ := hmove.skips
      rw [skip_rest, List.length_drop] at hn
      exact ⟨m + n, by omega, skip_skip c m n⟩
  · rintro ⟨n, hn, rfl⟩
    exact reaches_skip hn

/-- Moves stay in the buffer, and never lead back. -/
lemma Reaches.monotone (h : c.Reaches d) :
    d.source = c.source ∧ c.pos ≤ d.pos ∧ c.bytePos ≤ d.bytePos := by
  obtain ⟨n, -, rfl⟩ := reaches_iff_skip.1 h
  exact ⟨rfl, Nat.le_add_right _ _, Nat.le_add_right _ _⟩

/-! ## Measuring what was skipped -/

lemma follows_eq_ok_iff : d.follows c = .ok () ↔ d.source = c.source ∧ c.pos ≤ d.pos := by
  simp only [follows]
  by_cases hs : c.source = d.source
  · by_cases hp : d.pos < c.pos <;> simp [hs, hp, Nat.le_of_not_lt]
  · simp [hs, eq_comm]

lemma distanceSince_of_follows (h : d.follows c = .ok ()) :
    d.distanceSince c = .ok ⟨d.pos - c.pos, d.bytePos - c.bytePos⟩ := by
  rw [distanceSince, h]
  rfl

lemma textSince_of_follows (h : d.follows c = .ok ()) :
    d.textSince c = .ok (c.rest.take (d.pos - c.pos)) := by
  rw [textSince, h]
  rfl

lemma follows_skip (c : Cursor) (n : Nat) : (c.skip n).follows c = .ok () :=
  follows_eq_ok_iff.2 ⟨rfl, Nat.le_add_right _ _⟩

lemma textSince_skip (c : Cursor) (n : Nat) : (c.skip n).textSince c = .ok (c.rest.take n) := by
  rw [textSince_of_follows (follows_skip c n), skip_pos, Nat.add_sub_cancel_left]

/-- The counters of two cursors tell what was skipped between them. -/
lemma distanceSince_skip {n : Nat} (hn : n ≤ c.rest.length) :
    (c.skip n).distanceSince c = .ok (.ofText (c.rest.take n)) := by
  have hchars : ((c.pos + n : Nat) : Int) - c.pos = n := by omega
  have hbytes (w : Nat) : ((c.bytePos + w : Nat) : Int) - c.bytePos = w := by omega
  rw [distanceSince_of_follows (follows_skip c n), Consumed.ofText_eq, List.length_take,
    Nat.min_eq_left hn, skip_pos, skip_bytePos, hchars, hbytes]

/-! ## Exact cursors -/

/-- A cursor inside its source that knows how many octets lie before it. -/
structure Exact (c : Cursor) : Prop where
  pos_le : c.pos ≤ c.source.text.length
  bytePos_eq : c.bytePos = Text.width (c.source.text.take c.pos)

/-- A cursor is exact if and only if it is the one that is placed afresh at its offset. -/
theorem exact_iff_atOffset : c.Exact ↔ atOffset c.source c.pos = .ok c := by
  have hfresh (hpos : c.pos ≤ c.source.text.length) : atOffset c.source c.pos =
      .ok (place c.source c.pos (Text.width (c.source.text.take c.pos))) := by
    simp [atOffset, hpos, Text.encodedSize_eq_width]
  constructor
  · rintro ⟨hpos, hbytes⟩
    rw [hfresh hpos, ← hbytes]
    exact congrArg Except.ok (Cursor.ext rfl rfl rfl)
  · intro h
    by_cases hpos : c.pos ≤ c.source.text.length
    · rw [hfresh hpos, Except.ok.injEq] at h
      exact ⟨hpos, (congrArg Cursor.bytePos h).symm⟩
    · simp [atOffset, hpos] at h

lemma of_atOffset {source : Source} {p : Nat} (h : atOffset source p = .ok c) :
    p ≤ source.text.length ∧ c = place source p (Text.encodedSize (source.text.take p)) := by
  simp only [atOffset, Int.toNat_natCast] at h
  split at h
  · rename_i hp
    cases h
    exact ⟨by omega, rfl⟩
  · cases h

/-- A cursor that can be placed is exact. -/
lemma exact_of_atOffset {source : Source} {pos : Int} (h : atOffset source pos = .ok c) :
    c.Exact := by
  simp only [atOffset] at h
  split at h
  · rename_i hpos
    rw [Except.ok.injEq] at h
    subst h
    refine ⟨?_, Text.encodedSize_eq_width _⟩
    show pos.toNat ≤ source.text.length
    omega
  · exact absurd h (by simp)

lemma Exact.skip (h : c.Exact) {n : Nat} (hn : n ≤ c.rest.length) : (c.skip n).Exact := by
  have hlen := c.length_rest
  have hpos := h.pos_le
  refine ⟨?_, ?_⟩
  · rw [skip_source, skip_pos]
    omega
  · rw [take_skip, Text.width_append, skip_bytePos, h.bytePos_eq]

/-- What an exact cursor reaches is exact. -/
theorem Exact.reaches (h : c.Exact) (hd : c.Reaches d) : d.Exact := by
  obtain ⟨n, hn, rfl⟩ := reaches_iff_skip.1 hd
  exact h.skip hn

end Cursor

end Lexeme
