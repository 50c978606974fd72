/-
# Records add up

How much was consumed between two cursors can be found in three ways: the calls that led from the
one to the other have each returned a record, the counters of the two cursors can be subtracted,
and the text between the cursors can be measured.  The first way adds up what was measured partly by
widths and partly by writing; the second way looks at no text at all; the third way looks at the
text as a whole.  By `Cursor.records_add_up` they agree for every sequence of calls, whichever of
them fail, and the text between the cursors is what is missing from the remaining text.

The reason is that every call skips some code points and returns their record,
`Cursor.perform_skips`, and that records of texts add up as texts are put together,
`Consumed.ofText_append`.
-/
import Lexeme.Proofs.Octets

namespace Lexeme

/-! ## Adding records -/

namespace Consumed

lemma ofText_nil : ofText [] = zero := rfl

lemma ofText_append (s t : Text) : ofText (s ++ t) = ofText s + ofText t := by
  simp only [ofText_eq, List.length_append, Text.width_append]
  ext
  · simp
  · simp

/-- The sum of some records. -/
def total : List Consumed → Consumed
  | [] => zero
  | r :: records => r + total records

end Consumed

namespace Cursor

variable {c d : Cursor}

/-! ## Calls of the moving operations -/

/-- A call of one of the operations that move a cursor. -/
inductive Operation where
  | bump
  | take (literal : Text)
  | takeWhile (test : CharTest)
  | consume (n : Int)

/-- The record of a call, and the cursor after it.  A move by one code point counts as the record of
that code point.  A call that fails records nothing and leaves the cursor. -/
def perform (c : Cursor) : Operation → Consumed × Cursor
  | .bump =>
    match c.peek, c.bump with
    | .ok x, .ok d => (.ofText [x], d)
    | _, _ => (.zero, c)
  | .take literal => c.take literal
  | .takeWhile test =>
    match c.takeWhile test with
    | .ok (r, d) => (r, d)
    | .error _ => (.zero, c)
  | .consume n =>
    match c.consume n with
    | .ok (r, d) => (r, d)
    | .error _ => (.zero, c)

/-- The records of calls that are made one after the other, and the cursor after the last one. -/
def performAll (c : Cursor) : List Operation → List Consumed × Cursor
  | [] => ([], c)
  | operation :: operations =>
    let (r, d) := c.perform operation
    let (records, last) := d.performAll operations
    (r :: records, last)

/-- A call records what it skips, also where it fails. -/
lemma perform_skips (c : Cursor) (operation : Operation) :
    ∃ n ≤ c.rest.length, c.perform operation = (.ofText (c.rest.take n), c.skip n) := by
  have hfails : (Consumed.zero, c) = (.ofText (c.rest.take 0), c.skip 0) := by
    rw [List.take_zero, skip_zero, Consumed.ofText_nil]
  cases operation with
  | bump =>
    rcases hrest : c.rest with _ | ⟨x, rest⟩
    · exact ⟨0, Nat.zero_le _, by simpa [perform, peek, hrest] using hfails⟩
    · have hbump : c.bump = .ok (c.skip 1) := bump_eq_ok_iff.2 ⟨by simp [hrest], rfl⟩
      exact ⟨1, by simp, by simp [perform, peek, hrest, hbump]⟩
  | take literal => exact take_skips c literal
  | takeWhile test =>
    simp only [perform]
    split
    · rename_i r d hok
      obtain ⟨n, hn, rfl, rfl⟩ := takeWhile_eq_ok hok
      exact ⟨n, hn, rfl⟩
    · exact ⟨0, Nat.zero_le _, hfails⟩
  | consume n =>
    simp only [perform]
    split
    · rename_i r d hok
      obtain ⟨m, hm, rfl, rfl⟩ := consume_eq_ok hok
      exact ⟨m, hm, rfl⟩
    · exact ⟨0, Nat.zero_le _, hfails⟩

/-- Calls that are made one after the other skip some code points, and their records add up to the
record of these code points. -/
lemma performAll_skips (c : Cursor) (operations : List Operation) :
    ∃ n ≤ c.rest.length, (c.performAll operations).2 = c.skip n ∧
      Consumed.total (c.performAll operations).1 = .ofText (c.rest.take n) := by
  induction operations generalizing c with
  | nil => exact ⟨0, Nat.zero_le _, (skip_zero c).symm, rfl⟩
  | cons operation operations ih =>
    obtain ⟨m, hm, hfirst⟩ := c.perform_skips operation
    obtain ⟨n, hn, hcursor, htotal⟩ := ih (c.skip m)
    rw [skip_rest, List.length_drop] at hn
    rw [skip_rest] at htotal
    refine ⟨m + n, by omega, ?_, ?_⟩
    · rw [← skip_skip, ← hcursor, performAll, hfirst]
    · rw [performAll, hfirst, Consumed.total, htotal, List.take_add, Consumed.ofText_append]

/-! ## Three ways to the same record -/

/-- Where moves lead from one cursor to another, the counters tell the record of the text between
them, and the text is what comes before the rest. -/
lemma Reaches.since (h : c.Reaches d) :
    ∃ text, d.textSince c = .ok text ∧ d.distanceSince c = .ok (.ofText text) ∧
      text ++ d.rest = c.rest := by
  obtain ⟨n, hn, rfl⟩ := reaches_iff_skip.1 h
  exact ⟨c.rest.take n, textSince_skip c n, distanceSince_skip hn, List.take_append_drop n c.rest⟩

/-- **Records add up.**  For every cursor and all calls that move it, in any order and with failures
in between: the distance that the cursor has gone, the sum of the records of the calls, and the
record of the text that was passed are the same, and that text with what remains is what remained
before.  Of three cursors that moves lead through, the distances and the texts between them add
up. -/
theorem records_add_up :
    (∀ (start : Cursor) (operations : List Operation), ∃ text,
      (start.performAll operations).2.textSince start = .ok text ∧
      (start.performAll operations).2.distanceSince start =
        .ok (Consumed.total (start.performAll operations).1) ∧
      Consumed.total (start.performAll operations).1 = .ofText text ∧
      text ++ (start.performAll operations).2.rest = start.rest) ∧
    ∀ a b c : Cursor, a.Reaches b → b.Reaches c → ∃ first second before after,
      b.distanceSince a = .ok first ∧ c.distanceSince b = .ok second ∧
      c.distanceSince a = .ok (first + second) ∧
      b.textSince a = .ok before ∧ c.textSince b = .ok after ∧
      c.textSince a = .ok (before ++ after) := by
  constructor
  · intro start operations
    obtain ⟨n, hn, hcursor, htotal⟩ := start.performAll_skips operations
    rw [hcursor, htotal]
    exact ⟨start.rest.take n, textSince_skip start n, distanceSince_skip hn, rfl,
      List.take_append_drop n start.rest⟩
  · intro a b c hab hbc
    obtain ⟨before, hbefore, hfirst, hrestb⟩ := hab.since
    obtain ⟨after, hafter, hsecond, hrestc⟩ := hbc.since
    obtain ⟨text, htext, hdistance, hrest⟩ := (hab.trans hbc).since
    -- both ways to the last cursor leave the same rest, so they have passed the same text
    have hsame : text = before ++ after := by
      rw [← hrestb, ← hrestc, ← List.append_assoc] at hrest
      exact List.append_cancel_right hrest
    subst hsame
    rw [Consumed.ofText_append] at hdistance
    exact ⟨_, _, before, after, hfirst, hsecond, hdistance, hbefore, hafter, htext⟩

/-- Calls of every sort on a source of five code points.  Of the eight calls, one comes upon another
text than it wants, and four fail. -/
def stumbling : List Operation :=
  [.bump, .take (Text.ofString "z"), .takeWhile fun _ _ => .error .noLength, .consume 9,
    .takeWhile fun n _ => .ok (n < 2), .consume (-1), .consume 2, .bump]

/-- These calls come to the end of the source all the same, and their records are those of all of
its code points. -/
theorem records_add_up_stumbling :
    ((start mixed).performAll stumbling).1 =
      [⟨1, 1⟩, .zero, .zero, .zero, ⟨2, 5⟩, .zero, ⟨2, 7⟩, .zero] ∧
    ((start mixed).performAll stumbling).2.distanceSince (start mixed) = .ok ⟨5, 13⟩ ∧
    (start mixed).Reaches ((start mixed).skip 1) ∧
    ((start mixed).skip 1).Reaches (((start mixed).skip 1).skip 3) ∧
    ∃ first second, ((start mixed).skip 1).distanceSince (start mixed) = .ok first ∧
      (((start mixed).skip 1).skip 3).distanceSince ((start mixed).skip 1) = .ok second ∧
      (((start mixed).skip 1).skip 3).distanceSince (start mixed) = .ok (first + second) := by
  obtain ⟨hcalls, hthree⟩ := records_add_up
  obtain ⟨text, -, hdistance, -⟩ := hcalls (start mixed) stumbling
  have hfirst : (start mixed).Reaches ((start mixed).skip 1) := reaches_skip (by decide)
  have hsecond : ((start mixed).skip 1).Reaches (((start mixed).skip 1).skip 3) :=
    reaches_skip (by decide)
  obtain ⟨first, second, -, -, h₁, h₂, h₃, -⟩ := hthree _ _ _ hfirst hsecond
  exact ⟨rfl, hdistance, hfirst, hsecond, first, second, h₁, h₂, h₃⟩

end Cursor

end Lexeme
