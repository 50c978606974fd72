/-
# The accounts of a stream

A pull of a stream may give an item, stop, or fail at many points: in the classifier, in the
check that it has consumed something, or in the conversion.  What the classifier has consumed
stays consumed in each case.  Each pull therefore accounts for a *span* of the source, and a
stream keeps its accounts, `Stream.Ledger`: the spans of all pulls, one after the other, are the
text before the cursor.

The main result, `Stream.ledger_course`, says that the accounts are in order after every course
of pulls with classifiers that only move the cursor and make no items of their own.
-/
import Lexeme.Proofs.Extraction
import Lexeme.Proofs.Streams
import Mathlib.Data.List.Forall2

namespace Lexeme

namespace Stream

variable {κ : Type} {source : Source} {stream : Stream} {t : Turn κ}
  {stages : List (Pull.Stage (Turn κ) (Item κ) Stream)}

/-- The span that a pull accounts for.  An item accounts for as many code points as its length
says, at least one.  A failed pull accounts for what its classifier has consumed. -/
def Span (g : Pull.Stage (Turn κ) (Item κ) Stream) (span : Text) : Prop :=
  match g.result with
  | .item item => span ≠ [] ∧ ∃ kind, item = .sized kind span.length
  | .stop => span = []
  | .fault _ =>
    (g.turn.classify.after g.before.session).cursor.textSince g.before.session.cursor = .ok span

/-- The accounts of a stream over a source, after the given pulls. -/
structure Ledger (source : Source) (stages : List (Pull.Stage (Turn κ) (Item κ) Stream))
    (stream : Stream) : Prop where
  source_eq : stream.session.cursor.source = source
  /-- The text before the cursor is made of the spans of the pulls. -/
  spans : ∃ spans, List.Forall₂ Span stages spans ∧
    source.text.take stream.session.cursor.pos = spans.flatten
  /-- The items are counted. -/
  count_eq : stream.count = (Pull.itemsOf stages).length
  count_le : stream.count ≤ stream.session.cursor.pos
  pos_le : stream.session.cursor.pos ≤ source.text.length
  /-- Failures neither count nor end the stream. -/
  fault_keeps : ∀ g ∈ stages, ∀ f, g.result = .fault f →
    g.after.count = g.before.count ∧ g.after.done = g.before.done
  /-- A stream is done only at the end of its source. -/
  pos_of_done : stream.done = true → stream.session.cursor.pos = source.text.length
  /-- A stream that is done stops at every further pull, and stays as it is. -/
  fixed_of_done : stream.done = true → ∀ more : List (Turn κ),
    (∀ g ∈ (Pull.course turn more stream).1, g.result = .stop ∧ g.after = stream) ∧
      (Pull.course turn more stream).2 = stream

lemma ledger_start {errorKind : ErrorKind κ} {limit : Limit} {trace : Trace}
    {convert : Conversion κ} (h : start source errorKind limit trace = .ok (convert, stream)) :
    Ledger source ([] : List (Pull.Stage (Turn κ) (Item κ) Stream)) stream := by
  obtain ⟨-, rfl⟩ := eq_of_start h
  exact
    { source_eq := rfl
      spans := ⟨[], .nil, rfl⟩
      count_eq := rfl
      count_le := Nat.le_refl _
      pos_le := Nat.zero_le _
      fault_keeps := by simp
      pos_of_done := fun hdone => absurd hdone (by simp)
      fixed_of_done := fun hdone => absurd hdone (by simp) }

namespace Ledger

/-- The spans are continued by what one more pull has skipped. -/
lemma spans_snoc (h : Ledger source stages stream) {n : Nat}
    (hcursor : (stream.turn t).2.session.cursor = stream.session.cursor.skip n)
    (hspan : Span (Pull.stage turn t stream) (stream.session.cursor.rest.take n)) :
    ∃ spans, List.Forall₂ Span (stages ++ [Pull.stage turn t stream]) spans ∧
      source.text.take (stream.turn t).2.session.cursor.pos = spans.flatten := by
  obtain ⟨spans, hspans, htake⟩ := h.spans
  refine ⟨spans ++ [stream.session.cursor.rest.take n],
    List.rel_append hspans (.cons hspan .nil), ?_⟩
  -- the text before the cursor has grown by what was skipped
  have hsplit := stream.session.cursor.take_skip n
  rw [Cursor.skip_source, h.source_eq, htake] at hsplit
  rw [hcursor, hsplit]
  simp

/-- One more pull keeps the accounts in order if it skips the span that it accounts for. -/
lemma snoc (h : Ledger source stages stream) {n : Nat}
    (hn : n ≤ stream.session.cursor.rest.length)
    (hcursor : (stream.turn t).2.session.cursor = stream.session.cursor.skip n)
    (hspan : Span (Pull.stage turn t stream) (stream.session.cursor.rest.take n))
    (hcount : (stream.turn t).2.count = stream.count + (stream.turn t).1.item?.toList.length)
    (hitem : (stream.turn t).1.item?.toList.length ≤ n)
    (hkeep : ∀ f, (stream.turn t).1 = .fault f →
      (stream.turn t).2.count = stream.count ∧ (stream.turn t).2.done = stream.done)
    (hdone : (stream.turn t).2.done = true →
      (stream.turn t).2.session.cursor.pos = source.text.length) :
    Ledger source (stages ++ [Pull.stage turn t stream]) (stream.turn t).2 where
  source_eq := by rw [hcursor, Cursor.skip_source, h.source_eq]
  spans := h.spans_snoc hcursor hspan
  count_eq := by rw [Pull.itemsOf_snoc, List.length_append, ← h.count_eq, hcount]
  count_le := by
    have hle := h.count_le
    rw [hcursor, Cursor.skip_pos]
    omega
  pos_le := by
    have hlen := stream.session.cursor.length_rest
    have hle := h.pos_le
    rw [h.source_eq] at hlen
    rw [hcursor, Cursor.skip_pos]
    omega
  fault_keeps := List.forall_mem_append.2 ⟨h.fault_keeps, List.forall_mem_singleton.2 hkeep⟩
  pos_of_done := hdone
  fixed_of_done := fun hd => Pull.course_of_fixed fun t => turn_of_done hd t

/-- A pull that gave an item accounts for the piece that was extracted. -/
lemma snoc_item (h : Ledger source stages stream) {kind : κ} {n : Nat} {stream' : Stream}
    (hpos : 0 < n) (hn : n ≤ stream.session.cursor.rest.length)
    (hturn : stream.turn t = (.item (.sized kind n), stream'))
    (hcursor : stream'.session.cursor = stream.session.cursor.skip n)
    (hcount : stream'.count = stream.count + 1) (hdone : stream'.done = false) :
    Ledger source (stages ++ [Pull.stage turn t stream]) (stream.turn t).2 := by
  have hlen : (stream.session.cursor.rest.take n).length = n := by
    rw [List.length_take, Nat.min_eq_left hn]
  refine h.snoc hn ?_ ?_ ?_ ?_ ?_ ?_
  · rw [hturn]
    exact hcursor
  · simp only [Span, Pull.stage, hturn]
    exact ⟨List.ne_nil_of_length_pos (by rw [hlen]; exact hpos), kind, by rw [hlen]⟩
  · simp [hturn, Pull.item?, hcount]
  · rw [hturn]
    exact hpos
  · simp [hturn]
  · simp [hturn, hdone]

/-- A pull that stopped accounts for nothing, and there was nothing left. -/
lemma snoc_stop (h : Ledger source stages stream) {stream' : Stream}
    (hturn : stream.turn t = (.stop, stream'))
    (hcursor : stream'.session.cursor = stream.session.cursor)
    (hcount : stream'.count = stream.count)
    (hend : stream.session.cursor.pos = source.text.length) :
    Ledger source (stages ++ [Pull.stage turn t stream]) (stream.turn t).2 := by
  refine h.snoc (n := 0) (Nat.zero_le _) ?_ ?_ ?_ ?_ ?_ ?_
  · rw [hturn, Cursor.skip_zero]
    exact hcursor
  · simp [Span, Pull.stage, hturn]
  · simp [hturn, Pull.item?, hcount]
  · simp [hturn, Pull.item?]
  · simp [hturn]
  · intro _
    rw [hturn, hcursor]
    exact hend

/-- A pull that failed accounts for what its classifier has skipped. -/
lemma snoc_fault (h : Ledger source stages stream) {f : Fault} {s : Session}
    (hmoves : t.classify.OnlyMoves) (hdone : stream.done = false)
    (hturn : stream.turn t = (.fault f, { stream with session := s }))
    (hcursor : s.cursor = (t.classify.after stream.session).cursor) :
    Ledger source (stages ++ [Pull.stage turn t stream]) (stream.turn t).2 := by
  obtain ⟨n, hn, hskip⟩ := hmoves.skips stream.session
  refine h.snoc hn ?_ ?_ ?_ ?_ ?_ ?_
  · rw [hturn]
    exact hcursor.trans hskip
  · simp only [Span, Pull.stage, hturn]
    rw [hskip, Cursor.textSince_skip]
  · simp [hturn, Pull.item?]
  · simp [hturn, Pull.item?]
  · simp [hturn]
  · simp [hturn, hdone]

/-- **One pull keeps the accounts in order**, whether it gives an item, stops or fails. -/
theorem turn (h : Ledger source stages stream) (hmoves : t.classify.OnlyMoves)
    (hna : t.classify.NeverAttaches) :
    Ledger source (stages ++ [Pull.stage turn t stream]) (stream.turn t).2 := by
  cases hdone : stream.done with
  | true => exact h.snoc_stop (turn_of_done hdone t) rfl rfl (h.pos_of_done hdone)
  | false =>
    rcases turn_cases hdone t with ⟨item, s, hx, hturn⟩ | ⟨s, hx, hturn⟩ | ⟨f, s, hx, hturn⟩
    · obtain ⟨kind, n, hpos, hn, hitem, hcursor⟩ := extract_eq_some hmoves hna hx
      have hsized : item = .sized kind n := by
        rw [hitem]
        simp [Stretch.ofPiece, Item.ofKind, hn]
      rw [hsized] at hturn
      exact h.snoc_item hpos hn hturn hcursor rfl hdone
    · rcases extract_sized hna hx with ⟨hend, -, rfl⟩ | ⟨kind, n, hitem, -, -⟩
      · have hle := (Cursor.atEnd_iff _).1 hend
        rw [h.source_eq] at hle
        exact h.snoc_stop hturn rfl rfl (Nat.le_antisymm h.pos_le hle)
      · exact absurd hitem (by simp)
    · -- at the end of input an extraction does not fail, so the classifier was called
      have hend : stream.session.cursor.atEnd = false := by
        by_contra hne
        rw [extract_of_atEnd t.classify t.convert false (by simpa using hne)] at hx
        exact absurd hx (by simp)
      have hcursor : s.cursor = (t.classify.after stream.session).cursor := by
        rw [← after_extract_cursor t.convert false hend, Scan.after_of_error hx]
      exact h.snoc_fault hmoves hdone hturn hcursor

end Ledger

/-- **The accounts of a stream are in order after every pull.**  The classifiers only move the
cursor and make no items of their own; apart from that they, and the conversions, may raise
whatever they like, and the stream may be pulled again after that. -/
theorem ledger_course {errorKind : ErrorKind κ} {limit : Limit} {trace : Trace}
    {convert : Conversion κ} (hstart : start source errorKind limit trace = .ok (convert, stream))
    (turns : List (Turn κ))
    (hturns : ∀ t ∈ turns, t.classify.OnlyMoves ∧ t.classify.NeverAttaches) :
    Ledger source (Pull.course turn turns stream).1 (Pull.course turn turns stream).2 := by
  refine Pull.course_invariant (ledger_start hstart) ?_
  intro t ht stages stream' h
  obtain ⟨hmoves, hna⟩ := hturns t ht
  exact h.turn hmoves hna

/-- A classifier that consumes one code point and then raises a fault. -/
def raising (f : Fault) : Scan (Outcome Nat) := do
  Scan.bump
  throw f

/-- Turns that reject a code point, let a signal to stop leak, fail to convert a rejection, and
then come to the end twice. -/
def raisingTurns : List (Turn Nat) :=
  [⟨raising (.rejection .unexpectedInput), fun _ => .ok 0⟩,
    ⟨raising (.raised .stop []), fun _ => .ok 0⟩,
    ⟨raising (.rejection .unexpectedEnd), fun _ => .error (.raised .value [])⟩,
    ⟨raising .noLength, fun _ => .ok 0⟩, ⟨raising .noLength, fun _ => .ok 0⟩]

/-- Of three code points, one became an item, and the other two were consumed by pulls that
failed. -/
theorem ledger_course_raising :
    ∃ convert stream, start ⟨0, [.ofChar 'a', .ofChar '€', .ofChar 'b']⟩
        (.function fun _ => .ok 0) = .ok (convert, stream) ∧
      Ledger ⟨0, [.ofChar 'a', .ofChar '€', .ofChar 'b']⟩
        (Pull.course turn raisingTurns stream).1 (Pull.course turn raisingTurns stream).2 ∧
      (Pull.course turn raisingTurns stream).2.count = 1 ∧
      (Pull.course turn raisingTurns stream).2.done = true := by
  have hraising (f : Fault) : Scan.OnlyMoves (raising f) ∧ Classifier.NeverAttaches (raising f) :=
    ⟨.bind .bump fun _ => .fail f,
      Classifier.neverAttaches_bind fun _ => Classifier.neverAttaches_fail f⟩
  have hturns : ∀ t ∈ raisingTurns, t.classify.OnlyMoves ∧ t.classify.NeverAttaches := by
    simp [raisingTurns, hraising]
  have hstart : start ⟨0, [.ofChar 'a', .ofChar '€', .ofChar 'b']⟩
      (.function fun _ => .ok 0) = .ok (_, _) := rfl
  exact ⟨_, _, hstart, ledger_course hstart raisingTurns hturns, rfl, rfl⟩

end Stream

end Lexeme
