/-
# Measuring an item and moving past it

An item can be measured on a copy of the cursor, which stays where it is, and the cursor is then
moved past the length of the item.  The move counts the octets of the piece by writing it, while
the classifier has come to the same place by moves of its own choice.  The main result,
`wrap_consume_simulates`, says that the two steps do what one extraction does: measuring gives what
the extraction gives, moving never fails, and it leads to the cursor that the extraction leaves
behind.  So the items of a loop that measures and moves are those of a stream.
-/
import Lexeme.Proofs.Agreement

namespace Lexeme

variable {κ : Type} {errorKind : ErrorKind κ} {convert : Conversion κ} {classify : Classifier κ}
  {s s' : Session} {f : Fault}

/-! ## One item -/

lemma wrap_eq_onSnapshot (hresolve : errorKind.resolve = .ok convert) (s : Session) :
    wrap classify errorKind s = Scan.onSnapshot (extract classify convert) s :=
  Scan.bind_of_ok (Scan.ofExcept_of_ok hresolve s)

lemma wrap_of_ok {result : Option (Item κ)} (hresolve : errorKind.resolve = .ok convert)
    (hx : extract classify convert false s = .ok result s') :
    wrap classify errorKind s = .ok result (s'.moveTo s.cursor) := by
  rw [wrap_eq_onSnapshot hresolve, Scan.onSnapshot, hx]

lemma wrap_of_error (hresolve : errorKind.resolve = .ok convert)
    (hx : extract classify convert false s = .error f s') :
    wrap classify errorKind s = .error f (s'.moveTo s.cursor) := by
  rw [wrap_eq_onSnapshot hresolve, Scan.onSnapshot, hx]

/-- What is seen of measuring is the result of the extraction, and the cursor where it was. -/
lemma seen_wrap (hresolve : errorKind.resolve = .ok convert) (s : Session) :
    (wrap classify errorKind).seen s = (((extract classify convert).seen s).1, s.cursor) := by
  rcases hx : extract classify convert false s with ⟨result, s₁⟩ | ⟨f, s₁⟩
  · rw [Scan.seen_of_ok (wrap_of_ok hresolve hx), Scan.seen_of_ok hx]
    rfl
  · rw [Scan.seen_of_error (wrap_of_error hresolve hx), Scan.seen_of_error hx]
    rfl

/-- The length of an item leads to where the extraction leaves the cursor. -/
lemma consume_of_extract {item : Item κ} (hmoves : classify.OnlyMoves)
    (hna : classify.NeverAttaches) (hx : extract classify convert false s = .ok (some item) s') :
    ∃ (kind : κ) (n : Nat), item = .sized kind n ∧ 0 < n ∧ n ≤ s.cursor.rest.length ∧
      s'.cursor = s.cursor.skip n ∧
      s.cursor.consume n = .ok (.ofText (s.cursor.rest.take n), s'.cursor) := by
  obtain ⟨kind, n, hpos, hn, rfl, hskip⟩ := extract_eq_some hmoves hna hx
  refine ⟨kind, n, Item.ofKind_ofPiece kind hn, hpos, hn, hskip, ?_⟩
  rw [hskip, Cursor.consume_of_le hpos hn]

/-! ## A loop that measures and moves -/

/-- Measure an item and move past it, as a pull. -/
def measurePull (classify : Classifier κ) (errorKind : ErrorKind κ) (s : Session) :
    Pull (Item κ) × Session :=
  match wrapConsume classify errorKind s with
  | .ok (some (item, _)) s' => (.item item, s')
  | .ok none s' => (.stop, s')
  | .error f s' => (.fault f, s')

lemma measurePull_of_none (hresolve : errorKind.resolve = .ok convert)
    (hx : extract classify convert false s = .ok none s') :
    measurePull classify errorKind s = (.stop, s'.moveTo s.cursor) := by
  have hwrap : wrapConsume classify errorKind s = .ok none (s'.moveTo s.cursor) :=
    Scan.bind_of_ok (wrap_of_ok hresolve hx)
  rw [measurePull, hwrap]

lemma measurePull_of_error (hresolve : errorKind.resolve = .ok convert)
    (hx : extract classify convert false s = .error f s') :
    measurePull classify errorKind s = (.fault f, s'.moveTo s.cursor) := by
  have hwrap : wrapConsume classify errorKind s = .error f (s'.moveTo s.cursor) :=
    Scan.bind_of_error (wrap_of_error hresolve hx)
  rw [measurePull, hwrap]

/-- With the item, the whole session is as the extraction leaves it. -/
lemma measurePull_of_sized {kind : κ} {n : Nat} {consumed : Consumed}
    (hresolve : errorKind.resolve = .ok convert)
    (hx : extract classify convert false s = .ok (some (.sized kind n)) s')
    (hconsume : s.cursor.consume n = .ok (consumed, s'.cursor)) :
    measurePull classify errorKind s = (.item (.sized kind n), s') := by
  have hmove : Scan.consume n (s'.moveTo s.cursor) = .ok consumed s' := by
    simp only [Scan.consume, Scan.tryMove, Session.moveTo, hconsume]
  have hwrap : wrapConsume classify errorKind s = .ok (some (.sized kind n, consumed)) s' := by
    rw [wrapConsume, Scan.bind_of_ok (wrap_of_ok hresolve hx)]
    exact Scan.bind_of_ok hmove
  rw [measurePull, hwrap]

/-- The ending with a signal to stop that came out at `offset` replaced. -/
def Ending.guarded (offset : Nat) : Ending → Ending
  | failed f => failed (Stream.guardStop offset f)
  | stopped => stopped
  | unfinished => unfinished

lemma measure_stream_drains (hresolve : errorKind.resolve = .ok convert)
    (hmoves : classify.OnlyMoves) (hdet : classify.Determined) (hna : classify.NeverAttaches)
    {stream : Stream} (hdone : stream.done = false) (hcursor : s.cursor = stream.session.cursor) :
    ∃ items ending last last',
      Pull.Drains (measurePull classify errorKind) s ⟨items, ending, last⟩ ∧
      Pull.Drains (Stream.pull classify convert) stream
        ⟨items, ending.guarded last.cursor.pos, last'⟩ := by
  -- the two sessions may differ in what was told, but they stay at the same cursor
  induction hlen : s.cursor.rest.length using Nat.strongRecOn generalizing s stream with
  | ind len ih =>
    have hseen := hdet.extract convert false _ _ hcursor
    rcases hx : extract classify convert false s with ⟨_ | item, s₁⟩ | ⟨f, s₁⟩
    · rw [Scan.seen_of_ok hx] at hseen
      obtain ⟨s₂, hstream, -⟩ := Scan.seen_eq_ok_iff.1 hseen.symm
      exact ⟨[], .stopped, _, _, .stop (measurePull_of_none hresolve hx),
        .stop (Stream.pull_of_none hdone hstream)⟩
    · obtain ⟨kind, n, rfl, hpos, hn, hskip, hconsume⟩ := consume_of_extract hmoves hna hx
      rw [Scan.seen_of_ok hx] at hseen
      obtain ⟨s₂, hstream, hcursor₂⟩ := Scan.seen_eq_ok_iff.1 hseen.symm
      let stream₂ : Stream := { stream with session := s₂, count := stream.count + 1 }
      have hdone₂ : stream₂.done = false := hdone
      have hrest : s₁.cursor.rest.length = len - n := by
        rw [hskip, Cursor.skip_rest, List.length_drop, hlen]
      obtain ⟨items, ending, last, last', hloop, hpulls⟩ :=
        ih (len - n) (by omega) hdone₂ hcursor₂.symm hrest
      exact ⟨.sized kind n :: items, ending, last, last',
        .item (measurePull_of_sized hresolve hx hconsume) hloop,
        .item (Stream.pull_of_some hdone hstream) hpulls⟩
    · rw [Scan.seen_of_error hx] at hseen
      obtain ⟨s₂, hstream, -⟩ := Scan.seen_eq_error_iff.1 hseen.symm
      have hpull := Stream.pull_of_error hdone hstream
      rw [← hcursor] at hpull
      exact ⟨[], .failed f, _, _, .fault (measurePull_of_error hresolve hx), .fault hpull⟩

/-- **Measuring and moving do what extracting does.**  For every cursor, whatever was told before:
measuring leaves the cursor alone and gives what the extraction gives, item or fault; the length of
an item can be moved past, and the move leads to the very cursor that the extraction leaves behind.
A loop that measures and moves has the items of a stream from the same cursor, and ends with it:
at the end of input, or with the fault that the stream reports, where a signal to stop is replaced
by a fault of the stream. -/
theorem wrap_consume_simulates (hresolve : errorKind.resolve = .ok convert)
    (hmoves : classify.OnlyMoves) (hdet : classify.Determined) (hna : classify.NeverAttaches) :
    (∀ s s' : Session, s.cursor = s'.cursor →
      (wrap classify errorKind).seen s = (((extract classify convert).seen s').1, s.cursor) ∧
      ∀ item, ((extract classify convert).seen s').1 = .ok (some item) →
        ∃ (kind : κ) (n : Nat) (consumed : Consumed), item = .sized kind n ∧
          s.cursor.consume n = .ok (consumed, ((extract classify convert).seen s').2)) ∧
    ∀ (s : Session) (stream : Stream), stream.done = false →
      s.cursor = stream.session.cursor →
      ∃ items ending last last',
        Pull.Drains (measurePull classify errorKind) s ⟨items, ending, last⟩ ∧
        Pull.Drains (Stream.pull classify convert) stream
          ⟨items, ending.guarded last.cursor.pos, last'⟩ := by
  refine ⟨?_, fun s stream hdone hcursor =>
    measure_stream_drains hresolve hmoves hdet hna hdone hcursor⟩
  intro s s' hcursor
  have hseen := hdet.extract convert false s s' hcursor
  refine ⟨by rw [seen_wrap hresolve, hseen], ?_⟩
  intro item hitem
  rw [hcursor]
  rcases hx : extract classify convert false s' with ⟨result, s₁⟩ | ⟨f, s₁⟩
  · rw [Scan.seen_of_ok hx] at hitem ⊢
    cases hitem
    obtain ⟨kind, n, hsized, -, -, -, hconsume⟩ := consume_of_extract hmoves hna hx
    exact ⟨kind, n, _, hsized, hconsume⟩
  · rw [Scan.seen_of_error hx] at hitem
    cases hitem

/-- A signal to stop comes out at the third code point.  The loop lets it through, and the stream
reports that it has leaked. -/
theorem wrap_consume_simulates_stopping :
    ∃ stream, Stream.start ⟨0, Text.ofString "a€!b"⟩ (.function zeros) = .ok (zeros, stream) ∧
      ∃ items ending last last',
        Pull.Drains (measurePull (grudging (.raised .stop [])) (.function zeros))
          (.start ⟨0, Text.ofString "a€!b"⟩) ⟨items, ending, last⟩ ∧
        Pull.Drains (Stream.pull (grudging (.raised .stop [])) zeros) stream
          ⟨items, ending.guarded last.cursor.pos, last'⟩ ∧
        items = [.sized 0 1, .sized 0 1] ∧
        ending.guarded last.cursor.pos = .failed (.leakedStop 2) := by
  have hresolve : (ErrorKind.function zeros).resolve = .ok zeros := rfl
  have hbuilt := grudging_built (.raised .stop [])
  obtain ⟨stream, hstart⟩ : ∃ stream,
      Stream.start ⟨0, Text.ofString "a€!b"⟩ (.function zeros) = .ok (zeros, stream) := ⟨_, rfl⟩
  have hopen := (Stream.eq_of_start hstart).2
  obtain ⟨items, ending, last, last', hloop, hpulls⟩ :=
    (wrap_consume_simulates hresolve hbuilt.onlyMoves hbuilt.determined
      (grudging_neverAttaches _)).2 (.start ⟨0, Text.ofString "a€!b"⟩) stream
      (by rw [hopen]) (by rw [hopen]; rfl)
  have hrun : Pull.Drains (measurePull (grudging (.raised .stop [])) (.function zeros))
      (.start ⟨0, Text.ofString "a€!b"⟩)
      ⟨[.sized 0 1, .sized 0 1], .failed (.raised .stop []), _⟩ :=
    .item rfl (.item rfl (.fault rfl))
  have hsame := hloop.unique hrun
  rw [Run.mk.injEq] at hsame
  obtain ⟨rfl, rfl, rfl⟩ := hsame
  exact ⟨_, hstart, _, _, _, last', hloop, hpulls, rfl, rfl⟩

end Lexeme
