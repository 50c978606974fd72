/-
# Where input ends

An extraction gives nothing at the end of input, and its callers take this for the end: a stream
stops and is done, a scanner gives no more items.  An outcome that makes its own item can make
nothing, too.  Then the classifier *withdraws* what it has consumed, and the extraction gives
nothing before the end.

The main result, `end_reported_iff`, says that this is the only way in which an end is reported
that is none, for every classifier that only moves the cursor: neither conversions nor failures of
any sort, signals to stop included, pass for the end of input.  By `stream_stops_early` it does
happen.
-/
import Lexeme.Proofs.Extraction
import Lexeme.Proofs.Streams
import Lexeme.Scanner

namespace Lexeme

variable {κ : Type} {classify : Classifier κ} {convert : Conversion κ} {withText : Bool}
  {c d : Cursor} {outcome : Outcome κ} {s : Session}

/-- The outcome of the classifier makes nothing of the stretch that was consumed. -/
def Classifier.Withdraws (classify : Classifier κ) (withText : Bool) (s : Session) : Prop :=
  ∃ make s', classify s = .ok (.attaching make) s' ∧ s.cursor.pos < s'.cursor.pos ∧
    make (.between withText s.cursor s'.cursor) = .ok none

/-- An end is reported here: the input ends, or the classifier withdraws. -/
def Classifier.Ends (classify : Classifier κ) (withText : Bool) (s : Session) : Prop :=
  s.cursor.atEnd = true ∨ classify.Withdraws withText s

/-- For cursors that were only moved, progress in octets is progress in code points. -/
lemma Cursor.Reaches.progress_iff (h : c.Reaches d) : c.Progress d ↔ c.pos < d.pos := by
  obtain ⟨n, hn, rfl⟩ := reaches_iff_skip.1 h
  rw [progress_skip_iff hn, skip_pos]
  omega

/-- A classifier does not withdraw at the end of input, where nothing can be consumed. -/
lemma Classifier.Withdraws.not_atEnd (hmoves : classify.OnlyMoves)
    (h : classify.Withdraws withText s) : s.cursor.atEnd = false := by
  obtain ⟨make, s', hs, hpos, -⟩ := h
  obtain ⟨n, hn, hskip⟩ := Cursor.reaches_iff_skip.1 (hmoves.reaches_of_ok hs)
  rw [hskip, Cursor.skip_pos] at hpos
  by_contra hne
  have hnil : s.cursor.rest = [] := by
    rw [Bool.not_eq_false, Cursor.atEnd, List.isEmpty_iff] at hne
    exact hne
  rw [hnil, List.length_nil] at hn
  omega

/-- Only outcomes that make their own item can make nothing. -/
lemma Outcome.attach_eq_none {stretch : Stretch} (h : outcome.attach convert stretch = .ok none) :
    ∃ make, outcome = .attaching make ∧ make stretch = .ok none := by
  cases outcome with
  | kind k => simp [attach] at h
  | attaching make => exact ⟨make, rfl, h⟩
  | rejected r own =>
    rcases hr : convert r with f | k
    · simp [attach, hr, Except.map] at h
    · simp [attach, hr, Except.map] at h

/-! ## Each caller of an extraction -/

lemma extract_eq_none_iff (hmoves : classify.OnlyMoves) (convert : Conversion κ)
    (withText : Bool) (s : Session) :
    (∃ s', extract classify convert withText s = .ok none s') ↔ classify.Ends withText s := by
  constructor
  · rintro ⟨s', h⟩
    rcases extract_eq_ok_iff.1 h with ⟨hend, -⟩ | ⟨-, outcome, s₁, event, hset, hprog, -, hatt, -⟩
    · exact Or.inl hend
    · obtain ⟨make, rfl, hmake⟩ := Outcome.attach_eq_none hatt
      rcases Classifier.settled_eq_ok_iff.1 hset with hs | ⟨r, hr, -⟩
      · exact Or.inr ⟨make, s₁, hs, (hmoves.reaches_of_ok hs).progress_iff.1 hprog, hmake⟩
      · -- a rejection that was raised does not make its own item
        exact absurd hr (by simp)
  · rintro (hend | hw)
    · exact ⟨s, extract_of_atEnd classify convert withText hend⟩
    · have hend := hw.not_atEnd hmoves
      obtain ⟨make, s₁, hs, hpos, hmake⟩ := hw
      refine ⟨s₁, extract_eq_ok_iff.2 (Or.inr ⟨hend, .attaching make, s₁, none, ?_, ?_, rfl, hmake,
        rfl⟩)⟩
      · exact Classifier.settled_eq_ok_iff.2 (Or.inl hs)
      · exact (hmoves.reaches_of_ok hs).progress_iff.2 hpos

lemma onSnapshot_eq_ok_iff {α : Type} {act : Scan α} {a : α} :
    (∃ s', Scan.onSnapshot act s = .ok a s') ↔ ∃ s', act s = .ok a s' := by
  rw [Scan.onSnapshot]
  rcases act s with ⟨b, s₁⟩ | ⟨f, s₁⟩
  · simp
  · simp

lemma wrap_eq_none_iff (hmoves : classify.OnlyMoves) (errorKind : ErrorKind κ) (s : Session) :
    (∃ s', wrap classify errorKind s = .ok none s') ↔
      (∃ convert, errorKind.resolve = .ok convert) ∧ classify.Ends false s := by
  rcases hr : errorKind.resolve with f | convert
  · rw [wrap, Scan.bind_of_error (Scan.ofExcept_of_error hr s)]
    simp
  · rw [wrap, Scan.bind_of_ok (Scan.ofExcept_of_ok hr s), onSnapshot_eq_ok_iff,
      extract_eq_none_iff hmoves]
    simp

lemma Scanner.next_eq_none_iff (hmoves : classify.OnlyMoves) (convert : Conversion κ)
    (scanner : Scanner) :
    (scanner.next classify convert).1 = .ok none ↔ classify.Ends true scanner.session := by
  rw [← extract_eq_none_iff hmoves convert, next]
  rcases extract classify convert true scanner.session with ⟨item, s₁⟩ | ⟨f, s₁⟩
  · simp
  · simp

/-- A stream that is not done is done after a pull exactly if the pull stops. -/
lemma Stream.turn_stop_iff {stream : Stream} (hdone : stream.done = false) (t : Turn κ)
    (hmoves : t.classify.OnlyMoves) :
    ((stream.turn t).1 = .stop ↔ t.classify.Ends false stream.session) ∧
      ((stream.turn t).2.done = true ↔ t.classify.Ends false stream.session) := by
  rw [← extract_eq_none_iff hmoves t.convert]
  rcases turn_cases hdone t with ⟨item, s, hx, hturn⟩ | ⟨s, hx, hturn⟩ | ⟨f, s, hx, hturn⟩
  · simp [hx, hturn, hdone]
  · simp [hx, hturn]
  · simp [hx, hturn, hdone]

/-- Whenever the stream has stopped, and whenever it is done, its input had ended. -/
structure Stream.EndsOnTime (stages : List (Pull.Stage (Turn κ) (Item κ) Stream))
    (stream : Stream) : Prop where
  atEnd_of_stop : ∀ g ∈ stages, g.result = .stop → g.before.session.cursor.atEnd = true
  atEnd_of_done : stream.done = true → stream.session.cursor.atEnd = true

/-- A pull whose classifier does not withdraw ends the stream on time. -/
lemma Stream.EndsOnTime.turn {stages : List (Pull.Stage (Turn κ) (Item κ) Stream)}
    {stream : Stream} {t : Turn κ} (h : EndsOnTime stages stream)
    (hmoves : t.classify.OnlyMoves) (hw : ¬ t.classify.Withdraws false stream.session) :
    EndsOnTime (stages ++ [Pull.stage Stream.turn t stream]) (stream.turn t).2 := by
  -- it is enough that the input has ended at this pull if the pull stops, or leaves it done
  have hsnoc (hstop : (stream.turn t).1 = .stop → stream.session.cursor.atEnd = true)
      (hend : (stream.turn t).2.done = true → (stream.turn t).2.session.cursor.atEnd = true) :
      EndsOnTime (stages ++ [Pull.stage Stream.turn t stream]) (stream.turn t).2 := by
    refine ⟨?_, hend⟩
    rw [List.forall_mem_append, List.forall_mem_singleton]
    exact ⟨h.atEnd_of_stop, hstop⟩
  cases hdone : stream.done with
  | true =>
    have hend := h.atEnd_of_done hdone
    refine hsnoc (fun _ => hend) ?_
    rw [turn_of_done hdone]
    exact fun _ => hend
  | false =>
    rcases turn_cases hdone t with ⟨item, s, hx, hturn⟩ | ⟨s, hx, hturn⟩ | ⟨f, s, hx, hturn⟩
    · exact hsnoc (by simp [hturn]) (by simp [hturn, hdone])
    · have hend : stream.session.cursor.atEnd = true :=
        ((extract_eq_none_iff hmoves t.convert false stream.session).1 ⟨s, hx⟩).resolve_right hw
      rw [extract_of_atEnd t.classify t.convert false hend] at hx
      simp only [EStateM.Result.ok.injEq, true_and] at hx
      subst hx
      refine hsnoc (fun _ => hend) ?_
      rw [hturn]
      exact fun _ => hend
    · exact hsnoc (by simp [hturn]) (by simp [hturn, hdone])

/-- A course of pulls in which no classifier withdraws ends on time. -/
lemma Stream.endsOnTime_course {stream : Stream} (hdone : stream.done = false)
    {turns : List (Turn κ)} (hmoves : ∀ t ∈ turns, t.classify.OnlyMoves)
    (hw : ∀ g ∈ (Pull.course Stream.turn turns stream).1,
      ¬ g.turn.classify.Withdraws false g.before.session) :
    EndsOnTime (Pull.course Stream.turn turns stream).1
      (Pull.course Stream.turn turns stream).2 := by
  refine Pull.course_invariant (P := fun stages stream' =>
    (∀ g ∈ stages, ¬ g.turn.classify.Withdraws false g.before.session) →
      EndsOnTime stages stream') ?_ ?_ hw
  · exact fun _ => ⟨by simp, by simp [hdone]⟩
  · intro t ht stages stream' ih hw'
    refine (ih fun g hg => hw' g (by simp [hg])).turn (hmoves t ht) ?_
    exact hw' (Pull.stage Stream.turn t stream') (by simp)

/-! ## The exact condition -/

/-- **When the end of input is reported.**  For a classifier that only moves the cursor, whatever
it, its outcomes and the conversion give or raise: an extraction, the measuring of an item, a
scanner and a stream report the end exactly if the input ends, or the classifier withdraws what it
has consumed, and that is never at the end.  So a stream stops and is done at the end of input
only, unless a classifier withdraws. -/
theorem end_reported_iff (hmoves : classify.OnlyMoves) (convert : Conversion κ)
    (errorKind : ErrorKind κ) :
    (∀ withText s,
      (∃ s', extract classify convert withText s = .ok none s') ↔
        s.cursor.atEnd = true ∨ classify.Withdraws withText s) ∧
    (∀ withText s, classify.Withdraws withText s → s.cursor.atEnd = false) ∧
    (∀ s, (∃ s', wrap classify errorKind s = .ok none s') ↔
      (∃ resolved, errorKind.resolve = .ok resolved) ∧
        (s.cursor.atEnd = true ∨ classify.Withdraws false s)) ∧
    (∀ scanner : Scanner, (scanner.next classify convert).1 = .ok none ↔
      scanner.session.cursor.atEnd = true ∨ classify.Withdraws true scanner.session) ∧
    (∀ stream : Stream, stream.done = false →
      ((stream.pull classify convert).1 = .stop ↔
        stream.session.cursor.atEnd = true ∨ classify.Withdraws false stream.session) ∧
      ((stream.pull classify convert).2.done = true ↔
        stream.session.cursor.atEnd = true ∨ classify.Withdraws false stream.session)) ∧
    ∀ (stream : Stream) (turns : List (Turn κ)), stream.done = false →
      (∀ t ∈ turns, t.classify.OnlyMoves) →
      (∀ g ∈ (Pull.course Stream.turn turns stream).1,
        ¬ g.turn.classify.Withdraws false g.before.session) →
      (∀ g ∈ (Pull.course Stream.turn turns stream).1, g.result = .stop →
        g.before.session.cursor.atEnd = true) ∧
      ((Pull.course Stream.turn turns stream).2.done = true →
        (Pull.course Stream.turn turns stream).2.session.cursor.atEnd = true) := by
  refine ⟨?_, ?_, ?_, ?_, ?_, ?_⟩
  · exact fun withText s => extract_eq_none_iff hmoves convert withText s
  · exact fun _ _ hw => hw.not_atEnd hmoves
  · exact fun s => wrap_eq_none_iff hmoves errorKind s
  · exact fun scanner => Scanner.next_eq_none_iff hmoves convert scanner
  · exact fun stream hdone => Stream.turn_stop_iff hdone ⟨classify, convert⟩ hmoves
  · intro stream turns hdone hturns hw
    have hends := Stream.endsOnTime_course hdone hturns hw
    exact ⟨hends.atEnd_of_stop, hends.atEnd_of_done⟩

/-- A classifier that consumes one code point and withdraws it. -/
def withdrawing : Scan (Outcome Nat) := do
  Scan.bump
  pure (.attaching fun _ => .ok none)

lemma withdrawing_onlyMoves : Scan.OnlyMoves withdrawing :=
  .bind .bump fun _ => .pure _

/-- The condition holds of a classifier that withdraws, before the end of a source. -/
theorem end_reported_iff_withdrawing :
    Scan.OnlyMoves withdrawing ∧
      ((∃ s', extract withdrawing (fun _ => .ok 0) false
          (Session.start ⟨0, [.ofChar 'a', .ofChar 'b']⟩) = .ok none s') ↔
        (Session.start ⟨0, [.ofChar 'a', .ofChar 'b']⟩).cursor.atEnd = true ∨
          Classifier.Withdraws withdrawing false
            (Session.start ⟨0, [.ofChar 'a', .ofChar 'b']⟩)) :=
  ⟨withdrawing_onlyMoves,
    (end_reported_iff withdrawing_onlyMoves (fun _ => .ok 0) (.function fun _ => .ok 0)).1 false _⟩

/-- **A stream can stop early.**  A classifier that only moves the cursor withdraws the first of
two code points; the stream stops and is done, and its input has not ended. -/
theorem stream_stops_early :
    Scan.OnlyMoves withdrawing ∧
      ∃ convert stream, Stream.start ⟨0, [.ofChar 'a', .ofChar 'b']⟩
          (.function fun _ => .ok 0) = .ok (convert, stream) ∧
        stream.session.cursor.atEnd = false ∧
        (∃ s', extract withdrawing convert false stream.session = .ok none s') ∧
        (stream.pull withdrawing convert).1 = .stop ∧
        (stream.pull withdrawing convert).2.done = true ∧
        (stream.pull withdrawing convert).2.session.cursor.atEnd = false :=
  ⟨withdrawing_onlyMoves, _, _, rfl, rfl, ⟨_, rfl⟩, rfl, rfl, rfl⟩

end Lexeme
