/-
# The pulls of a stream

A stream that is not done makes one extraction for each pull, and `Stream.turn_cases` says what
each of the three results of the extraction does to it.  A stream that is done stays as it is.
-/
import Lexeme.Proofs.Course
import Lexeme.Stream

namespace Lexeme

namespace Stream

variable {κ : Type} {source : Source} {errorKind : ErrorKind κ} {limit : Limit} {trace : Trace}
  {convert : Conversion κ} {stream : Stream}

/-- Pull a stream with the classifier and the conversion of a turn. -/
def turn (t : Turn κ) (stream : Stream) : Pull (Item κ) × Stream :=
  stream.pull t.classify t.convert

/-- A stream that could be opened stands at the start of its source. -/
lemma eq_of_start (h : start source errorKind limit trace = .ok (convert, stream)) :
    errorKind.resolve = .ok convert ∧
      stream =
        { session := (Session.start source trace).record (.started source.text.length) } := by
  simp only [start] at h
  rcases hl : limit.check source.text with f | u
  · rw [hl] at h
    exact absurd h (by simp [bind, Except.bind])
  · rcases hr : errorKind.resolve with f | g
    · rw [hl, hr] at h
      exact absurd h (by simp [bind, Except.bind])
    · rw [hl, hr] at h
      simp only [bind, Except.bind, pure, Except.pure, Except.ok.injEq, Prod.mk.injEq] at h
      exact ⟨congrArg Except.ok h.1, h.2.symm⟩

lemma turn_of_done (h : stream.done = true) (t : Turn κ) : stream.turn t = (.stop, stream) := by
  simp [turn, pull, h]

/-- What a pull of a stream that is not done makes of the extraction. -/
lemma turn_cases (h : stream.done = false) (t : Turn κ) :
    (∃ item s, extract t.classify t.convert false stream.session = .ok (some item) s ∧
      stream.turn t = (.item item, { stream with session := s, count := stream.count + 1 })) ∨
    (∃ s, extract t.classify t.convert false stream.session = .ok none s ∧
      stream.turn t =
        (.stop, { stream with session := s.record (.exhausted stream.count), done := true })) ∨
    (∃ f s, extract t.classify t.convert false stream.session = .error f s ∧
      stream.turn t =
        (.fault (guardStop stream.session.cursor.pos f), { stream with session := s })) := by
  rcases hx : extract t.classify t.convert false stream.session with ⟨_ | item, s⟩ | ⟨f, s⟩
  · exact Or.inr (Or.inl ⟨s, rfl, by simp [turn, pull, h, hx]⟩)
  · exact Or.inl ⟨item, s, rfl, by simp [turn, pull, h, hx]⟩
  · exact Or.inr (Or.inr ⟨f, s, rfl, by simp [turn, pull, h, hx]⟩)

end Stream

end Lexeme
