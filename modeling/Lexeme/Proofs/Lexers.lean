/-
# The pulls of a lexer and of a scanner

A lexer extracts by length and cuts the text of the item afterwards; a scanner extracts by text.
For each result of an extraction this module says what the pull of a stream, of a lexer that is
aligned and of a scanner makes of it.
-/
import Lexeme.Proofs.Lossless
import Lexeme.Scanner

namespace Lexeme

variable {κ : Type} {source : Source} {errorKind : ErrorKind κ} {convert : Conversion κ}
  {limit : Limit} {classify : Classifier κ} {s : Session} {f : Fault}

/-! ## Opening -/

lemma Stream.start_eq_ok (hlimit : limit.check source.text = .ok ())
    (hresolve : errorKind.resolve = .ok convert) (trace : Trace) :
    Stream.start source errorKind limit trace =
      .ok (convert,
        { session := (Session.start source trace).record (.started source.text.length) }) := by
  rw [Stream.start, hlimit, hresolve]
  rfl

lemma Lexer.start_eq_ok (hlimit : limit.check source.text = .ok ())
    (hresolve : errorKind.resolve = .ok convert) (trace : Trace) :
    Lexer.start source errorKind limit trace =
      .ok (convert,
        { stream :=
            { session := (Session.start source trace).record (.started source.text.length) }
          slicer := .ofText source.text }) := by
  rw [Lexer.start, Stream.start_eq_ok hlimit hresolve]
  rfl

lemma Scanner.start_eq_ok (hlimit : limit.check source.text = .ok ())
    (hresolve : errorKind.resolve = .ok convert) (trace : Trace) :
    Scanner.start source errorKind limit trace = .ok (convert, ⟨.start source trace⟩) := by
  rw [Scanner.start, hlimit, hresolve]
  rfl

/-! ## Streams -/

namespace Stream

variable {stream : Stream} {item : Item κ}

lemma pull_of_some (hdone : stream.done = false)
    (hx : extract classify convert false stream.session = .ok (some item) s) :
    stream.pull classify convert =
      (.item item, { stream with session := s, count := stream.count + 1 }) := by
  simp [pull, hdone, hx]

lemma pull_of_none (hdone : stream.done = false)
    (hx : extract classify convert false stream.session = .ok none s) :
    stream.pull classify convert =
      (.stop, { stream with session := s.record (.exhausted stream.count), done := true }) := by
  simp [pull, hdone, hx]

lemma pull_of_error (hdone : stream.done = false)
    (hx : extract classify convert false stream.session = .error f s) :
    stream.pull classify convert =
      (.fault (guardStop stream.session.cursor.pos f), { stream with session := s }) := by
  simp [pull, hdone, hx]

/-- Only a signal to stop is exchanged for another fault. -/
lemma guardStop_eq (offset : Nat) (h : ∀ shown, f ≠ .raised .stop shown) :
    guardStop offset f = f := by
  unfold guardStop
  split
  · exact absurd rfl (h _)
  · rfl

end Stream

/-! ## Lexers -/

namespace Lexer

variable {lexer : Lexer}

/-- A kind and the length of a text, as an item. -/
def sizedOf (token : κ × Text) : Item κ := .sized token.1 token.2.length

/-- The text that is still to be cut is the text after the cursor. -/
lemma Aligned.slicer_rest (h : lexer.Aligned source) :
    lexer.slicer.rest = lexer.stream.session.cursor.rest := by
  rw [h.rest_eq, Cursor.rest_eq, h.source_eq, h.pos_eq]

/-- The piece that was consumed is what is cut. -/
lemma Aligned.pull_of_sized (h : lexer.Aligned source) {kind : κ} {n : Nat}
    (hn : n ≤ lexer.stream.session.cursor.rest.length)
    (hx : extract classify convert false lexer.stream.session = .ok (some (.sized kind n)) s)
    (hskip : s.cursor = lexer.stream.session.cursor.skip n) :
    ∃ lexer' : Lexer, lexer.pull classify convert =
        (.item (.token kind (lexer.stream.session.cursor.rest.take n)), lexer') ∧
      lexer'.Aligned source ∧
      lexer'.stream = { lexer.stream with session := s, count := lexer.stream.count + 1 } := by
  have hfit : lexer.slicer.offset + n ≤ lexer.slicer.size := by
    have hlen := lexer.stream.session.cursor.length_rest
    have hoffset := h.offset_le
    rw [h.source_eq, h.pos_eq] at hlen
    rw [h.size_eq]
    omega
  have hpull := turn_of_sized (t := ⟨classify, convert⟩) h.not_spent
    (Stream.pull_of_some h.not_done hx)
  rw [if_pos hfit, h.slicer_rest] at hpull
  refine ⟨_, hpull, ?_, rfl⟩
  have hsource := h.source_eq
  have hpos := h.pos_eq
  exact
    { not_spent := h.not_spent
      not_done := h.not_done
      source_eq := by rw [hskip]; exact hsource
      pos_eq := by rw [hskip, Cursor.skip_pos, hpos]
      size_eq := h.size_eq
      offset_le := by rw [← h.size_eq]; exact hfit
      rest_eq := by rw [← h.slicer_rest, h.rest_eq, List.drop_drop] }

lemma Aligned.pull_of_none (h : lexer.Aligned source)
    (hx : extract classify convert false lexer.stream.session = .ok none s) :
    ∃ lexer', lexer.pull classify convert = (.stop, lexer') :=
  ⟨_, turn_of_stop (t := ⟨classify, convert⟩) h.not_spent (Stream.pull_of_none h.not_done hx)⟩

lemma Aligned.pull_of_error (h : lexer.Aligned source)
    (hx : extract classify convert false lexer.stream.session = .error f s) :
    ∃ lexer', lexer.pull classify convert =
      (.fault (Stream.guardStop lexer.stream.session.cursor.pos f), lexer') :=
  ⟨_, turn_of_fault (t := ⟨classify, convert⟩) h.not_spent (Stream.pull_of_error h.not_done hx)⟩

end Lexer

/-! ## Scanners -/

namespace Scanner

variable {scanner : Scanner}

lemma pull_of_some {item : Item κ}
    (hx : extract classify convert true scanner.session = .ok (some item) s) :
    scanner.pull classify convert = (.item item, ⟨s⟩) := by
  simp [pull, next, hx]

lemma pull_of_none (hx : extract classify convert true scanner.session = .ok none s) :
    scanner.pull classify convert = (.stop, ⟨s⟩) := by
  simp [pull, next, hx]

lemma pull_of_error (hx : extract classify convert true scanner.session = .error f s) :
    scanner.pull classify convert = (.fault f, ⟨s⟩) := by
  simp [pull, next, hx]

end Scanner

end Lexeme
