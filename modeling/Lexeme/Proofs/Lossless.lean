/-
# A lexer loses nothing

A lexer keeps two counters that know nothing of each other: the offset of the stream's cursor,
which classifiers can set as they like, and the number of code points that were cut off.  As long
as the lexer is not spent they agree, `Lexer.Aligned`: an extraction gives the distance that the
cursor has gone within the same buffer, and a piece of that length is cut off.  A cursor beyond
the end of the source is noticed when the piece is cut.

The main result, `Lexer.texts_prefix_source`, is about every course of pulls and every classifier,
however it treats the cursor: the texts that came out, put one after the other, are how the source
begins, and they are the whole source if the lexer stops without a failure.
-/
import Lexeme.Lexer
import Lexeme.Proofs.Extraction
import Lexeme.Proofs.Streams

namespace Lexeme

namespace Lexer

variable {κ : Type} {source : Source} {lexer : Lexer} {t : Turn κ}

/-- Pull a lexer with the classifier and the conversion of a turn. -/
def turn (t : Turn κ) (lexer : Lexer) : Pull (Item κ) × Lexer :=
  lexer.pull t.classify t.convert

/-- A lexer whose stream stands at the place up to which the source was cut off. -/
structure Aligned (source : Source) (lexer : Lexer) : Prop where
  not_spent : lexer.spent = false
  not_done : lexer.stream.done = false
  source_eq : lexer.stream.session.cursor.source = source
  pos_eq : lexer.stream.session.cursor.pos = lexer.slicer.offset
  size_eq : lexer.slicer.size = source.text.length
  offset_le : lexer.slicer.offset ≤ source.text.length
  rest_eq : lexer.slicer.rest = source.text.drop lexer.slicer.offset

lemma aligned_start {errorKind : ErrorKind κ} {limit : Limit} {trace : Trace}
    {convert : Conversion κ} (h : start source errorKind limit trace = .ok (convert, lexer)) :
    lexer.Aligned source ∧ lexer.slicer.offset = 0 := by
  simp only [start] at h
  rcases hs : Stream.start source errorKind limit trace with f | ⟨g, stream⟩
  · rw [hs] at h
    exact absurd h (by simp [bind, Except.bind])
  · obtain ⟨-, rfl⟩ := Stream.eq_of_start hs
    rw [hs] at h
    simp only [bind, Except.bind, pure, Except.pure, Except.ok.injEq, Prod.mk.injEq] at h
    obtain ⟨-, rfl⟩ := h
    exact ⟨⟨rfl, rfl, rfl, rfl, rfl, Nat.zero_le _, rfl⟩, rfl⟩

lemma turn_of_spent (h : lexer.spent = true) (t : Turn κ) : lexer.turn t = (.stop, lexer) := by
  simp [turn, pull, h]

/-- A piece is cut off exactly if it does not run past the end. -/
lemma cutItem_sized {slicer : Slicer} (kind : κ) (n : Nat) :
    cutItem slicer (.sized kind n) =
      if slicer.offset + n ≤ slicer.size then
        .ok (.token kind (slicer.rest.take n),
          ⟨slicer.size, slicer.offset + n, slicer.rest.drop n⟩)
      else
        .error (.contract (.diagnostic (.sliceOutOfBounds slicer.offset n slicer.size))) := by
  by_cases hle : slicer.offset + n ≤ slicer.size
  · have hcut : ¬ ((n : Int) < 0 ∨ (slicer.size : Int) < slicer.offset + n) := by omega
    simp [cutItem, Item.pair, Slicer.cut, hcut, hle, bind, Except.bind, pure, Except.pure]
  · have hcut : (n : Int) < 0 ∨ (slicer.size : Int) < slicer.offset + n := by omega
    simp [cutItem, Item.pair, Slicer.cut, hcut, hle, bind, Except.bind]

lemma turn_of_stop {stream : Stream} (hspent : lexer.spent = false)
    (h : lexer.stream.turn t = (.stop, stream)) :
    lexer.turn t = (.stop, { lexer with stream, spent := true }) := by
  rw [Stream.turn] at h
  simp only [turn, pull, hspent, h, Bool.false_eq_true, if_false]

lemma turn_of_fault {stream : Stream} {f : Fault} (hspent : lexer.spent = false)
    (h : lexer.stream.turn t = (.fault f, stream)) :
    lexer.turn t = (.fault f, { lexer with stream, spent := true }) := by
  rw [Stream.turn] at h
  simp only [turn, pull, hspent, h, Bool.false_eq_true, if_false]

lemma turn_of_sized {stream : Stream} {kind : κ} {n : Nat} (hspent : lexer.spent = false)
    (h : lexer.stream.turn t = (.item (.sized kind n), stream)) :
    lexer.turn t =
      if lexer.slicer.offset + n ≤ lexer.slicer.size then
        (.item (.token kind (lexer.slicer.rest.take n)),
          { lexer with
            stream
            slicer := ⟨lexer.slicer.size, lexer.slicer.offset + n, lexer.slicer.rest.drop n⟩ })
      else
        (.fault (.contract
          (.diagnostic (.sliceOutOfBounds lexer.slicer.offset n lexer.slicer.size))),
          { lexer with stream, spent := true }) := by
  rw [Stream.turn] at h
  simp only [turn, pull, hspent, h, cutItem_sized, Bool.false_eq_true, if_false]
  by_cases hle : lexer.slicer.offset + n ≤ lexer.slicer.size
  · simp only [hle, if_true]
  · simp only [hle, if_false]

/-- One pull of an aligned lexer gives the next piece of the source, stops at the end of the
source, or fails. -/
lemma Aligned.turn (h : lexer.Aligned source) (hna : t.classify.NeverAttaches) :
    (∃ kind piece, (lexer.turn t).1 = .item (.token kind piece) ∧
      (lexer.turn t).2.Aligned source ∧
      source.text.take (lexer.turn t).2.slicer.offset =
        source.text.take lexer.slicer.offset ++ piece) ∨
    ((lexer.turn t).1 = .stop ∧ (lexer.turn t).2.spent = true ∧
      lexer.slicer.offset = source.text.length) ∨
    ∃ f, (lexer.turn t).1 = .fault f ∧ (lexer.turn t).2.spent = true := by
  rcases Stream.turn_cases h.not_done t with ⟨item, s, hx, hpull⟩ | ⟨s, hx, hpull⟩ |
    ⟨f, s, hx, hpull⟩
  · rcases extract_sized hna hx with ⟨-, hnone, -⟩ | ⟨kind, n, hitem, hsource, hpos⟩
    · exact absurd hnone (by simp)
    · rw [Option.some.injEq] at hitem
      subst hitem
      rw [turn_of_sized h.not_spent hpull]
      by_cases hle : lexer.slicer.offset + n ≤ lexer.slicer.size
      · have hsize := h.size_eq
        rw [if_pos hle]
        refine Or.inl ⟨kind, lexer.slicer.rest.take n, rfl, ?_, ?_⟩
        · refine ⟨h.not_spent, h.not_done, hsource.trans h.source_eq, ?_, hsize, ?_, ?_⟩
          · exact hpos.trans (congrArg (· + n) h.pos_eq)
          · exact Nat.le_trans hle (Nat.le_of_eq hsize)
          · show lexer.slicer.rest.drop n = source.text.drop (lexer.slicer.offset + n)
            rw [h.rest_eq, List.drop_drop]
        · rw [h.rest_eq]
          exact List.take_add
      · -- the classifier has set the cursor beyond the end of the source
        rw [if_neg hle]
        exact Or.inr (Or.inr ⟨_, rfl, rfl⟩)
  · rcases extract_sized hna hx with ⟨hend, -, -⟩ | ⟨kind, n, hitem, -, -⟩
    · -- the cursor is at the end of its buffer, and all before it has been cut off
      have hle : source.text.length ≤ lexer.slicer.offset := by
        rw [← h.pos_eq, ← h.source_eq]
        exact (Cursor.atEnd_iff _).1 hend
      rw [turn_of_stop h.not_spent hpull]
      exact Or.inr (Or.inl ⟨rfl, rfl, Nat.le_antisymm h.offset_le hle⟩)
    · exact absurd hitem (by simp)
  · rw [turn_of_fault h.not_spent hpull]
    exact Or.inr (Or.inr ⟨_, rfl, rfl⟩)

/-! ## Whole courses -/

/-- How a lexer stands after some pulls, of which `texts` are the texts of the items. -/
inductive Standing (source : Source) (results : List (Pull (Item κ))) (texts : List Text)
    (lexer : Lexer) : Prop
  | reading (aligned : lexer.Aligned source) (not_stopped : Pull.stop ∉ results)
      (covered : texts.flatten = source.text.take lexer.slicer.offset)
  | finished (spent : lexer.spent = true) (covered : texts.flatten = source.text)
  | failed (spent : lexer.spent = true) (f : Fault) (mem : Pull.fault f ∈ results)
      (covered : texts.flatten <+: source.text)

/-- A kind and a text as an item. -/
def tokenOf (token : κ × Text) : Item κ := .token token.1 token.2

/-- The items of the stages are tokens, and their texts are what the lexer has covered. -/
def Covers (source : Source) (stages : List (Pull.Stage (Turn κ) (Item κ) Lexer))
    (lexer : Lexer) : Prop :=
  ∃ tokens : List (κ × Text), Pull.itemsOf stages = tokens.map tokenOf ∧
    Standing source (stages.map Pull.Stage.result) (tokens.map Prod.snd) lexer

/-- One more pull covers what it gives. -/
lemma Covers.turn {stages : List (Pull.Stage (Turn κ) (Item κ) Lexer)}
    (h : Covers source stages lexer) (hna : t.classify.NeverAttaches) :
    Covers source (stages ++ [Pull.stage Lexer.turn t lexer]) (lexer.turn t).2 := by
  obtain ⟨tokens, hitems, hstanding⟩ := h
  have hsnoc := Pull.itemsOf_snoc stages Lexer.turn t lexer
  have hresults := Pull.results_snoc stages Lexer.turn t lexer
  rw [hitems] at hsnoc
  -- a pull without an item leaves the tokens as they are
  have hsame (hnone : (lexer.turn t).1.item? = none) :
      Pull.itemsOf (stages ++ [Pull.stage Lexer.turn t lexer]) = tokens.map tokenOf := by
    rw [hnone] at hsnoc
    simpa using hsnoc
  cases hstanding with
  | reading haligned hnot hcovered =>
    rcases haligned.turn hna with ⟨kind, piece, hres, haligned', htake⟩ | ⟨hres, hspent, hend⟩ |
      ⟨f, hres, hspent⟩
    · refine ⟨tokens ++ [(kind, piece)], ?_, .reading haligned' ?_ ?_⟩
      · rw [hres] at hsnoc
        simpa [Pull.item?, tokenOf] using hsnoc
      · rw [hresults, hres]
        simpa using hnot
      · rw [htake, ← hcovered]
        simp
    · refine ⟨tokens, hsame (by rw [hres]; rfl), .finished hspent ?_⟩
      rw [hcovered, hend, List.take_length]
    · refine ⟨tokens, hsame (by rw [hres]; rfl), .failed hspent f ?_ ?_⟩
      · rw [hresults, hres]
        simp
      · rw [hcovered]
        exact List.take_prefix _ _
  | finished hspent hcovered =>
    rw [turn_of_spent hspent] at hsame ⊢
    exact ⟨tokens, hsame rfl, .finished hspent hcovered⟩
  | failed hspent f hmem hcovered =>
    rw [turn_of_spent hspent] at hresults hsame ⊢
    refine ⟨tokens, hsame rfl, .failed hspent f ?_ hcovered⟩
    rw [hresults]
    exact List.mem_append_left _ hmem

/-- **A lexer loses nothing.**  Whatever the classifiers of the single pulls do to the cursor, and
whatever they and the conversions raise: after every pull, the texts that came out so far are,
one after the other, how the source begins; and they are the whole source if the lexer has
stopped without a failure. -/
theorem texts_prefix_source {errorKind : ErrorKind κ} {limit : Limit} {trace : Trace}
    {convert : Conversion κ} (hstart : start source errorKind limit trace = .ok (convert, lexer))
    (turns : List (Turn κ)) (hturns : ∀ t ∈ turns, t.classify.NeverAttaches) :
    ∃ tokens : List (κ × Text),
      Pull.itemsOf (Pull.course turn turns lexer).1 = tokens.map tokenOf ∧
      (tokens.map Prod.snd).flatten <+: source.text ∧
      (Pull.stop ∈ (Pull.course turn turns lexer).1.map Pull.Stage.result →
        (∀ f, Pull.fault f ∉ (Pull.course turn turns lexer).1.map Pull.Stage.result) →
        (tokens.map Prod.snd).flatten = source.text) := by
  obtain ⟨haligned, hzero⟩ := aligned_start hstart
  have hcovers :
      Covers source (Pull.course turn turns lexer).1 (Pull.course turn turns lexer).2 := by
    refine Pull.course_invariant ?_ ?_
    · exact ⟨[], rfl, .reading haligned (by simp) (by simp [hzero])⟩
    · intro t ht stages lexer' h
      exact h.turn (hturns t ht)
  obtain ⟨tokens, hitems, hstanding⟩ := hcovers
  refine ⟨tokens, hitems, ?_⟩
  cases hstanding with
  | reading _ hnot hcovered =>
    refine ⟨?_, fun hstop => absurd hstop hnot⟩
    rw [hcovered]
    exact List.take_prefix _ _
  | finished _ hcovered => exact ⟨⟨[], by simp [hcovered]⟩, fun _ _ => hcovered⟩
  | failed _ f hmem hcovered => exact ⟨hcovered, fun _ hnone => absurd hmem (hnone f)⟩

/-- A classifier that sets the cursor by hand, to the third code point of its source. -/
def leaping : Scan (Outcome Nat) := do
  Scan.bump
  Scan.setPos 2
  pure (.kind 1)

/-- A classifier that rejects every code point. -/
def rejecting : Scan (Outcome Nat) := do
  Scan.bump
  throw (.rejection .unexpectedInput)

/-- Turns that leap over a code point, reject one, and come to the end. -/
def leapingTurns : List (Turn Nat) :=
  [⟨leaping, fun _ => .ok 0⟩, ⟨rejecting, fun _ => .ok 0⟩, ⟨leaping, fun _ => .ok 0⟩]

/-- A source whose code points have different widths. -/
def leapt : Source := ⟨0, [.ofChar 'a', .ofChar '€', .ofChar 'b']⟩

/-- Nothing is lost where the cursor was set by hand. -/
theorem texts_prefix_source_leaping :
    ∃ convert lexer, start leapt (.function fun _ => .ok 0) = .ok (convert, lexer) ∧
      ∃ tokens : List (Nat × Text),
        Pull.itemsOf (Pull.course turn leapingTurns lexer).1 = tokens.map tokenOf ∧
        (tokens.map Prod.snd).flatten = leapt.text := by
  have hturns : ∀ t ∈ leapingTurns, t.classify.NeverAttaches := by
    have hleaping : Classifier.NeverAttaches leaping :=
      Classifier.neverAttaches_bind fun _ => Classifier.neverAttaches_bind fun _ =>
        Classifier.neverAttaches_pure rfl
    have hrejecting : Classifier.NeverAttaches rejecting :=
      Classifier.neverAttaches_bind fun _ => Classifier.neverAttaches_fail _
    simp [leapingTurns, hleaping, hrejecting]
  have hstart : start leapt (.function fun _ => .ok 0) = .ok (_, _) := rfl
  refine ⟨_, _, hstart, ?_⟩
  obtain ⟨tokens, hitems, -, hwhole⟩ := texts_prefix_source hstart leapingTurns hturns
  refine ⟨tokens, hitems, hwhole ?_ ?_⟩
  · show Pull.stop ∈ [.item (tokenOf (1, [.ofChar 'a', .ofChar '€'])),
      .item (tokenOf (0, [.ofChar 'b'])), .stop]
    simp
  · show ∀ f, Pull.fault f ∉ [.item (tokenOf (1, [.ofChar 'a', .ofChar '€'])),
      .item (tokenOf (0, [.ofChar 'b'])), .stop]
    simp

end Lexer

end Lexeme
