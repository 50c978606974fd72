/-
# Draining ends

No loop over items has a counter of its own.  It ends because every pull that gives an item takes
a piece off what remains, and the piece is not empty: an extraction asks for progress in octets,
and a cursor that was only moved has passed octets exactly if it has passed code points.
`Pull.TakesPieces` states this for one pull, and `Pull.TakesPieces.exhausts` is the induction on
the length of what remains.  The classifier of a pull may differ from those before, so that
classifiers with a state of their own are covered: `Pull.along` gives every pull its own turn.

The main result, `draining_terminates`, is about the four loops: pulling a stream, pulling a lexer,
asking a scanner, and measuring an item to move past it.
-/
import Lexeme.Proofs.Measuring
import Lexeme.Proofs.Octets

namespace Lexeme

/-! ## Pulls that take pieces -/

namespace Pull

variable {τ α σ κ : Type} {step : τ → σ → Pull α × σ} {turns : Nat → τ} {Allowed : τ → Prop}
  {Valid : σ → Prop} {rest : σ → Text} {make : κ × Text → α} {s : σ}

/-- Pull with the next of the turns.  The state counts the pulls that were made. -/
def along (step : τ → σ → Pull α × σ) (turns : Nat → τ) (p : σ × Nat) : Pull α × (σ × Nat) :=
  ((step (turns p.2) p.1).1, (step (turns p.2) p.1).2, p.2 + 1)

lemma along_of_step {n : Nat} {p : Pull α} {s' : σ} (h : step (turns n) s = (p, s')) :
    along step turns (s, n) = (p, s', n + 1) := by
  simp only [along, h]

/-- A pull stops where nothing remains, or takes a piece that is not empty, or fails. -/
def TakesPieces (step : τ → σ → Pull α × σ) (Allowed : τ → Prop) (Valid : σ → Prop)
    (rest : σ → Text) (make : κ × Text → α) : Prop :=
  ∀ t s, Allowed t → Valid s →
    (∃ s', step t s = (.stop, s') ∧ rest s = []) ∨
    (∃ kind n s', step t s = (.item (make (kind, (rest s).take n)), s') ∧
      0 < n ∧ n ≤ (rest s).length ∧ Valid s' ∧ rest s' = (rest s).drop n) ∨
    ∃ f s', step t s = (.fault f, s')

/-- Pulling comes to an end.  The items are made of pieces, none of them empty, that follow each
other from the start of the text; if no pull has failed they make up the text.  A run with more
pulls than the text has code points is not cut short. -/
structure ExhaustsWith (pull : σ → Pull α × σ) (s : σ) (text : Text) (make : κ × Text → α)
    (tokens : List (κ × Text)) (ending : Ending) (last : σ) : Prop where
  drains : Drains pull s ⟨tokens.map make, ending, last⟩
  not_empty : ∀ token ∈ tokens, 1 ≤ token.2.length
  length_le : tokens.length ≤ text.length
  covered : (tokens.map Prod.snd).flatten <+: text
  ends : (ending = .stopped ∧ (tokens.map Prod.snd).flatten = text) ∨ ∃ f, ending = .failed f
  drain_eq : ∀ bound, text.length < bound →
    drain pull bound s = ⟨tokens.map make, ending, last⟩

/-- Pulling comes to an end, whatever the items are and however it ends. -/
def Exhausts (pull : σ → Pull α × σ) (s : σ) (text : Text) (make : κ × Text → α) : Prop :=
  ∃ tokens ending last, ExhaustsWith pull s text make tokens ending last

/-- Every token needs a code point of its own. -/
lemma length_le_flatten {tokens : List (κ × Text)} (h : ∀ token ∈ tokens, 1 ≤ token.2.length) :
    tokens.length ≤ (tokens.map Prod.snd).flatten.length := by
  induction tokens with
  | nil => simp
  | cons token tokens ih =>
    have hfirst := h token (by simp)
    have hrest := ih fun token' ht => h token' (by simp [ht])
    simp only [List.map_cons, List.flatten_cons, List.length_append, List.length_cons]
    omega

lemma ExhaustsWith.of_drains {pull : σ → Pull α × σ} {text : Text} {tokens : List (κ × Text)}
    {ending : Ending} {last : σ} (hdrains : Drains pull s ⟨tokens.map make, ending, last⟩)
    (hne : ∀ token ∈ tokens, 1 ≤ token.2.length) (hcovered : (tokens.map Prod.snd).flatten <+: text)
    (hends : (ending = .stopped ∧ (tokens.map Prod.snd).flatten = text) ∨
      ∃ f, ending = .failed f) :
    ExhaustsWith pull s text make tokens ending last := by
  have hlength : tokens.length ≤ text.length :=
    Nat.le_trans (length_le_flatten hne) hcovered.length_le
  refine ⟨hdrains, hne, hlength, hcovered, hends, fun bound hbound => hdrains.drain_eq ?_⟩
  simp only [List.length_map]
  omega

/-- One more piece in front. -/
lemma ExhaustsWith.cons {pull : σ → Pull α × σ} {text : Text} {tokens : List (κ × Text)}
    {ending : Ending} {last s' : σ} {kind : κ} {n : Nat}
    (h : ExhaustsWith pull s' (text.drop n) make tokens ending last)
    (hpull : pull s = (.item (make (kind, text.take n)), s')) (hpos : 0 < n)
    (hn : n ≤ text.length) :
    ExhaustsWith pull s text make ((kind, text.take n) :: tokens) ending last := by
  refine .of_drains (.item hpull h.drains) ?_ ?_ ?_
  · intro token htoken
    rcases List.mem_cons.1 htoken with rfl | htoken
    · simp only [List.length_take]
      omega
    · exact h.not_empty token htoken
  · have hprefix := (List.prefix_append_right_inj (text.take n)).2 h.covered
    rw [List.take_append_drop] at hprefix
    simpa using hprefix
  · rcases h.ends with ⟨hstopped, hflat⟩ | hfailed
    · refine Or.inl ⟨hstopped, ?_⟩
      rw [List.map_cons, List.flatten_cons, hflat, List.take_append_drop]
    · exact Or.inr hfailed

/-- Pulls that take pieces come to an end. -/
theorem TakesPieces.exhausts (h : TakesPieces step Allowed Valid rest make)
    (hturns : ∀ n, Allowed (turns n)) (hs : Valid s) (n : Nat) :
    Exhausts (along step turns) (s, n) (rest s) make := by
  -- what remains after a piece was taken is shorter
  induction hlen : (rest s).length using Nat.strongRecOn generalizing s n with
  | ind len ih =>
    rcases h (turns n) s (hturns n) hs with ⟨s', hstep, hnil⟩ |
      ⟨kind, m, s', hstep, hpos, hm, hs', hrest⟩ | ⟨f, s', hstep⟩
    · exact ⟨[], .stopped, _, .of_drains (.stop (along_of_step hstep)) (by simp)
        List.nil_prefix (Or.inl ⟨rfl, hnil.symm⟩)⟩
    · have hshort : (rest s').length = len - m := by
        rw [hrest, List.length_drop, hlen]
      obtain ⟨tokens, ending, last, hlast⟩ := ih (len - m) (by omega) hs' (n + 1) hshort
      rw [hrest] at hlast
      exact ⟨_, ending, last, hlast.cons (along_of_step hstep) hpos hm⟩
    · exact ⟨[], .failed f, _, .of_drains (.fault (along_of_step hstep)) (by simp)
        List.nil_prefix (Or.inr ⟨f, rfl⟩)⟩

end Pull

/-! ## The four loops -/

variable {κ : Type}

/-- Ask a scanner with the classifier and the conversion of a turn. -/
def Scanner.turn (t : Turn κ) (scanner : Scanner) : Pull (Item κ) × Scanner :=
  scanner.pull t.classify t.convert

/-- A scanner that could be opened stands at the start of its source. -/
lemma Scanner.eq_of_start {source : Source} {errorKind : ErrorKind κ} {limit : Limit}
    {trace : Trace} {convert : Conversion κ} {scanner : Scanner}
    (h : start source errorKind limit trace = .ok (convert, scanner)) :
    scanner = ⟨.start source trace⟩ := by
  rcases hl : limit.check source.text with f | u
  · rw [start, hl] at h
    exact absurd h (by simp [bind, Except.bind])
  · rcases hr : errorKind.resolve with f | g
    · rw [start, hl, hr] at h
      exact absurd h (by simp [bind, Except.bind])
    · rw [start_eq_ok hl hr, Except.ok.injEq, Prod.mk.injEq] at h
      exact h.2.symm

/-- What measuring an item and moving past it meets: a classifier and an error kind. -/
structure MeasureTurn (κ : Type) where
  classify : Classifier κ
  errorKind : ErrorKind κ

/-- Measure an item and move past it, with what a turn brings. -/
def MeasureTurn.pull (t : MeasureTurn κ) (s : Session) : Pull (Item κ) × Session :=
  measurePull t.classify t.errorKind s

lemma Cursor.rest_eq_nil {c : Cursor} (h : c.atEnd = true) : c.rest = [] :=
  List.isEmpty_iff.1 h

lemma Lexer.sizedOf_take (kind : κ) {text : Text} {n : Nat} (hn : n ≤ text.length) :
    sizedOf (kind, text.take n) = .sized kind n := by
  rw [sizedOf, List.length_take, Nat.min_eq_left hn]

lemma Stream.takesPieces :
    Pull.TakesPieces (Stream.turn (κ := κ))
      (fun t => t.classify.OnlyMoves ∧ t.classify.NeverAttaches)
      (fun stream => stream.done = false) (fun stream => stream.session.cursor.rest)
      Lexer.sizedOf := by
  rintro t stream ⟨hmoves, hna⟩ hdone
  rcases extract_cases hmoves hna t.convert stream.session with ⟨hend, hx⟩ |
    ⟨kind, n, s, hpos, hn, hskip, hx⟩ | ⟨f, s, -, hx⟩
  · exact Or.inl ⟨_, pull_of_none hdone (hx false), Cursor.rest_eq_nil hend⟩
  · have hpull := pull_of_some hdone (hx false)
    rw [Item.ofKind_ofPiece kind hn, ← Lexer.sizedOf_take kind hn] at hpull
    refine Or.inr (Or.inl ⟨kind, n, { stream with session := s, count := stream.count + 1 }, hpull,
      hpos, hn, hdone, ?_⟩)
    show s.cursor.rest = _
    rw [hskip, Cursor.skip_rest]
  · exact Or.inr (Or.inr ⟨_, _, pull_of_error hdone (hx false)⟩)

lemma Lexer.takesPieces (source : Source) :
    Pull.TakesPieces (Lexer.turn (κ := κ))
      (fun t => t.classify.OnlyMoves ∧ t.classify.NeverAttaches) (Lexer.Aligned source)
      (fun lexer => lexer.stream.session.cursor.rest) tokenOf := by
  rintro t lexer ⟨hmoves, hna⟩ haligned
  rcases extract_cases hmoves hna t.convert lexer.stream.session with
    ⟨hend, hx⟩ | ⟨kind, n, s, hpos, hn, hskip, hx⟩ | ⟨f, s, -, hx⟩
  · obtain ⟨lexer', hpull⟩ := haligned.pull_of_none (hx false)
    exact Or.inl ⟨lexer', hpull, Cursor.rest_eq_nil hend⟩
  · have hsized := hx false
    rw [Item.ofKind_ofPiece kind hn] at hsized
    obtain ⟨lexer', hpull, haligned', hstream⟩ := haligned.pull_of_sized hn hsized hskip
    refine Or.inr (Or.inl ⟨kind, n, lexer', hpull, hpos, hn, haligned', ?_⟩)
    show lexer'.stream.session.cursor.rest = _
    rw [hstream]
    show s.cursor.rest = _
    rw [hskip, Cursor.skip_rest]
  · obtain ⟨lexer', hpull⟩ := haligned.pull_of_error (hx false)
    exact Or.inr (Or.inr ⟨_, lexer', hpull⟩)

lemma Scanner.takesPieces :
    Pull.TakesPieces (Scanner.turn (κ := κ))
      (fun t => t.classify.OnlyMoves ∧ t.classify.NeverAttaches) (fun _ => True)
      (fun scanner => scanner.session.cursor.rest) Lexer.tokenOf := by
  rintro t scanner ⟨hmoves, hna⟩ _
  rcases extract_cases hmoves hna t.convert scanner.session with ⟨hend, hx⟩ |
    ⟨kind, n, s, hpos, hn, hskip, hx⟩ | ⟨f, s, -, hx⟩
  · exact Or.inl ⟨_, pull_of_none (hx true), Cursor.rest_eq_nil hend⟩
  · refine Or.inr (Or.inl ⟨kind, n, _, pull_of_some (hx true), hpos, hn, trivial, ?_⟩)
    show s.cursor.rest = _
    rw [hskip, Cursor.skip_rest]
  · exact Or.inr (Or.inr ⟨_, _, pull_of_error (hx true)⟩)

lemma MeasureTurn.takesPieces :
    Pull.TakesPieces (MeasureTurn.pull (κ := κ))
      (fun t => t.classify.OnlyMoves ∧ t.classify.NeverAttaches) (fun _ => True)
      (fun s => s.cursor.rest) Lexer.sizedOf := by
  rintro t s ⟨hmoves, hna⟩ _
  rcases hresolve : t.errorKind.resolve with f | convert
  · -- an error kind that is not suitable is noticed before the classifier is called
    have hwrap : wrapConsume t.classify t.errorKind s = .error f s :=
      Scan.bind_of_error (Scan.bind_of_error (Scan.ofExcept_of_error hresolve s))
    exact Or.inr (Or.inr ⟨f, s, by rw [pull, measurePull, hwrap]⟩)
  · rcases extract_cases hmoves hna convert s with ⟨hend, hx⟩ |
      ⟨kind, n, s', hpos, hn, hskip, hx⟩ | ⟨f, s', -, hx⟩
    · exact Or.inl ⟨_, measurePull_of_none hresolve (hx false), Cursor.rest_eq_nil hend⟩
    · have hsized := hx false
      rw [Item.ofKind_ofPiece kind hn] at hsized
      have hconsume := Cursor.consume_of_le hpos hn
      rw [← hskip] at hconsume
      have hpull := measurePull_of_sized hresolve hsized hconsume
      rw [← Lexer.sizedOf_take kind hn] at hpull
      refine Or.inr (Or.inl ⟨kind, n, s', hpull, hpos, hn, trivial, ?_⟩)
      show s'.cursor.rest = _
      rw [hskip, Cursor.skip_rest]
    · exact Or.inr (Or.inr ⟨_, _, measurePull_of_error hresolve (hx false)⟩)

/-- **Draining ends.**  Whatever the classifiers of the single pulls do, as long as they only move
the cursor and make no items of their own, and whatever they and the conversions raise: pulling a
stream, pulling a lexer, asking a scanner, and measuring an item to move past it come to the end of
the source or fail after at most as many items as the source has code points.  Every item covers at
least one code point, and the items of a loop that did not fail cover the source. -/
theorem draining_terminates (source : Source) (turns : Nat → Turn κ)
    (hturns : ∀ n, (turns n).classify.OnlyMoves ∧ (turns n).classify.NeverAttaches) :
    (∀ (errorKind : ErrorKind κ) (limit : Limit) (trace : Trace) (convert : Conversion κ) stream,
      Stream.start source errorKind limit trace = .ok (convert, stream) →
      Pull.Exhausts (Pull.along Stream.turn turns) (stream, 0) source.text Lexer.sizedOf) ∧
    (∀ (errorKind : ErrorKind κ) (limit : Limit) (trace : Trace) (convert : Conversion κ) lexer,
      Lexer.start source errorKind limit trace = .ok (convert, lexer) →
      Pull.Exhausts (Pull.along Lexer.turn turns) (lexer, 0) source.text Lexer.tokenOf) ∧
    (∀ (errorKind : ErrorKind κ) (limit : Limit) (trace : Trace) (convert : Conversion κ) scanner,
      Scanner.start source errorKind limit trace = .ok (convert, scanner) →
      Pull.Exhausts (Pull.along Scanner.turn turns) (scanner, 0) source.text Lexer.tokenOf) ∧
    ∀ (errorKind : Nat → ErrorKind κ) (s : Session), s.cursor = .start source →
      Pull.Exhausts
        (Pull.along MeasureTurn.pull fun n => ⟨(turns n).classify, errorKind n⟩) (s, 0)
        source.text Lexer.sizedOf := by
  refine ⟨?_, ?_, ?_, ?_⟩
  · intro errorKind limit trace convert stream hstart
    obtain ⟨-, rfl⟩ := Stream.eq_of_start hstart
    exact Stream.takesPieces.exhausts hturns rfl 0
  · intro errorKind limit trace convert lexer hstart
    obtain ⟨haligned, hzero⟩ := Lexer.aligned_start hstart
    have hrest : lexer.stream.session.cursor.rest = source.text := by
      rw [← haligned.slicer_rest, haligned.rest_eq, hzero, List.drop_zero]
    rw [← hrest]
    exact (Lexer.takesPieces source).exhausts hturns haligned 0
  · intro errorKind limit trace convert scanner hstart
    obtain rfl := Scanner.eq_of_start hstart
    exact Scanner.takesPieces.exhausts hturns trivial 0
  · intro errorKind s hs
    have hrest : s.cursor.rest = source.text := by rw [hs]; rfl
    rw [← hrest]
    exact MeasureTurn.takesPieces.exhausts hturns trivial 0

/-- A classifier that consumes two code points and one code point by turns. -/
def alternating (n : Nat) : Turn Nat := ⟨taking (2 - n % 2), zeros⟩

/-- Three items exhaust five code points of different widths. -/
theorem draining_terminates_alternating :
    (∃ convert stream, Stream.start mixed (.function zeros) = .ok (convert, stream) ∧
      Pull.Exhausts (Pull.along Stream.turn alternating) (stream, 0) mixed.text Lexer.sizedOf) ∧
    (∃ convert lexer, Lexer.start mixed (.function zeros) = .ok (convert, lexer) ∧
      Pull.Exhausts (Pull.along Lexer.turn alternating) (lexer, 0) mixed.text Lexer.tokenOf ∧
      (Pull.drain (Pull.along Lexer.turn alternating) 6 (lexer, 0)).items =
        [.token 2 (mixed.text.take 2), .token 1 ((mixed.text.drop 2).take 1),
          .token 2 (mixed.text.drop 3)]) ∧
    (∃ convert scanner, Scanner.start mixed (.function zeros) = .ok (convert, scanner) ∧
      Pull.Exhausts (Pull.along Scanner.turn alternating) (scanner, 0) mixed.text
        Lexer.tokenOf) ∧
    Pull.Exhausts (Pull.along MeasureTurn.pull fun n => ⟨taking (2 - n % 2), .function zeros⟩)
      (.start mixed, 0) mixed.text Lexer.sizedOf := by
  have hturns : ∀ n, (alternating n).classify.OnlyMoves ∧
      (alternating n).classify.NeverAttaches := by
    intro n
    exact ⟨.bind (.consume _) fun _ => .pure _,
      Classifier.neverAttaches_bind fun _ => Classifier.neverAttaches_pure rfl⟩
  obtain ⟨hstream, hlexer, hscanner, hmeasure⟩ := draining_terminates mixed alternating hturns
  exact ⟨⟨_, _, rfl, hstream (.function zeros) {} {} _ _ rfl⟩,
    ⟨_, _, rfl, hlexer (.function zeros) {} {} _ _ rfl, rfl⟩,
    ⟨_, _, rfl, hscanner (.function zeros) {} {} _ _ rfl⟩,
    hmeasure (fun _ => .function zeros) _ rfl⟩

end Lexeme
