/-
# Texts by scanning and texts by cutting

There are two ways to the texts of the items.  A scanner extracts by text, between two cursors.  A
lexer extracts by length, and the lengths are cut off the source one after the other, away from
the cursor.  The main result, `scanner_lexer_agree`, says that both give the same tokens and end
in the same way, and that cutting never fails, for every classifier that is determined by the
cursor, only moves it, makes no items of its own and lets no signal to stop escape.
-/
import Lexeme.Proofs.Determinacy
import Lexeme.Proofs.Lexers
import Lexeme.Proofs.Slicing

namespace Lexeme

variable {κ : Type} {source : Source} {convert : Conversion κ} {classify : Classifier κ}
  {tokens : List (κ × Text)} {s s' : Session} {f : Fault}

/-- No signal to stop comes out of the classifier. -/
def Classifier.NeverStops (classify : Classifier κ) : Prop :=
  ∀ s s' shown, classify s ≠ .error (.raised .stop shown) s'

/-- No signal to stop comes out of the conversion. -/
def Conversion.NeverStops (convert : Conversion κ) : Prop :=
  ∀ r shown, convert r ≠ .error (.raised .stop shown)

lemma Classifier.Fails.ne_stop (h : classify.Fails convert s f) (hclassify : classify.NeverStops)
    (hconvert : convert.NeverStops) (shown : Text) : f ≠ .raised .stop shown := by
  rintro rfl
  cases h with
  | raised h _ => exact hclassify _ _ shown h
  | conversion _ hf => exact hconvert _ shown hf

/-! ## Both ways in step -/

/-- A scanner, a lexer and the stream of the lexer drain to the same tokens and the same ending,
and the tokens cover some of what remains. -/
structure InStep (classify : Classifier κ) (convert : Conversion κ) (scanner : Scanner)
    (lexer : Lexer) (tokens : List (κ × Text)) (ending : Ending) : Prop where
  byText : ∃ last, Pull.Drains (Scanner.pull classify convert) scanner
    ⟨tokens.map Lexer.tokenOf, ending, last⟩
  byCutting : ∃ last, Pull.Drains (Lexer.pull classify convert) lexer
    ⟨tokens.map Lexer.tokenOf, ending, last⟩
  byLength : ∃ last, Pull.Drains (Stream.pull classify convert) lexer.stream
    ⟨tokens.map Lexer.sizedOf, ending, last⟩
  covered : (tokens.map Prod.snd).flatten <+: lexer.stream.session.cursor.rest

lemma exists_inStep (hmoves : classify.OnlyMoves) (hdet : classify.Determined)
    (hna : classify.NeverAttaches) (hclassify : classify.NeverStops)
    (hconvert : convert.NeverStops) {scanner : Scanner} {lexer : Lexer}
    (haligned : lexer.Aligned source)
    (hcursor : scanner.session.cursor = lexer.stream.session.cursor) :
    ∃ tokens ending, InStep classify convert scanner lexer tokens ending := by
  -- every item shortens what remains
  induction hlen : lexer.stream.session.cursor.rest.length using Nat.strongRecOn
    generalizing scanner lexer with
  | ind len ih =>
    have hseen : (extract classify convert true).seen scanner.session =
        (extract classify convert true).seen lexer.stream.session :=
      hdet.extract convert true _ _ hcursor
    rcases extract_cases hmoves hna convert lexer.stream.session with ⟨-, hx⟩ |
      ⟨kind, n, s, hpos, hn, hskip, hx⟩ | ⟨f, s, hfails, hx⟩
    · rw [Scan.seen_of_ok (hx true)] at hseen
      obtain ⟨s', hscanner, -⟩ := Scan.seen_eq_ok_iff.1 hseen
      obtain ⟨lexer', hlexer⟩ := haligned.pull_of_none (hx false)
      exact ⟨[], .stopped,
        { byText := ⟨_, .stop (Scanner.pull_of_none hscanner)⟩
          byCutting := ⟨_, .stop hlexer⟩
          byLength := ⟨_, .stop (Stream.pull_of_none haligned.not_done (hx false))⟩
          covered := List.nil_prefix }⟩
    · rw [Scan.seen_of_ok (hx true)] at hseen
      obtain ⟨s', hscanner, hcursor'⟩ := Scan.seen_eq_ok_iff.1 hseen
      have hsized : extract classify convert false lexer.stream.session =
          .ok (some (.sized kind n)) s := by
        rw [hx false, Item.ofKind_ofPiece kind hn]
      obtain ⟨lexer', hlexer, haligned', hstream⟩ := haligned.pull_of_sized hn hsized hskip
      have hrest : lexer'.stream.session.cursor = lexer.stream.session.cursor.skip n := by
        rw [hstream]
        exact hskip
      have hcursors : (⟨s'⟩ : Scanner).session.cursor = lexer'.stream.session.cursor := by
        rw [hrest, ← hskip]
        exact hcursor'
      obtain ⟨tokens, ending, h⟩ := ih (len - n) (by omega) haligned' hcursors
        (by simp [hrest, hlen])
      obtain ⟨last, hscanners⟩ := h.byText
      obtain ⟨last', hlexers⟩ := h.byCutting
      obtain ⟨last'', hstreams⟩ := h.byLength
      rw [hstream] at hstreams
      refine ⟨(kind, lexer.stream.session.cursor.rest.take n) :: tokens, ending,
        { byText := ⟨last, .item (Scanner.pull_of_some hscanner) hscanners⟩
          byCutting := ⟨last', .item hlexer hlexers⟩
          byLength := ⟨last'', .item ?_ hstreams⟩
          covered := ?_ }⟩
      · rw [Stream.pull_of_some haligned.not_done hsized]
        simp [Lexer.sizedOf, hn]
      · have hcovered := h.covered
        rw [hrest, Cursor.skip_rest] at hcovered
        have hprefix := (List.prefix_append_right_inj
          (lexer.stream.session.cursor.rest.take n)).2 hcovered
        rwa [List.take_append_drop] at hprefix
    · rw [Scan.seen_of_error (hx true)] at hseen
      obtain ⟨s', hscanner, -⟩ := Scan.seen_eq_error_iff.1 hseen
      obtain ⟨lexer', hlexer⟩ := haligned.pull_of_error (hx false)
      have hstream := Stream.pull_of_error haligned.not_done (hx false)
      rw [Stream.guardStop_eq _ (hfails.ne_stop hclassify hconvert)] at hlexer hstream
      exact ⟨[], .failed f,
        { byText := ⟨_, .fault (Scanner.pull_of_error hscanner)⟩
          byCutting := ⟨_, .fault hlexer⟩
          byLength := ⟨_, .fault hstream⟩
          covered := List.nil_prefix }⟩

/-- **Scanning for texts and cutting texts agree.**  A scanner that is asked until it gives nothing
or fails, and a lexer that is drained, give the same kinds with the same texts and end in the same
way: both come to the end, or both fail with the same fault.  The lexer ends as its stream of
lengths does, and the lengths can be cut off the source, so cutting never fails. -/
theorem scanner_lexer_agree {errorKind : ErrorKind κ} {limit : Limit}
    (hlimit : limit.check source.text = .ok ()) (hresolve : errorKind.resolve = .ok convert)
    (hmoves : classify.OnlyMoves) (hdet : classify.Determined) (hna : classify.NeverAttaches)
    (hclassify : classify.NeverStops) (hconvert : convert.NeverStops) (trace trace' : Trace) :
    ∃ scanner lexer, Scanner.start source errorKind limit trace = .ok (convert, scanner) ∧
      Lexer.start source errorKind limit trace' = .ok (convert, lexer) ∧
      ∃ (tokens : List (κ × Text)) (ending : Ending),
        (∃ last, Pull.Drains (Scanner.pull classify convert) scanner
          ⟨tokens.map Lexer.tokenOf, ending, last⟩) ∧
        (∃ last, Pull.Drains (Lexer.pull classify convert) lexer
          ⟨tokens.map Lexer.tokenOf, ending, last⟩) ∧
        (∃ last, Pull.Drains (Stream.pull classify convert) lexer.stream
          ⟨tokens.map Lexer.sizedOf, ending, last⟩) ∧
        ∃ last, Pull.Drains Slices.pull
          (Slices.start source.text (tokens.map fun token => (token.1, token.2.length)))
          ⟨tokens.map Lexer.tokenOf, .stopped, last⟩ := by
  have hlexer := Lexer.start_eq_ok hlimit hresolve trace'
  have hcursor : (⟨.start source trace⟩ : Scanner).session.cursor = .start source := rfl
  obtain ⟨tokens, ending, h⟩ := exists_inStep hmoves hdet hna hclassify hconvert
    (Lexer.aligned_start hlexer).1 hcursor
  obtain ⟨rest, hrest⟩ := h.covered
  have hcut := (Slices.yields_of_start tokens rest []).drains (.stop rfl)
  rw [hrest, List.append_nil] at hcut
  exact ⟨_, _, Scanner.start_eq_ok hlimit hresolve trace, hlexer, tokens, ending, h.byText,
    h.byCutting, h.byLength, _, hcut⟩

/-- A classifier that rejects every code point, and raises a fault at an exclamation mark. -/
def grudging (f : Fault) : Scan (Outcome Nat) := do
  let c ← Scan.peek
  Scan.bump
  if c = .ofChar '!' then throw f else throw (.rejection .unexpectedInput)

/-- The conversion that makes zero of every rejection. -/
def zeros : Conversion Nat := fun _ => .ok 0

lemma grudging_built (f : Fault) : Scan.Built (grudging f) := by
  refine .bind .peek fun c => .bind .bump fun _ => ?_
  split
  · exact .fail _
  · exact .fail _

lemma grudging_neverAttaches (f : Fault) : Classifier.NeverAttaches (grudging f) := by
  refine Classifier.neverAttaches_bind fun c => Classifier.neverAttaches_bind fun _ => ?_
  split
  · exact Classifier.neverAttaches_fail _
  · exact Classifier.neverAttaches_fail _

lemma grudging_neverStops : Classifier.NeverStops (grudging .noLength) := by
  intro s s' shown h
  rcases hr : s.cursor.rest with _ | ⟨x, t⟩
  · simp [grudging, Scan.bind_apply, Scan.peek, Cursor.peek, hr, Scan.ofExcept] at h
  · simp only [grudging, Scan.bind_apply, Scan.peek, Cursor.peek, hr, Scan.ofExcept, Scan.bump,
      Scan.tryMove, Cursor.bump, Except.map] at h
    split at h
    · cases h
    · cases h

/-- Two code points become tokens, and at the third one both ways fail. -/
theorem scanner_lexer_agree_grudging :
    ∃ scanner lexer,
      Scanner.start ⟨0, Text.ofString "a€!b"⟩ (.function zeros) = .ok (zeros, scanner) ∧
      Lexer.start ⟨0, Text.ofString "a€!b"⟩ (.function zeros) = .ok (zeros, lexer) ∧
      ∃ (tokens : List (Nat × Text)) (ending : Ending),
        (∃ last, Pull.Drains (Scanner.pull (grudging .noLength) zeros) scanner
          ⟨tokens.map Lexer.tokenOf, ending, last⟩) ∧
        (∃ last, Pull.Drains (Lexer.pull (grudging .noLength) zeros) lexer
          ⟨tokens.map Lexer.tokenOf, ending, last⟩) ∧
        tokens.map Lexer.tokenOf =
          [.token 0 (Text.ofString "a"), .token 0 (Text.ofString "€")] ∧
        ending = .failed .noLength := by
  have hlimit : Limit.check {} (Text.ofString "a€!b") = .ok () := rfl
  have hresolve : (ErrorKind.function zeros).resolve = .ok zeros := rfl
  have hzeros : zeros.NeverStops := by
    intro r shown h
    cases h
  obtain ⟨scanner, lexer, hscanner, hlexer, tokens, ending, ⟨last, htexts⟩, hcut, -⟩ :=
    @scanner_lexer_agree _ ⟨0, Text.ofString "a€!b"⟩ _ _ _ _ hlimit hresolve
      (grudging_built _).onlyMoves (grudging_built _).determined (grudging_neverAttaches _)
      grudging_neverStops hzeros {} {}
  refine ⟨scanner, lexer, hscanner, hlexer, tokens, ending, ⟨last, htexts⟩, hcut, ?_⟩
  cases hscanner
  have hrun : Pull.Drains (Scanner.pull (grudging .noLength) zeros)
      ⟨.start ⟨0, Text.ofString "a€!b"⟩⟩ ⟨[.token 0 (Text.ofString "a"),
        .token 0 (Text.ofString "€")], .failed .noLength, _⟩ :=
    .item rfl (.item rfl (.fault rfl))
  have hsame := htexts.unique hrun
  rw [Run.mk.injEq] at hsame
  exact ⟨hsame.1, hsame.2.1⟩

end Lexeme
