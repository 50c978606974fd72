/-
# The arithmetic lexer finds the one tokenization

Where a token comes next that is not followed by a code point which it bars, the classifier
consumes just this token, `extract_of_token`.  So a lexer that is drained gives the tokens of every
tokenization of its source.  Since the source has a tokenization, the lexer always comes to the
end, and there is no second tokenization: this is `lex_unique_tokenization`.
-/
import Lexeme.Proofs.Arithmetic.Grammar
import Lexeme.Proofs.Drains
import Lexeme.Proofs.Lexers

namespace Lexeme.Arithmetic

variable {kind : Kind} {text rest : Text} {barred : CodePoint → Prop} {s s' : Session}
  {tokens : List (Kind × Text)}

/-! ## Numbers -/

lemma number_of_integer {whole : Text} (hrest : s.cursor.rest = whole ++ rest)
    (hwhole : ∀ c ∈ whole, c.isDigit = true)
    (hnext : ∀ c ∈ rest.head?, ¬ (c.isDigit = true ∨ c = point)) :
    number s = .ok (.kind .integer) (s.moveTo (s.cursor.skip whole.length)) := by
  have hdigits : digits s = .ok (.ofText whole) (s.moveTo (s.cursor.skip whole.length)) :=
    Scan.takeWhile_of_rest hrest hwhole fun c hc h => hnext c hc (Or.inl h)
  have hpoint : ¬ [point] <+: (s.moveTo (s.cursor.skip whole.length)).cursor.rest := by
    rintro ⟨after, hafter⟩
    have hafter' : point :: after = rest := by
      simpa [Session.moveTo, hrest] using hafter
    exact hnext point (by simp [← hafter']) (Or.inr rfl)
  rw [number, Scan.bind_of_ok hdigits, Scan.bind_of_ok (Scan.take_of_not_prefix hpoint)]
  rfl

/-- With a point after its digits, a number is a float if digits follow, and rejected if not. -/
lemma number_of_point {whole fraction : Text}
    (hrest : s.cursor.rest = whole ++ point :: (fraction ++ rest))
    (hwhole : ∀ c ∈ whole, c.isDigit = true) (hfraction : ∀ c ∈ fraction, c.isDigit = true)
    (hnext : ∀ c ∈ rest.head?, ¬ c.isDigit = true) :
    number s =
      if fraction = [] then
        .error ((Consumed.ofText fraction).outOfBound "at least" 1)
          (s.moveTo (s.cursor.skip (whole ++ point :: fraction).length))
      else
        .ok (.kind .float) (s.moveTo (s.cursor.skip (whole ++ point :: fraction).length)) := by
  have hdigits : digits s = .ok (.ofText whole) (s.moveTo (s.cursor.skip whole.length)) := by
    refine Scan.takeWhile_of_rest hrest hwhole ?_
    rintro c hc
    obtain rfl : point = c := by simpa using hc
    decide
  have hpoint : Scan.take [point] (s.moveTo (s.cursor.skip whole.length)) =
      .ok (.ofText [point]) (s.moveTo (s.cursor.skip (whole.length + 1))) := by
    have hstart : (s.moveTo (s.cursor.skip whole.length)).cursor.rest =
        [point] ++ (fraction ++ rest) := by
      simp [Session.moveTo, hrest]
    rw [Scan.take_of_rest (by simp) hstart, Scan.moveTo_skip_skip]
    rfl
  have hany : (Consumed.ofText [point]).any = true := by decide
  have hmore : digits (s.moveTo (s.cursor.skip (whole.length + 1))) =
      .ok (.ofText fraction)
        (s.moveTo (s.cursor.skip (whole ++ point :: fraction).length)) := by
    have hstart : (s.moveTo (s.cursor.skip (whole.length + 1))).cursor.rest =
        fraction ++ rest := by
      simp [Session.moveTo, hrest]
    have hlen : (whole ++ point :: fraction).length = whole.length + 1 + fraction.length := by
      simp [Nat.add_assoc, Nat.add_comm 1]
    rw [digits, Scan.takeWhile_of_rest hstart hfraction hnext, Scan.moveTo_skip_skip, hlen]
  rw [number, Scan.bind_of_ok hdigits, Scan.bind_of_ok hpoint, if_pos hany, Scan.bind_of_ok hmore]
  by_cases hnil : fraction = []
  · subst hnil
    rfl
  · have hbound : (Consumed.ofText fraction).atLeast 1 = .ok (.ofText fraction) := by
      have hpos : (1 : Int) ≤ (Consumed.ofText fraction).chars := by
        have hlen := List.length_pos_iff.2 hnil
        simp only [Consumed.ofText]
        omega
      rw [Consumed.atLeast, if_pos hpos]
    rw [Scan.bind_of_ok (Scan.ofExcept_of_ok hbound _), if_neg hnil]
    rfl

/-! ## Tokens -/

lemma exists_head_of_point {whole : Text} (hwhole : ∀ c ∈ whole, c.isDigit = true) (u : Text) :
    ∃ c t, whole ++ point :: u = c :: t ∧ (c = point ∨ c.isDigit = true) := by
  cases whole with
  | nil => exact ⟨point, u, rfl, Or.inl rfl⟩
  | cons c whole => exact ⟨c, whole ++ point :: u, rfl, Or.inr (hwhole c (by simp))⟩

/-- A digit and the point are where numbers begin. -/
lemma classify_of_number {c : CodePoint} (hrest : s.cursor.rest = c :: rest)
    (hc : c = point ∨ c.isDigit = true) : classify s = number s := by
  have hblank : c.isBlank = false := by
    rcases hc with rfl | hdigit
    · decide
    · exact CodePoint.not_isBlank_of_isDigit hdigit
  rw [classify, Scan.bind_of_ok (Scan.peek_of_rest hrest), if_neg (by simp [hblank]), if_pos hc]

/-- The outcomes that end in a kind. -/
inductive Settles : Kind → Outcome Kind → Prop
  | kind (kind : Kind) : Settles kind (.kind kind)
  | rejected {r : Rejection} {condition : Condition} (hr : r.condition = some condition) :
      Settles .error (.rejected r)

lemma settles_of_kind (h : classify s = .ok (.kind kind) s') :
    ∃ outcome, Settles kind outcome ∧ Classifier.settled classify s = .ok outcome s' :=
  ⟨_, .kind kind, Classifier.settled_eq_ok_iff.2 (Or.inl h)⟩

lemma settles_of_error {detail : Detail}
    (h : classify s = .error (.rejection (.unexpectedInput detail)) s') :
    ∃ outcome, Settles .error outcome ∧ Classifier.settled classify s = .ok outcome s' :=
  ⟨_, @Settles.rejected (.unexpectedInput detail) _ rfl,
    Classifier.settled_eq_ok_iff.2 (Or.inr ⟨_, rfl, h⟩)⟩

lemma settled_of_token (htoken : Token kind text barred) (hrest : s.cursor.rest = text ++ rest)
    (hnext : ∀ c ∈ rest.head?, ¬ barred c) :
    ∃ outcome, Settles kind outcome ∧
      Classifier.settled classify s = .ok outcome (s.moveTo (s.cursor.skip text.length)) := by
  cases htoken with
  | whitespace hne hblanks =>
    obtain ⟨c, u, rfl⟩ := List.exists_cons_of_ne_nil hne
    have hblank : c.isBlank = true := hblanks c (by simp)
    refine settles_of_kind ?_
    rw [classify, Scan.bind_of_ok (Scan.peek_of_rest hrest), if_pos hblank,
      Scan.bind_of_ok (Scan.takeWhile_of_rest hrest hblanks hnext)]
    rfl
  | integer hne hwhole =>
    obtain ⟨c, u, rfl⟩ := List.exists_cons_of_ne_nil hne
    refine settles_of_kind ?_
    rw [classify_of_number hrest (Or.inr (hwhole c (by simp)))]
    exact number_of_integer hrest hwhole hnext
  | @float whole fraction hwhole hne hfraction =>
    obtain ⟨c, u, hhead, hc⟩ := exists_head_of_point hwhole (fraction ++ rest)
    have hsplit : s.cursor.rest = whole ++ point :: (fraction ++ rest) := by
      simpa using hrest
    refine settles_of_kind ?_
    rw [classify_of_number (hsplit.trans hhead) hc,
      number_of_point hsplit hwhole hfraction hnext, if_neg hne]
  | add =>
    refine settles_of_kind ?_
    rw [classify, Scan.bind_of_ok (Scan.peek_of_rest hrest), if_neg (by decide), if_neg (by decide),
      if_pos rfl, Scan.bind_of_ok (Scan.bump_of_rest hrest)]
    rfl
  | @unfinished whole hwhole =>
    obtain ⟨c, u, hhead, hc⟩ := exists_head_of_point hwhole rest
    have hsplit : s.cursor.rest = whole ++ point :: ([] ++ rest) := by
      simpa using hrest
    have hnumber := number_of_point hsplit hwhole (by simp) hnext
    rw [if_pos rfl, ← classify_of_number (hsplit.trans hhead) hc] at hnumber
    exact settles_of_error hnumber
  | @foreign c hblank hdigit hpoint hplus =>
    have hreject : classify s = .error (.rejection .unexpectedInput)
        (s.moveTo (s.cursor.skip 1)) := by
      rw [classify, Scan.bind_of_ok (Scan.peek_of_rest hrest), if_neg (by simp [hblank]),
        if_neg (by simp [hdigit, hpoint]), if_neg hplus, Scan.bind_of_ok (Scan.bump_of_rest hrest)]
      rfl
    exact settles_of_error hreject

/-- **A token that comes next is extracted.** -/
lemma extract_of_token (htoken : Token kind text barred) (hrest : s.cursor.rest = text ++ rest)
    (hnext : ∀ c ∈ rest.head?, ¬ barred c) :
    ∃ s', extract classify (fun _ => .ok .error) false s =
        .ok (some (.sized kind text.length)) s' ∧
      s'.cursor = s.cursor.skip text.length := by
  obtain ⟨outcome, hsettles, hset⟩ := settled_of_token htoken hrest hnext
  have hpos : 0 < text.length := List.length_pos_iff.2 htoken.ne_nil
  have hle : text.length ≤ s.cursor.rest.length := by simp [hrest]
  have htake : s.cursor.rest.take text.length = text := by simp [hrest]
  -- of the two sorts of outcomes, only a rejection is told to the trace
  have hevent : ∃ event, outcome.event s.cursor
      ⟨(s.cursor.skip text.length).pos - s.cursor.pos,
        (s.cursor.skip text.length).bytePos - s.cursor.bytePos⟩ = .ok event := by
    cases hsettles with
    | kind => exact ⟨none, rfl⟩
    | rejected hr => exact ⟨_, by rw [Outcome.event, hr]⟩
  have hattach : outcome.attach (fun _ => .ok .error)
      (.ofPiece false (s.cursor.rest.take text.length)) = .ok (some (.sized kind text.length)) := by
    rw [htake]
    cases hsettles with
    | kind => rfl
    | rejected hr => rfl
  obtain ⟨event, hevent⟩ := hevent
  exact ⟨_, extract_of_settled hset rfl hpos hle hevent hattach, Session.told_cursor _ event⟩

/-! ## Whole texts -/

lemma drains_of_tokenization {source : Source} {lexer : Lexer} (haligned : lexer.Aligned source)
    (h : Tokenization lexer.stream.session.cursor.rest tokens) :
    ∃ last, Pull.Drains (Lexer.pull classify fun _ => .ok .error) lexer
      ⟨tokens.map Lexer.tokenOf, .stopped, last⟩ := by
  -- each token takes one pull, after which the lexer is aligned to what the other tokens make up
  induction tokens generalizing lexer with
  | nil =>
    have hend : lexer.stream.session.cursor.atEnd = true := by
      simp [Cursor.atEnd, ← h.texts_eq]
    obtain ⟨last, hpull⟩ := haligned.pull_of_none (extract_of_atEnd classify _ false hend)
    exact ⟨last, .stop hpull⟩
  | cons token tokens ih =>
    obtain ⟨kind, text⟩ := token
    obtain ⟨rest, barred, hrest, htoken, hnext, htokens⟩ := h.of_cons
    obtain ⟨s, hextract, hskip⟩ := extract_of_token htoken hrest hnext
    obtain ⟨lexer', hpull, haligned', hstream⟩ :=
      haligned.pull_of_sized (by simp [hrest]) hextract hskip
    have hrest' : lexer'.stream.session.cursor.rest = rest := by
      rw [hstream, hskip, Cursor.skip_rest, hrest, List.drop_left]
    obtain ⟨last, hlast⟩ := ih haligned' (by rw [hrest']; exact htokens)
    refine ⟨last, .item ?_ hlast⟩
    rw [hpull, hrest, List.take_left]
    rfl

lemma tokens_eq_of_drains {convert : Conversion Kind} {lexer last last' : Lexer}
    {tokens' : List (Kind × Text)} {ending ending' : Ending}
    (h : Pull.Drains (Lexer.pull classify convert) lexer
      ⟨tokens.map Lexer.tokenOf, ending, last⟩)
    (h' : Pull.Drains (Lexer.pull classify convert) lexer
      ⟨tokens'.map Lexer.tokenOf, ending', last'⟩) : tokens = tokens' := by
  refine (List.map_inj_right ?_).1 (congrArg Run.items (h.unique h'))
  rintro ⟨kind, text⟩ ⟨kind', text'⟩ htoken
  cases htoken
  rfl

/-- **The arithmetic lexer finds the one tokenization.**  It can be opened on every source within
the limit, it never fails, and what it gives is the only list of kinds and texts that make up the
source and are well formed.  A bounded run gives the same if the source is shorter than the
bound. -/
theorem lex_unique_tokenization {source : Source} {limit : Limit}
    (hlimit : limit.check source.text = .ok ()) (trace : Trace) :
    ∃ convert lexer tokens, Lexer.start source errorKind limit trace = .ok (convert, lexer) ∧
      (∃ last, Pull.Drains (Lexer.pull classify convert) lexer
        ⟨tokens.map Lexer.tokenOf, .stopped, last⟩) ∧
      (source.text.length < Pull.patience → (lexer.run classify convert).ending = .stopped ∧
        (lexer.run classify convert).items = tokens.map Lexer.tokenOf) ∧
      ∀ other, Tokenization source.text other ↔ other = tokens := by
  have hstart := Lexer.start_eq_ok hlimit (show errorKind.resolve = .ok _ from rfl) trace
  obtain ⟨haligned, -⟩ := Lexer.aligned_start hstart
  -- the lexer gives the tokens of every tokenization, and it can give the tokens of one only
  have hdrains {other : List (Kind × Text)} (h : Tokenization source.text other) :=
    drains_of_tokenization haligned h
  obtain ⟨tokens, htokens⟩ := exists_tokenization source.text
  obtain ⟨last, hlast⟩ := hdrains htokens
  refine ⟨_, _, tokens, hstart, ⟨last, hlast⟩, fun hshort => ?_, fun other => ⟨fun h => ?_, ?_⟩⟩
  · have hlen : tokens.length ≤ source.text.length := by
      rw [← htokens.texts_eq]
      exact htokens.wellFormed.length_le
    rw [Lexer.run, hlast.drain_eq (by rw [List.length_map]; omega)]
    exact ⟨rfl, rfl⟩
  · obtain ⟨last', hlast'⟩ := hdrains h
    exact tokens_eq_of_drains hlast' hlast
  · rintro rfl
    exact htokens

/-- The tokens of a text in which a point can end one number and begin the next one. -/
def pointed : List (Kind × Text) :=
  [(.float, Text.ofString "1.2"), (.float, Text.ofString ".3"), (.whitespace, Text.ofString " "),
    (.error, Text.ofString "4."), (.float, Text.ofString ".5"), (.add, Text.ofString "+"),
    (.error, Text.ofString ".")]

theorem lex_unique_tokenization_pointed :
    ∃ convert lexer,
      Lexer.start ⟨0, Text.ofString "1.2.3 4..5+."⟩ errorKind = .ok (convert, lexer) ∧
      (∃ last, Pull.Drains (Lexer.pull classify convert) lexer
        ⟨pointed.map Lexer.tokenOf, .stopped, last⟩) ∧
      ∀ other, Tokenization (Text.ofString "1.2.3 4..5+.") other ↔ other = pointed := by
  have hlimit : Limit.check {} (Text.ofString "1.2.3 4..5+.") = .ok () := rfl
  obtain ⟨convert, lexer, tokens, hstart, ⟨last, hlast⟩, -, hunique⟩ :=
    @lex_unique_tokenization ⟨0, Text.ofString "1.2.3 4..5+."⟩ _ hlimit {}
  have htokens : tokens = pointed := by
    cases hstart
    exact tokens_eq_of_drains hlast (.item rfl (.item rfl (.item rfl (.item rfl (.item rfl
      (.item rfl (.item rfl (.stop rfl))))))))
  subst htokens
  exact ⟨convert, lexer, hstart, ⟨last, hlast⟩, hunique⟩

end Lexeme.Arithmetic
