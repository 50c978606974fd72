/-
# Lexing again after an edit at the end

Text that is put behind a source can change the last token of the source: an integer becomes a
float, a float can be cut off by a second point, a run of blanks grows.  It changes no other token,
since each of these was ended by a code point that is still there.  The main results are

* `Tokenization.exchange`: some tokens at the front of a tokenization stay as they are when what
  comes after them is exchanged for a text that begins with the same code point;
* `relex_append`: so the tokens of the longer source are those of the shorter one without the last,
  and then the tokens of the last text with the new text behind it.
-/
import Lexeme.Proofs.Arithmetic.Lexing

namespace Lexeme.Arithmetic

variable {text s t : Text} {before tokens : List (Kind × Text)} {limit : Limit} {trace : Trace}
  {source : Source}

/-! ## Tokenizations -/

/-- Of what comes after some tokens, only the first code point matters to them. -/
lemma Tokenization.exchange (h : Tokenization text (before ++ tokens)) :
    ∃ front rest, text = front ++ rest ∧ Tokenization rest tokens ∧
      ∀ rest' tokens', rest'.head? = rest.head? → Tokenization rest' tokens' →
        Tokenization (front ++ rest') (before ++ tokens') := by
  induction before generalizing text with
  | nil =>
    refine ⟨[], text, rfl, h, ?_⟩
    intro rest' tokens' _ h'
    exact h'
  | cons token before ih =>
    obtain ⟨kind, piece⟩ := token
    obtain ⟨after, barred, rfl, htoken, hafter, hrest⟩ := h.of_cons
    obtain ⟨front, rest, rfl, htokens, hexchange⟩ := ih hrest
    refine ⟨piece ++ front, rest, by rw [List.append_assoc], htokens, ?_⟩
    intro rest' tokens' hhead h'
    have hnext := hexchange rest' tokens' hhead h'
    -- the first token sees the next one, or what was exchanged if it is the last of the front
    have hsame : (front ++ rest').head? = (front ++ rest).head? := by
      rw [List.head?_append, List.head?_append, hhead]
    have hbarred : ∀ c ∈ (front ++ rest').head?, ¬ barred c := by
      intro c hc
      rw [hsame] at hc
      exact hafter c hc
    have hcons := hnext.cons htoken hbarred
    rw [← List.append_assoc] at hcons
    exact hcons

/-- Behind the text of a last token, only the last token is decided anew. -/
lemma Tokenization.append {kind : Kind} {last : Text}
    (h : Tokenization s (before ++ [(kind, last)])) (h' : Tokenization (last ++ t) tokens) :
    Tokenization (s ++ t) (before ++ tokens) := by
  obtain ⟨front, rest, rfl, hlast, hexchange⟩ := h.exchange
  have hrest : rest = last := by simpa using hlast.texts_eq.symm
  subst hrest
  have hne : rest ≠ [] := by
    obtain ⟨_, _, _, htoken, _, _⟩ := hlast.of_cons
    exact htoken.ne_nil
  have hhead : (rest ++ t).head? = rest.head? := by
    obtain ⟨c, u, rfl⟩ := List.exists_cons_of_ne_nil hne
    rfl
  rw [List.append_assoc]
  exact hexchange (rest ++ t) tokens hhead h'

/-! ## Lexers -/

/-- A lexer can be opened on the source, and gives these tokens until it stops. -/
def Lexes (limit : Limit) (trace : Trace) (source : Source) (tokens : List (Kind × Text)) : Prop :=
  ∃ convert lexer last, Lexer.start source errorKind limit trace = .ok (convert, lexer) ∧
    Pull.Drains (Lexer.pull classify convert) lexer ⟨tokens.map Lexer.tokenOf, .stopped, last⟩

lemma lexes_of_tokenization (hlimit : limit.check source.text = .ok ())
    (h : Tokenization source.text tokens) : Lexes limit trace source tokens := by
  have hstart := Lexer.start_eq_ok hlimit (show errorKind.resolve = .ok _ from rfl) trace
  obtain ⟨haligned, -⟩ := Lexer.aligned_start hstart
  obtain ⟨last, hlast⟩ := drains_of_tokenization haligned h
  exact ⟨_, _, last, hstart, hlast⟩

lemma Lexes.unique {tokens' : List (Kind × Text)} (h : Lexes limit trace source tokens)
    (h' : Lexes limit trace source tokens') : tokens = tokens' := by
  obtain ⟨convert, lexer, last, hstart, hlast⟩ := h
  obtain ⟨convert', lexer', last', hstart', hlast'⟩ := h'
  rw [hstart'] at hstart
  cases hstart
  exact tokens_eq_of_drains hlast hlast'

/-- The lexer gives the tokens of a tokenization, and nothing else. -/
lemma lexes_iff_eq (hlimit : limit.check source.text = .ok ())
    (h : Tokenization source.text tokens) (other : List (Kind × Text)) :
    Lexes limit trace source other ↔ other = tokens := by
  have hlexes : Lexes limit trace source tokens := lexes_of_tokenization hlimit h
  constructor
  · intro hother
    exact hother.unique hlexes
  · rintro rfl
    exact hlexes

/-- What is not longer than a text within the limit is within the limit. -/
lemma check_of_length_le (hlimit : limit.check t = .ok ()) (hle : s.length ≤ t.length) :
    limit.check s = .ok () := by
  rw [Limit.check] at hlimit ⊢
  split at hlimit
  · exact absurd hlimit (by simp)
  · rename_i hmax
    rw [if_neg]
    rintro ⟨hpos, hlt⟩
    exact hmax ⟨hpos, by omega⟩

/-- **Only the last token has to be lexed again.**  If `s` is not empty, then the tokens of a source
`s ++ t` are the tokens of a source `s` without the last one, followed by the tokens of a source
that consists of the last text and `t`.  The lexers stop at the end of each of the three. -/
theorem relex_append (hne : s ≠ []) (hlimit : limit.check (s ++ t) = .ok ()) :
    ∃ before kind last after,
      (∀ source trace, source.text = s → ∀ tokens,
        Lexes limit trace source tokens ↔ tokens = before ++ [(kind, last)]) ∧
      (∀ source trace, source.text = last ++ t → ∀ tokens,
        Lexes limit trace source tokens ↔ tokens = after) ∧
      ∀ source trace, source.text = s ++ t → ∀ tokens,
        Lexes limit trace source tokens ↔ tokens = before ++ after := by
  obtain ⟨tokens, htokens⟩ := exists_tokenization s
  -- a text that is not empty has a last token
  obtain rfl | ⟨before, ⟨kind, last⟩, rfl⟩ := List.eq_nil_or_concat tokens
  · exact absurd htokens.texts_eq.symm hne
  · rw [List.concat_eq_append] at htokens
    obtain ⟨after, hafter⟩ := exists_tokenization (last ++ t)
    have hs : s = (before.map Prod.snd).flatten ++ last := by
      simpa using htokens.texts_eq.symm
    have hshort : limit.check s = .ok () := check_of_length_le hlimit (by simp)
    have hlast : limit.check (last ++ t) = .ok () :=
      check_of_length_le hlimit (by simp [hs])
    refine ⟨before, kind, last, after, ?_, ?_, ?_⟩
    · rintro source trace rfl tokens
      exact lexes_iff_eq hshort htokens tokens
    · intro source trace hsource tokens
      rw [← hsource] at hlast hafter
      exact lexes_iff_eq hlast hafter tokens
    · intro source trace hsource tokens
      have happend := htokens.append hafter
      rw [← hsource] at hlimit happend
      exact lexes_iff_eq hlimit happend tokens

/-- Behind the integer at the end of `1 2`, the text `.5.` makes a float and a lone point. -/
theorem relex_append_fraction :
    Text.ofString "1 2" ≠ [] ∧
      Lexes {} {} ⟨0, Text.ofString "1 2"⟩ [(.integer, Text.ofString "1"),
        (.whitespace, Text.ofString " "), (.integer, Text.ofString "2")] ∧
      Lexes {} {} ⟨0, Text.ofString "2.5."⟩
        [(.float, Text.ofString "2.5"), (.error, Text.ofString ".")] ∧
      Lexes {} {} ⟨0, Text.ofString "1 2.5."⟩ [(.integer, Text.ofString "1"),
        (.whitespace, Text.ofString " "), (.float, Text.ofString "2.5"),
        (.error, Text.ofString ".")] := by
  have hne : Text.ofString "1 2" ≠ [] := by decide
  have hlimit : Limit.check {} (Text.ofString "1 2" ++ Text.ofString ".5.") = .ok () := rfl
  obtain ⟨before, kind, last, after, hshort, hlast, hlong⟩ := relex_append hne hlimit
  have hs : Lexes {} {} ⟨0, Text.ofString "1 2"⟩ [(.integer, Text.ofString "1"),
      (.whitespace, Text.ofString " "), (.integer, Text.ofString "2")] :=
    ⟨_, _, _, rfl, .item rfl (.item rfl (.item rfl (.stop rfl)))⟩
  have hu : Lexes {} {} ⟨0, Text.ofString "2.5."⟩
      [(.float, Text.ofString "2.5"), (.error, Text.ofString ".")] :=
    ⟨_, _, _, rfl, .item rfl (.item rfl (.stop rfl))⟩
  -- the tokens in front and the last text are those that the lexer gives for the two sources
  have hsplit : [(Kind.integer, Text.ofString "1"), (.whitespace, Text.ofString " ")] ++
      [(.integer, Text.ofString "2")] = before ++ [(kind, last)] := (hshort _ {} rfl _).1 hs
  obtain ⟨rfl, hlasts⟩ := List.append_inj' hsplit rfl
  simp only [List.cons.injEq, Prod.mk.injEq, and_true] at hlasts
  obtain ⟨rfl, rfl⟩ := hlasts
  obtain rfl := (hlast _ {} rfl _).1 hu
  exact ⟨hne, hs, hu, (hlong _ {} rfl _).2 rfl⟩

end Lexeme.Arithmetic
