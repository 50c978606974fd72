/-
# The grammar of arithmetic tokens

A token is a kind with a text of the shape that belongs to the kind.  Most tokens also bar some
code points from coming right after them, since with those they would have gone on: digits bar a
digit, and an integer bars the point too.  A tokenization of a text is a list of tokens that make
up the text, none of which is followed by a code point that it bars.

Every text has a tokenization, `exists_tokenization`.  That it has only one is seen from the lexer,
which finds them all.
-/
import Lexeme.Arithmetic
import Mathlib.Data.List.TakeWhile

namespace Lexeme.Arithmetic

variable {kind : Kind} {text piece rest : Text} {barred : CodePoint → Prop}
  {tokens : List (Kind × Text)}

/-- The texts of each kind, and the code points that a token bars from coming right after it. -/
inductive Token : Kind → Text → (CodePoint → Prop) → Prop
  | whitespace {blanks : Text} (hne : blanks ≠ []) (hblanks : ∀ c ∈ blanks, c.isBlank = true) :
      Token .whitespace blanks fun c => c.isBlank = true
  | integer {whole : Text} (hne : whole ≠ []) (hwhole : ∀ c ∈ whole, c.isDigit = true) :
      Token .integer whole fun c => c.isDigit = true ∨ c = point
  | float {whole fraction : Text} (hwhole : ∀ c ∈ whole, c.isDigit = true)
      (hne : fraction ≠ []) (hfraction : ∀ c ∈ fraction, c.isDigit = true) :
      Token .float (whole ++ point :: fraction) fun c => c.isDigit = true
  | add : Token .add [plus] fun _ => False
  /-- A point without digits after it. -/
  | unfinished {whole : Text} (hwhole : ∀ c ∈ whole, c.isDigit = true) :
      Token .error (whole ++ [point]) fun c => c.isDigit = true
  /-- A code point that begins no other token. -/
  | foreign {c : CodePoint} (hblank : c.isBlank = false) (hdigit : c.isDigit = false)
      (hpoint : c ≠ point) (hplus : c ≠ plus) : Token .error [c] fun _ => False

/-- Each kind has a text of its shape, and no text begins with a code point that is barred by the
token before it. -/
inductive WellFormed : List (Kind × Text) → Prop
  | nil : WellFormed []
  | cons {kind : Kind} {text : Text} {barred : CodePoint → Prop} {tokens : List (Kind × Text)}
      (htoken : Token kind text barred)
      (hnext : ∀ next ∈ tokens.head?, ∀ c ∈ next.2.head?, ¬ barred c)
      (htokens : WellFormed tokens) : WellFormed ((kind, text) :: tokens)

/-- The tokens make up the text. -/
structure Tokenization (text : Text) (tokens : List (Kind × Text)) : Prop where
  texts_eq : (tokens.map Prod.snd).flatten = text
  wellFormed : WellFormed tokens

lemma Token.ne_nil (h : Token kind text barred) : text ≠ [] := by
  cases h with
  | whitespace hne _ | integer hne _ => exact hne
  | float _ _ _ | add | unfinished _ | foreign _ _ _ _ => simp

/-- What follows a token is what the next token begins with. -/
lemma WellFormed.head?_texts (h : WellFormed tokens) :
    (tokens.map Prod.snd).flatten.head? = tokens.head?.bind fun next => next.2.head? := by
  cases h with
  | nil => rfl
  | cons htoken _ _ =>
    obtain ⟨c, u, rfl⟩ := List.exists_cons_of_ne_nil htoken.ne_nil
    simp

lemma WellFormed.length_le (h : WellFormed tokens) :
    tokens.length ≤ (tokens.map Prod.snd).flatten.length := by
  induction h with
  | nil => exact Nat.le_refl _
  | cons htoken _ _ ih =>
    have hpos := List.length_pos_iff.2 htoken.ne_nil
    simp only [List.length_cons, List.map_cons, List.flatten_cons, List.length_append]
    omega

/-- A token in front of a tokenization of a rest that does not begin with what it bars. -/
lemma Tokenization.cons (htoken : Token kind piece barred) (hrest : ∀ c ∈ rest.head?, ¬ barred c)
    (h : Tokenization rest tokens) : Tokenization (piece ++ rest) ((kind, piece) :: tokens) := by
  refine ⟨by simp [h.texts_eq], .cons htoken ?_ h.wellFormed⟩
  intro next hnext c hc
  refine hrest c ?_
  rw [← h.texts_eq, h.wellFormed.head?_texts, Option.mem_def.1 hnext]
  exact hc

/-- The first token of a tokenization, and the tokenization of what comes after it. -/
lemma Tokenization.of_cons (h : Tokenization text ((kind, piece) :: tokens)) :
    ∃ rest barred, text = piece ++ rest ∧ Token kind piece barred ∧
      (∀ c ∈ rest.head?, ¬ barred c) ∧ Tokenization rest tokens := by
  obtain ⟨rfl, hwell⟩ := h
  cases hwell with
  | @cons _ _ barred _ htoken hnext htokens =>
    refine ⟨(tokens.map Prod.snd).flatten, barred, rfl, htoken, ?_, ⟨rfl, htokens⟩⟩
    intro c hc
    rw [htokens.head?_texts] at hc
    obtain ⟨next, hmem, hc⟩ := Option.mem_bind_iff.1 hc
    exact hnext next hmem c hc

/-! ## Every text has a tokenization -/

/-- A text splits after the longest run of code points with a property. -/
lemma exists_run (p : CodePoint → Bool) (t : Text) : ∃ run after, t = run ++ after ∧
    (∀ c ∈ run, p c = true) ∧ ∀ c ∈ after.head?, ¬ p c = true := by
  refine ⟨t.takeWhile p, t.dropWhile p, List.takeWhile_append_dropWhile.symm,
    fun c hc => List.mem_takeWhile_imp hc, fun c hc => ?_⟩
  have hhead := List.head?_dropWhile_not p t
  rw [Option.mem_def.1 hc] at hhead
  simpa using hhead

/-- Every text that is not empty begins with a token. -/
lemma exists_token {t : Text} (hne : t ≠ []) : ∃ kind text rest barred, t = text ++ rest ∧
    Token kind text barred ∧ ∀ c ∈ rest.head?, ¬ barred c := by
  obtain ⟨x, t, rfl⟩ := List.exists_cons_of_ne_nil hne
  by_cases hblank : x.isBlank = true
  · obtain ⟨run, after, hsplit, hrun, hafter⟩ := exists_run CodePoint.isBlank t
    refine ⟨.whitespace, x :: run, after, _, by rw [hsplit]; rfl, .whitespace (by simp) ?_, hafter⟩
    simpa [hblank] using hrun
  · obtain ⟨whole, after, hsplit, hwhole, hafter⟩ := exists_run CodePoint.isDigit (x :: t)
    by_cases hpoint : after.head? = some point
    · -- the digits, if there are any, are followed by the point
      obtain ⟨after', rfl⟩ : ∃ after', after = point :: after' := by
        cases after with
        | nil => simp at hpoint
        | cons y after' => exact ⟨after', by simpa using hpoint⟩
      obtain ⟨fraction, rest, rfl, hfraction, hrest⟩ := exists_run CodePoint.isDigit after'
      by_cases hnil : fraction = []
      · subst hnil
        exact ⟨.error, whole ++ [point], rest, _, by simp [hsplit], .unfinished hwhole, hrest⟩
      · exact ⟨.float, whole ++ point :: fraction, rest, _, by simp [hsplit],
          .float hwhole hnil hfraction, hrest⟩
    · by_cases hnil : whole = []
      · -- the first code point is neither blank, nor a digit, nor the point
        subst hnil
        obtain rfl : after = x :: t := hsplit.symm
        have hdigit : x.isDigit = false := by simpa using hafter x (by simp)
        by_cases hplus : x = plus
        · exact ⟨.add, [plus], t, _, by rw [hplus]; rfl, .add, by simp⟩
        · refine ⟨.error, [x], t, _, rfl, .foreign (by simpa using hblank) hdigit ?_ hplus, by simp⟩
          simpa using hpoint
      · refine ⟨.integer, whole, after, _, hsplit, .integer hnil hwhole, ?_⟩
        rintro c hc (hdigit | rfl)
        · exact hafter c hc hdigit
        · exact hpoint hc

/-- Every text has a tokenization. -/
theorem exists_tokenization (t : Text) : ∃ tokens, Tokenization t tokens := by
  induction hlen : t.length using Nat.strongRecOn generalizing t with
  | ind len ih =>
    by_cases hnil : t = []
    · subst hnil
      exact ⟨[], rfl, .nil⟩
    · obtain ⟨kind, text, rest, barred, rfl, htoken, hrest⟩ := exists_token hnil
      have hpos := List.length_pos_iff.2 htoken.ne_nil
      rw [List.length_append] at hlen
      obtain ⟨tokens, htokens⟩ := ih rest.length (by omega) rest rfl
      exact ⟨_, htokens.cons htoken hrest⟩

end Lexeme.Arithmetic
