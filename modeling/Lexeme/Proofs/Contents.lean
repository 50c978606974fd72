/-
# Foreign texts in diagnostics

The message and the hint of a diagnostic are foreign texts, and every layout writes them by
`Formatter.contents`.  Four control characters become escapes, and then a sanitizing formatter cuts
the text at its limit.  The limit counts what is written, so a cut may split an escape, and how much
of a text is left depends on the escapes in it.

What is cut off leaves no trace.  The main result, `sanitizing_hides`, is about two diagnostics
whose texts agree as far as the limit reaches and go on from there in any way: both are written
alike, in every layout.
-/
import Lexeme.Proofs.Readability

namespace Lexeme

/-- A control character: a code below `0x20`, or one from `0x7F` to `0x9F`. -/
def CodePoint.isControl (c : CodePoint) : Bool :=
  c.val < 0x20 || (0x7F ≤ c.val && c.val ≤ 0x9F)

/-- A text without control characters. -/
def Text.Plain (t : Text) : Prop :=
  ∀ c ∈ t, c.isControl = false

instance (t : Text) : Decidable t.Plain :=
  inferInstanceAs (Decidable (∀ c ∈ t, c.isControl = false))

lemma Text.Plain.not_mem {t : Text} {c : CodePoint} (h : t.Plain) (hc : c.isControl = true) :
    c ∉ t := by
  intro hmem
  rw [h c hmem] at hc
  cases hc

lemma Text.Plain.append {s t : Text} (hs : s.Plain) (ht : t.Plain) : (s ++ t).Plain :=
  fun c hmem => (List.mem_append.mp hmem).elim (hs c) (ht c)

namespace Formatter

variable {f : Formatter} {c : CodePoint} {s t : Text} {d e : Diagnostic} {m n : Nat}

/-! ## Escapes -/

/-- The code points that are written as escapes. -/
def isEscaped (c : CodePoint) : Bool :=
  c = .ofChar '\n' || c = .ofChar '\r' || c = .ofChar '\t' || c = .ofChar '\x1b'

lemma escapeControl_of_isEscaped (hc : isEscaped c = true) :
    escapeControl c ∈ ["\\n", "\\r", "\\t", "\\x1b"].map Text.ofString := by
  simp only [isEscaped, Bool.or_eq_true, decide_eq_true_eq] at hc
  rcases hc with ((rfl | rfl) | rfl) | rfl <;> decide

lemma escapeControl_of_not_isEscaped (hc : isEscaped c = false) : escapeControl c = [c] := by
  simp only [isEscaped, Bool.or_eq_false_iff, decide_eq_false_iff_not] at hc
  obtain ⟨⟨⟨hnl, hcr⟩, htab⟩, hesc⟩ := hc
  have hval : c.val ≠ 0x1B := fun h => hesc (CodePoint.ext h)
  rw [escapeControl, if_neg hnl, if_neg hcr, if_neg htab, if_neg hval]

/-- A control character is written only where it stands for itself: the escapes have none. -/
lemma mem_escapeControl_iff (hc : c.isControl = true) (x : CodePoint) :
    c ∈ escapeControl x ↔ isEscaped c = false ∧ x = c := by
  cases hx : isEscaped x with
  | false =>
    rw [escapeControl_of_not_isEscaped hx, List.mem_singleton]
    constructor
    · rintro rfl
      exact ⟨hx, rfl⟩
    · exact fun h => h.2.symm
  | true =>
    have hplain : ∀ escape ∈ ["\\n", "\\r", "\\t", "\\x1b"].map Text.ofString,
        Text.Plain escape := by decide
    constructor
    · intro hmem
      exact absurd hmem ((hplain _ (escapeControl_of_isEscaped hx)).not_mem hc)
    · rintro ⟨hself, rfl⟩
      rw [hx] at hself
      cases hself

lemma escapeControl_ne_nil (c : CodePoint) : escapeControl c ≠ [] := by
  unfold escapeControl
  split_ifs <;> simp [Text.ofString]

/-- A text with its escapes. -/
def escaped (t : Text) : Text :=
  t.flatMap escapeControl

lemma escaped_cons (c : CodePoint) (t : Text) : escaped (c :: t) = escapeControl c ++ escaped t :=
  List.flatMap_cons

lemma escaped_append (s t : Text) : escaped (s ++ t) = escaped s ++ escaped t :=
  List.flatMap_append

/-- Escapes only ever make a text longer. -/
lemma length_le_length_escaped (t : Text) : t.length ≤ (escaped t).length := by
  induction t with
  | nil => exact Nat.le_refl 0
  | cons c t ih =>
    have hpos := List.length_pos_iff.mpr (escapeControl_ne_nil c)
    rw [escaped_cons, List.length_append, List.length_cons]
    omega

/-- The first `m` code points that are written come from the first `m` of the text. -/
lemma take_escaped_take (m : Nat) (t : Text) :
    (escaped (t.take m)).take m = (escaped t).take m := by
  rcases Nat.le_total t.length m with hle | hle
  · rw [List.take_of_length_le hle]
  · have hlong : m ≤ (escaped (t.take m)).length := by
      have hlen := length_le_length_escaped (t.take m)
      rwa [List.length_take, Nat.min_eq_left hle] at hlen
    conv_rhs => rw [← List.take_append_drop m t, escaped_append]
    rw [List.take_append_of_le_length hlong]

/-! ## The cut -/

/-- Whether a text is cut. -/
def cuts (f : Formatter) (t : Text) : Bool :=
  f.sanitize && f.maxContent < (escaped t).length

/-- The number of code points that are left of a text with its escapes. -/
def kept (f : Formatter) (t : Text) : Nat :=
  if f.cuts t then
    if f.maxContent < 0 then (escaped t).length - f.maxContent.natAbs else f.maxContent.toNat
  else (escaped t).length

lemma contents_eq (f : Formatter) (t : Text) :
    f.contents t = (escaped t).take (f.kept t) ++ if f.cuts t then Text.ofString "..." else [] := by
  have hcontents : f.contents t = if f.sanitize ∧ f.maxContent < (escaped t).length then
      clip f.maxContent (escaped t) ++ Text.ofString "..." else escaped t := rfl
  have hcuts : f.cuts t = true ↔ f.sanitize ∧ f.maxContent < (escaped t).length := by
    simp [cuts]
  by_cases h : f.cuts t = true
  · rw [hcontents, if_pos (hcuts.mp h), kept, if_pos h, if_pos h, clip]
    split_ifs <;> rfl
  · rw [hcontents, if_neg (mt hcuts.mpr h), kept, if_neg h, if_neg h, List.append_nil,
      List.take_length]

/-- What is written of a text that is longer than the limit depends on its start only. -/
lemma contents_of_longer (hs : f.sanitize = true) (hm : f.maxContent = m) (ht : m < t.length) :
    f.contents t = (escaped (t.take m)).take m ++ Text.ofString "..." := by
  have hlen := length_le_length_escaped t
  have hcuts : f.cuts t = true := by
    simp only [cuts, hs, hm, Bool.true_and, decide_eq_true_eq]
    omega
  have hkept : f.kept t = m := by
    rw [kept, if_pos hcuts, hm, if_neg (by omega), Int.toNat_natCast]
  rw [contents_eq, if_pos hcuts, hkept, take_escaped_take]

/-! ## Control characters -/

/-- The code point stands in a text, in the part that a formatter does not cut off. -/
def Exposes (f : Formatter) (t : Text) (c : CodePoint) : Prop :=
  ∃ before after, t = before ++ c :: after ∧ (escaped before).length < f.kept t

lemma mem_take_escaped_iff (hc : c.isControl = true) :
    c ∈ (escaped t).take n ↔ isEscaped c = false ∧
      ∃ before after, t = before ++ c :: after ∧ (escaped before).length < n := by
  induction t generalizing n with
  | nil => simp [escaped]
  | cons x t ih =>
    have hpos := List.length_pos_iff.mpr (escapeControl_ne_nil x)
    rw [escaped_cons, List.take_append, List.mem_append, ih]
    constructor
    · rintro (hmem | ⟨hself, before, after, rfl, hlt⟩)
      · obtain ⟨hself, rfl⟩ := (mem_escapeControl_iff hc x).mp (List.mem_of_mem_take hmem)
        refine ⟨hself, [], t, rfl, ?_⟩
        cases n with
        | zero => simp at hmem
        | succ n => exact Nat.succ_pos n
      · refine ⟨hself, x :: before, after, rfl, ?_⟩
        rw [escaped_cons, List.length_append]
        omega
    · rintro ⟨hself, before, after, ht, hlt⟩
      rcases List.cons_eq_append_iff.mp ht with ⟨rfl, hhead⟩ | ⟨before, rfl, rfl⟩
      · obtain ⟨rfl, -⟩ := List.cons.inj hhead
        rw [escapeControl_of_not_isEscaped hself, List.take_of_length_le hlt]
        exact Or.inl List.mem_cons_self
      · rw [escaped_cons, List.length_append] at hlt
        exact Or.inr ⟨hself, before, after, rfl, by omega⟩

/-- The control characters that are written of a text are those which are no escapes and stand
before the cut. -/
lemma mem_contents_iff (hc : c.isControl = true) :
    c ∈ f.contents t ↔ isEscaped c = false ∧ f.Exposes t c := by
  have hdots : Text.Plain (if f.cuts t then Text.ofString "..." else []) := by
    split_ifs <;> decide
  rw [contents_eq, List.mem_append, or_iff_left (hdots.not_mem hc), mem_take_escaped_iff hc]
  rfl

/-- So a foreign text cannot break a line. -/
lemma newline_not_mem_contents (f : Formatter) (t : Text) : .newline ∉ f.contents t := by
  intro hmem
  have hself := ((mem_contents_iff rfl).mp hmem).1
  cases hself

/-! ## Hiding -/

/-- Two texts are equal, or equal as far as a limit reaches and both longer than it. -/
def AlikeWithin (m : Nat) (s t : Text) : Prop :=
  s = t ∨ s.take m = t.take m ∧ m < s.length ∧ m < t.length

lemma AlikeWithin.contents_eq (hs : f.sanitize = true) (hm : f.maxContent = m)
    (h : AlikeWithin m s t) : f.contents s = f.contents t := by
  rcases h with rfl | ⟨htake, hslen, htlen⟩
  · rfl
  · rw [contents_of_longer hs hm hslen, contents_of_longer hs hm htlen, htake]

/-- A hint that is longer than a limit is not empty, so it does not vanish. -/
lemma AlikeWithin.hint?_eq (hs : f.sanitize = true) (hm : f.maxContent = m)
    (h : Option.Rel (AlikeWithin m) d.hint e.hint) : f.hint? d = f.hint? e := by
  unfold hint?
  generalize d.hint = p, e.hint = q at h
  cases h with
  | none => rfl
  | @some s t h =>
    have hcontents := h.contents_eq hs hm
    rcases h with rfl | ⟨-, hslen, htlen⟩
    · rfl
    · obtain ⟨x, s, rfl⟩ := List.exists_cons_of_length_pos (Nat.zero_lt_of_lt hslen)
      obtain ⟨y, t, rfl⟩ := List.exists_cons_of_length_pos (Nat.zero_lt_of_lt htlen)
      exact congrArg some hcontents

/-- A layout writes nothing of a diagnostic but its code, its severity, its place, and its foreign
texts as they are written. -/
lemma render_congr (hcode : d.code = e.code) (hseverity : d.severity = e.severity)
    (hspan : d.span = e.span) (hmessage : f.contents d.message = f.contents e.message)
    (hhint : f.hint? d = f.hint? e) (layout : Layout) : f.render d layout = f.render e layout := by
  cases layout with
  | rust => simp only [render, rustLines, severityMark, isWarning, hcode, hseverity, hspan, hmessage,
      hhint]
  | simple => simp only [render, hcode, hmessage]
  | json =>
    exact congrArg Json.object (jsonFields_inj.mpr ⟨hcode, hseverity, hspan, hmessage, hhint⟩)

/-- **What lies beyond the limit is hidden.**  Let a formatter sanitize with a limit that is not
negative.  Two diagnostics of one code, severity and place, whose messages and whose hints are equal
or agree as far as the limit reaches and are both longer, are written, and written alike, in every
layout. -/
theorem sanitizing_hides {layout : Layout} (hf : f.layout = some layout) (hs : f.sanitize = true)
    (hm : f.maxContent = m) (hcode : d.code = e.code) (hseverity : d.severity = e.severity)
    (hspan : d.span = e.span) (hmessage : AlikeWithin m d.message e.message)
    (hhint : Option.Rel (AlikeWithin m) d.hint e.hint) :
    ∃ out, f.format d = some out ∧ f.format e = some out := by
  refine ⟨f.render d layout, format_of_layout hf d, ?_⟩
  rw [format_of_layout hf, render_congr hcode hseverity hspan (hmessage.contents_eq hs hm)
    (AlikeWithin.hint?_eq hs hm hhint)]

/-- Two secrets behind a line break.  The cut falls into the escape of the line break, and the one
secret is longer than the other. -/
theorem sanitizing_hides_secrets :
    let f : Formatter := { layout := some .json, sanitize := true, maxContent := 3 }
    let d : Diagnostic :=
      { code := .noProgress, message := Text.ofString "ab\nx", hint := Text.ofString "key 1" }
    let e : Diagnostic :=
      { code := .noProgress, message := Text.ofString "ab\n\t\t", hint := Text.ofString "key two" }
    d ≠ e ∧ AlikeWithin 3 d.message e.message ∧ Option.Rel (AlikeWithin 3) d.hint e.hint ∧
      ∃ out, f.format d = some out ∧ f.format e = some out := by
  intro f d e
  have hmessage : AlikeWithin 3 d.message e.message := Or.inr (by decide)
  have hhint : Option.Rel (AlikeWithin 3) d.hint e.hint := .some (Or.inr (by decide))
  exact ⟨by decide, hmessage, hhint, sanitizing_hides rfl rfl rfl rfl rfl rfl hmessage hhint⟩

end Formatter

end Lexeme
