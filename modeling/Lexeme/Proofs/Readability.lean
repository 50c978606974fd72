/-
# Unique readability of JSON diagnostics

A diagnostic written as a JSON object holds three foreign texts between fields of the formatter's
own, and the fields of its place and of its hint may be missing.  Whatever these texts are, none of
them can forge a field or swallow one: `json_unambiguous` says that two diagnostics are written
alike only if they agree in everything that is written of them.

The parts of an object are read from left to right.  A part is `Readable` before a kind of text if
it is known where the part ends and what it was written for.  A string is readable before every
text, since nothing written inside of it begins with a quote; a number is readable only before a
text that does not go on with a digit, and in an object a comma or the closing brace follows.
-/
import Lexeme.Diagnostic.Format
import Mathlib.Tactic.Common
import Mathlib.Tactic.SplitIfs

namespace Lexeme

variable {α β : Type}

/-- A way of writing is readable before the texts of a kind if from the whole one can tell what was
written and what follows it. -/
def Readable (write : α → Text) (Tail : Text → Prop) : Prop :=
  ∀ ⦃a b : α⦄ ⦃u v : Text⦄, Tail u → Tail v → write a ++ u = write b ++ v → a = b ∧ u = v

/-- Two parts can be read one after the other if the second is such that the first can be read
before it. -/
lemma Readable.append {first : α → Text} {second : β → Text} {Mid Tail : Text → Prop}
    (hfirst : Readable first Mid) (hsecond : Readable second Tail)
    (hmid : ∀ b u, Tail u → Mid (second b ++ u)) :
    Readable (fun p : α × β => first p.1 ++ second p.2) Tail := by
  rintro ⟨a, b⟩ ⟨a', b'⟩ u v hu hv h
  simp only [List.append_assoc] at h
  obtain ⟨rfl, hrest⟩ := hfirst (hmid b u hu) (hmid b' v hv) h
  obtain ⟨rfl, huv⟩ := hsecond hu hv hrest
  exact ⟨rfl, huv⟩

/-! ## Numbers -/

namespace Numeral

/-- A text that does not go on with a digit. -/
def NoDigit (t : Text) : Prop :=
  ∀ c ∈ t.head?, c.isDigit = false

lemma NoDigit.takeWhile {t : Text} (h : NoDigit t) : t.takeWhile CodePoint.isDigit = [] := by
  cases t with
  | nil => rfl
  | cons c t => exact List.takeWhile_cons_of_neg (by simp [h c rfl])

/-- A numeral ends where its digits end. -/
lemma decimal_readable : Readable decimal NoDigit := by
  intro m n u v hu hv h
  have digits (k : Nat) {t : Text} (ht : NoDigit t) :
      (decimal k ++ t).takeWhile CodePoint.isDigit = decimal k := by
    rw [List.takeWhile_append_of_pos (isDigit_of_mem_decimal k), ht.takeWhile, List.append_nil]
  have hmn : m = n := by
    apply decimal_injective
    rw [← digits m hu, ← digits n hv, h]
  subst hmn
  exact ⟨rfl, List.append_cancel_left h⟩

/-- The value of a hexadecimal digit. -/
def hexValue (c : CodePoint) : Nat :=
  if c.isDigit then c.val - 0x30 else c.val - 0x57

lemma hexValue_hexDigit (d : Nat) : hexValue (hexDigit d) = d % 16 := by
  unfold hexDigit
  split_ifs with h
  · have hdigit : CodePoint.isDigit ⟨0x30 + d % 16, by omega⟩ = true := by
      simp only [CodePoint.isDigit, Bool.and_eq_true, decide_eq_true_eq]
      omega
    rw [hexValue, if_pos hdigit]
    exact Nat.add_sub_cancel_left _ _
  · have hletter : ¬ CodePoint.isDigit ⟨0x57 + d % 16, by omega⟩ = true := by
      simp only [CodePoint.isDigit, Bool.and_eq_true, decide_eq_true_eq]
      omega
    rw [hexValue, if_neg hletter]
    exact Nat.add_sub_cancel_left _ _

end Numeral

namespace Json

/-! ## Strings -/

/-- What the letter after a backslash stands for. -/
def meaning (letter : CodePoint) : CodePoint :=
  if letter = .ofChar 'n' then .ofChar '\n'
  else if letter = .ofChar 'r' then .ofChar '\r'
  else if letter = .ofChar 't' then .ofChar '\t'
  else if letter = .ofChar 'f' then .ofChar '\x0C'
  else if letter = .ofChar 'b' then .ofChar '\x08'
  else letter

/-- Reads the number of a code point off four hexadecimal digits. -/
def unescapeHex : Text → Option (CodePoint × Text)
  | a :: b :: c :: d :: t =>
    let value := 16 * (16 * (16 * Numeral.hexValue a + Numeral.hexValue b) +
      Numeral.hexValue c) + Numeral.hexValue d
    (CodePoint.ofNat? value).map (·, t)
  | _ => none

/-- Reads one code point off the inside of a string, with what follows it.  At the quote that ends
the string there is nothing to read. -/
def unescape : Text → Option (CodePoint × Text)
  | [] => none
  | [c] => if c = .ofChar '"' ∨ c = .ofChar '\\' then none else some (c, [])
  | c :: letter :: t =>
    if c = .ofChar '"' then none
    else if c = .ofChar '\\' then
      if letter = .ofChar 'u' then unescapeHex t else some (meaning letter, t)
    else some (c, letter :: t)

lemma unescape_quote (u : Text) : unescape (.ofChar '"' :: u) = none := by
  cases u <;> rfl

lemma unescape_plain {c : CodePoint} (hq : c ≠ .ofChar '"') (hb : c ≠ .ofChar '\\') (u : Text) :
    unescape (c :: u) = some (c, u) := by
  cases u <;> simp [unescape, hq, hb]

lemma unescapeHex_hex (c : CodePoint) (hc : c.val < 0x20) (u : Text) :
    unescapeHex (Numeral.hex 4 c.val ++ u) = some (c, u) := by
  simp only [Numeral.hex, List.nil_append, List.cons_append, unescapeHex,
    Numeral.hexValue_hexDigit]
  have hval : 16 * (16 * (16 * (c.val / 16 / 16 / 16 % 16) + c.val / 16 / 16 % 16) +
      c.val / 16 % 16) + c.val % 16 = c.val := by omega
  rw [hval, CodePoint.ofNat?, dif_pos c.val_lt]
  rfl

/-- Reading undoes writing, whatever stands behind. -/
lemma unescape_escape (c : CodePoint) (u : Text) : unescape (escape c ++ u) = some (c, u) := by
  unfold escape
  split_ifs with hquote hback hnl hcr htab hff hbs hlow
  · subst hquote; rfl
  · subst hback; rfl
  · subst hnl; rfl
  · subst hcr; rfl
  · subst htab; rfl
  · obtain rfl : c = .ofChar '\x0C' := CodePoint.ext hff
    rfl
  · obtain rfl : c = .ofChar '\x08' := CodePoint.ext hbs
    rfl
  · exact unescapeHex_hex c hlow u
  · exact unescape_plain hquote hback u

/-- A string ends at the first quote that is not part of an escape. -/
lemma string_readable : Readable string fun _ => True := by
  intro s t u v _ _ h
  have inside : s.flatMap escape ++ .ofChar '"' :: u = t.flatMap escape ++ .ofChar '"' :: v := by
    simpa [string] using h
  clear h
  induction s generalizing t with
  | nil =>
    cases t with
    | nil => exact ⟨rfl, (List.cons.inj inside).2⟩
    | cons d t =>
      have read := congrArg unescape inside
      simp [unescape_quote, unescape_escape] at read
  | cons c s ih =>
    have read := congrArg unescape inside
    simp only [List.flatMap_cons, List.append_assoc, unescape_escape] at read
    cases t with
    | nil => simp [unescape_quote] at read
    | cons d t =>
      simp only [List.flatMap_cons, List.append_assoc, unescape_escape, Option.some.injEq,
        Prod.mk.injEq] at read
      obtain ⟨rfl, rest⟩ := read
      obtain ⟨rfl, huv⟩ := ih rest
      exact ⟨rfl, huv⟩

/-! ## Objects -/

open Numeral (NoDigit)

/-- No numeral begins with the quote of a string. -/
lemma string_append_ne_decimal_append (t : Text) (n : Nat) (u v : Text) :
    string t ++ u ≠ Numeral.decimal n ++ v := by
  intro h
  obtain ⟨c, ds, hds⟩ := List.exists_cons_of_ne_nil (Numeral.decimal_ne_nil n)
  have hdigit := Numeral.isDigit_of_mem_decimal n c (by simp [hds])
  obtain rfl : CodePoint.ofChar '"' = c := by
    rw [hds] at h
    exact (List.cons.inj h).1
  exact absurd hdigit (by decide)

lemma render_readable : Readable Value.render NoDigit := by
  intro a b u v hu hv h
  cases a with
  | string s =>
    cases b with
    | string t =>
      obtain ⟨rfl, huv⟩ := string_readable trivial trivial h
      exact ⟨rfl, huv⟩
    | number n => exact absurd h (string_append_ne_decimal_append s n u v)
  | number m =>
    cases b with
    | string t => exact absurd h.symm (string_append_ne_decimal_append t m v u)
    | number n =>
      obtain ⟨rfl, huv⟩ := Numeral.decimal_readable hu hv h
      exact ⟨rfl, huv⟩

lemma field_readable : Readable (fun f : String × Value => field f.1 f.2) NoDigit := by
  have name : Readable (fun name => string (Text.ofString name) ++ Text.ofString ": ")
      fun _ => True := by
    intro a b u v _ _ h
    simp only [List.append_assoc] at h
    obtain ⟨hab, huv⟩ := string_readable trivial trivial h
    exact ⟨Text.ofString_injective hab, List.append_cancel_left huv⟩
  exact name.append render_readable fun _ _ _ => trivial

/-- The end of an object, from the field that follows the first one on. -/
def remaining (fields : List (String × Value)) : Text :=
  (fields.flatMap fun f => Text.ofString ", " ++ field f.1 f.2) ++ Text.ofString "\x7d"

lemma remaining_noDigit (fields : List (String × Value)) : NoDigit (remaining fields) := by
  intro c hc
  cases fields with
  | nil =>
    obtain rfl : CodePoint.ofChar '\x7d' = c := Option.some.inj hc
    rfl
  | cons f fields =>
    obtain rfl : CodePoint.ofChar ',' = c := Option.some.inj hc
    rfl

lemma remaining_injective {fs gs : List (String × Value)} (h : remaining fs = remaining gs) :
    fs = gs := by
  induction fs generalizing gs with
  | nil =>
    cases gs with
    | nil => rfl
    | cons g gs =>
      have head : some (CodePoint.ofChar '\x7d') = some (.ofChar ',') := congrArg List.head? h
      exact absurd head (by decide)
  | cons f fs ih =>
    cases gs with
    | nil =>
      have head : some (CodePoint.ofChar ',') = some (.ofChar '\x7d') := congrArg List.head? h
      exact absurd head (by decide)
    | cons g gs =>
      have hfield : field f.1 f.2 ++ remaining fs = field g.1 g.2 ++ remaining gs := by
        simpa [remaining] using h
      obtain ⟨rfl, hrest⟩ := field_readable (remaining_noDigit fs) (remaining_noDigit gs) hfield
      rw [ih hrest]

lemma object_cons (f : String × Value) (fs : List (String × Value)) :
    object (f :: fs) = .ofChar '\x7b' :: (field f.1 f.2 ++ remaining fs) := by
  simp only [object, List.map_cons, Text.joined_cons, List.flatMap_map, List.append_assoc]
  rfl

/-- An object with fields goes on with the quote of a name, so it is not the empty one. -/
lemma object_nil_ne_object_cons (f : String × Value) (fs : List (String × Value)) :
    object [] ≠ object (f :: fs) := by
  intro h
  rw [object_cons] at h
  have second : some (CodePoint.ofChar '\x7d') = some (.ofChar '"') :=
    congrArg List.head? (List.cons.inj h).2
  exact absurd second (by decide)

/-- The fields of an object can be read off it. -/
theorem object_injective {fs gs : List (String × Value)} (h : object fs = object gs) :
    fs = gs := by
  cases fs with
  | nil =>
    cases gs with
    | nil => rfl
    | cons g gs => exact absurd h (object_nil_ne_object_cons g gs)
  | cons f fs =>
    cases gs with
    | nil => exact absurd h.symm (object_nil_ne_object_cons f fs)
    | cons g gs =>
      rw [object_cons, object_cons] at h
      obtain ⟨rfl, hrest⟩ := field_readable (remaining_noDigit fs) (remaining_noDigit gs)
        (List.cons.inj h).2
      rw [remaining_injective hrest]

end Json

/-! ## Diagnostics -/

namespace Formatter

variable {f : Formatter} {d e : Diagnostic}

/-- The fields that may be missing can be told apart by their names. -/
lemma jsonFields_inj : f.jsonFields d = f.jsonFields e ↔
    d.code = e.code ∧ d.severity = e.severity ∧ d.span = e.span ∧
      f.contents d.message = f.contents e.message ∧ f.hint? d = f.hint? e := by
  constructor
  · intro h
    simp only [jsonFields, List.cons_append, List.nil_append, List.cons.injEq, Prod.mk.injEq,
      Json.Value.string.injEq, true_and] at h
    obtain ⟨hname, -, hmessage, hseverity, hrest⟩ := h
    have hoptional : d.span = e.span ∧ f.hint? d = f.hint? e := by
      -- only the name of the next field tells whether the place, or after it the hint, is missing
      revert hrest
      rcases d.span with _ | s <;> rcases e.span with _ | t <;>
        rcases f.hint? d with _ | h <;> rcases f.hint? e with _ | k <;>
        simp +contextual [SourceSpan.ext_iff]
    exact ⟨Code.name_injective hname, hseverity, hoptional.1, hmessage, hoptional.2⟩
  · rintro ⟨hcode, hseverity, hspan, hmessage, hhint⟩
    simp only [jsonFields, hcode, hseverity, hspan, hmessage, hhint]

/-- Two diagnostics are written as the same JSON object exactly if they agree in code, severity and
place, in the message as it is written, and in the hint as it is written. -/
theorem json_unambiguous (hf : f.layout = some .json) :
    (f.format d).isSome ∧ (f.format d = f.format e ↔
      d.code = e.code ∧ d.severity = e.severity ∧ d.span = e.span ∧
        f.contents d.message = f.contents e.message ∧ f.hint? d = f.hint? e) := by
  have written (d : Diagnostic) : f.format d = some (Json.object (f.jsonFields d)) := by
    rw [format, hf]
    rfl
  rw [written, written, Option.some.injEq, ← jsonFields_inj]
  exact ⟨rfl, Json.object_injective, congrArg Json.object⟩

/-- A severity cannot close its string and bring a hint of its own.  Written alike are a line break
and its escape, and a hint that is missing and one that is empty. -/
theorem json_unambiguous_forged :
    let f : Formatter := { layout := some .json, sanitize := true, maxContent := 30 }
    let forged := Text.ofString "b\", \"hint\": \"c"
    let broken : Diagnostic := ⟨.noProgress, Text.ofString "a\n", none, none, forged⟩
    let escaped : Diagnostic := ⟨.noProgress, Text.ofString "a\\n", none, some [], forged⟩
    let hinted : Diagnostic :=
      ⟨.noProgress, Text.ofString "a\n", none, some (Text.ofString "c"), Text.ofString "b"⟩
    f.layout = some .json ∧ (f.format broken = f.format escaped ∧ broken ≠ escaped) ∧
      f.format broken ≠ f.format hinted := by
  intro f forged broken escaped hinted
  refine ⟨rfl, ⟨(json_unambiguous rfl).2.mpr (by decide), by decide⟩, ?_⟩
  intro h
  exact absurd ((json_unambiguous rfl).2.mp h) (by decide)

end Formatter

end Lexeme
