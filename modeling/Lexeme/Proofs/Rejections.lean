/-
# Rejections that become items

A classifier that does not like what it has consumed rejects it: it raises a rejection, or ends
with one.  An extraction tells of the rejection, converts it to a kind, and makes an item of the
kind and what was consumed.  To be told of, a rejection has to stand for a condition, and the most
general sort of rejections stands for none.

The main result, `rejection_extracted_iff`, says that this alone decides.  For every classifier
that only moves the cursor, a rejection after progress that can be converted becomes an item if and
only if it stands for a condition, and otherwise the extraction fails although the conversion would
have succeeded.  By `general_rejection_aborts` it does fail, and a stream goes on behind a piece of
the source that no item covers.
-/
import Lexeme.Program.Recipe
import Lexeme.Proofs.Progress

namespace Lexeme

variable {κ : Type} {classify : Classifier κ} {convert : Conversion κ} {s s' : Session}
  {r : Rejection} {kind : κ} {n : Nat}

/-- The classifier rejects what it has consumed: it raises the rejection, or ends with it. -/
def Classifier.Rejects (classify : Classifier κ) (s : Session) (r : Rejection) (s' : Session) :
    Prop :=
  classify s = .error (.rejection r) s' ∨ ∃ own, classify s = .ok (.rejected r own) s'

namespace Classifier.Rejects

/-- Both ways to reject settle to one outcome, up to an item of its own that is never made. -/
lemma settled (h : classify.Rejects s r s') :
    ∃ own, classify.settled s = .ok (.rejected r own) s' := by
  rcases h with hraised | ⟨own, hended⟩
  · exact ⟨none, settled_eq_ok_iff.2 (Or.inr ⟨r, rfl, hraised⟩)⟩
  · exact ⟨own, settled_eq_ok_iff.2 (Or.inl hended)⟩

lemma of_settled {own : Option (Attachment κ)} (h : classify.settled s = .ok (.rejected r own) s') :
    classify.Rejects s r s' := by
  rcases settled_eq_ok_iff.1 h with hended | ⟨r', hr', hraised⟩
  · exact Or.inr ⟨own, hended⟩
  · cases hr'
    exact Or.inl hraised

/-- The cursor was left right after the code points that were consumed. -/
lemma skips (h : classify.Rejects s r s') (hmoves : classify.OnlyMoves)
    (hn : s'.cursor.pos = s.cursor.pos + n) :
    n ≤ s.cursor.rest.length ∧ s'.cursor = s.cursor.skip n := by
  obtain ⟨own, hset⟩ := h.settled
  obtain ⟨m, hm, hskip⟩ := hmoves.skips s
  rw [after_cursor_of_settled hset] at hskip
  rw [hskip, Cursor.skip_pos, Nat.add_left_cancel_iff] at hn
  subst hn
  exact ⟨hm, hskip⟩

/-- A rejection that stands for a condition is told of, and its item covers what was consumed. -/
lemma extract_of_condition (h : classify.Rejects s r s') (hmoves : classify.OnlyMoves)
    (hn : s'.cursor.pos = s.cursor.pos + n) (hpos : 0 < n) (hconvert : convert r = .ok kind)
    {condition : Condition} (hcond : r.condition = some condition) (withText : Bool) :
    extract classify convert withText s =
      .ok (some (.ofKind kind (.ofPiece withText (s.cursor.rest.take n))))
        (s'.record (.recovered condition s.cursor.pos n)) := by
  obtain ⟨own, hset⟩ := h.settled
  obtain ⟨hle, hskip⟩ := h.skips hmoves hn
  have hchars : (s'.cursor.pos : Int) - s.cursor.pos = n := by omega
  rw [extract_of_skip convert withText hset hskip hpos hle]
  simp only [Outcome.event, hcond, hchars, Outcome.attach, hconvert, Except.map]
  rfl

/-- A rejection that stands for none cannot be told of, and is not converted any more. -/
lemma extract_of_no_condition (h : classify.Rejects s r s') (hmoves : classify.OnlyMoves)
    (hn : s'.cursor.pos = s.cursor.pos + n) (hpos : 0 < n) (hcond : r.condition = none)
    (convert : Conversion κ) (withText : Bool) :
    extract classify convert withText s = .error .noCondition s' := by
  obtain ⟨own, hset⟩ := h.settled
  obtain ⟨hle, hskip⟩ := h.skips hmoves hn
  rw [extract_of_skip convert withText hset hskip hpos hle]
  simp only [Outcome.event, hcond]

end Classifier.Rejects

/-! ## Which rejections stand for a condition -/

namespace Program.FaultRecipe

variable {argument : Argument}

lemma condition_of_inputRejection (h : inputRejection argument = .ok r) :
    r.condition = some .unexpectedInput := by
  rw [inputRejection] at h
  cases hd : detailOr (.ok (.diagnostic .unexpectedInput)) argument with
  | error f => simp [hd, Except.map] at h
  | ok detail =>
    simp only [hd, Except.map, Except.ok.injEq] at h
    rw [← h]
    rfl

lemma condition_of_endRejection (h : endRejection argument = .ok r) :
    r.condition = some .unexpectedEnd := by
  rw [endRejection] at h
  cases hd : detailOr (.ok (.diagnostic (.unexpectedEnd none))) argument with
  | error f => simp [hd, Except.map] at h
  | ok detail =>
    simp only [hd, Except.map, Except.ok.injEq] at h
    rw [← h]
    rfl

/-- Of the rejections that can be asked for by name, those of the most general sort, and no others,
stand for no condition. -/
lemma condition_eq_none_iff {recipe : FaultRecipe} (h : recipe.build = .ok (.rejection r)) :
    r.condition = none ↔ recipe.sort = .recoverable := by
  have hmap {α : Type} {made : Except Fault α} {f : α → Fault}
      (hf : made.map f = .ok (.rejection r)) : ∃ a, made = .ok a ∧ f a = .rejection r := by
    cases made with
    | error f => simp [Except.map] at hf
    | ok a => exact ⟨a, rfl, Except.ok.inj hf⟩
  obtain ⟨sort, argument⟩ := recipe
  cases sort with
  | general | contract | tooLarge | raised signal =>
    obtain ⟨a, -, ha⟩ := hmap h
    cases ha
  | recoverable =>
    obtain ⟨detail, -, ha⟩ := hmap h
    cases ha
    simp [Rejection.general]
  | unexpectedInput | attaching =>
    obtain ⟨x, hx, ha⟩ := hmap h
    cases ha
    simp [condition_of_inputRejection hx]
  | unexpectedEnd | customEnd =>
    obtain ⟨x, hx, ha⟩ := hmap h
    cases ha
    simp [condition_of_endRejection hx]

end Program.FaultRecipe

/-! ## The exact condition -/

/-- **When a rejection becomes an item.**  Let a classifier that only moves the cursor consume `n`
code points, at least one, and then reject them, by raising or by ending with a rejection that the
conversion makes a kind of.  The extraction gives the kind with the length or the text of these
code points, and leaves the cursor right after them, if and only if the rejection stands for a
condition.  Otherwise it fails in both modes.  By name, the rejections that stand for no condition
are those of the most general sort. -/
theorem rejection_extracted_iff (hmoves : classify.OnlyMoves) (hrejects : classify.Rejects s r s')
    (hn : s'.cursor.pos = s.cursor.pos + n) (hpos : 0 < n) (hconvert : convert r = .ok kind) :
    (∃ text, s'.cursor.textSince s.cursor = .ok text ∧ text.length = n ∧
      s.cursor.rest = text ++ s'.cursor.rest ∧
      (r.condition ≠ none ↔ ∃ t, t.cursor = s'.cursor ∧
        extract classify convert false s = .ok (some (.sized kind n)) t ∧
        extract classify convert true s = .ok (some (.token kind text)) t)) ∧
    (r.condition = none →
      ∀ withText, extract classify convert withText s = .error .noCondition s') ∧
    ∀ recipe : Program.FaultRecipe, recipe.build = .ok (.rejection r) →
      (r.condition = none ↔ recipe.sort = .recoverable) := by
  obtain ⟨hle, hskip⟩ := hrejects.skips hmoves hn
  have hfails := hrejects.extract_of_no_condition hmoves hn hpos
  refine ⟨⟨s.cursor.rest.take n, ?_, ?_, ?_, ?_⟩, fun hcond => hfails hcond convert,
    fun _ => Program.FaultRecipe.condition_eq_none_iff⟩
  · rw [hskip, Cursor.textSince_skip]
  · rw [List.length_take, Nat.min_eq_left hle]
  · rw [hskip, Cursor.skip_rest, List.take_append_drop]
  · constructor
    · intro hsome
      obtain ⟨condition, hcond⟩ := Option.ne_none_iff_exists'.1 hsome
      have hextract := hrejects.extract_of_condition hmoves hn hpos hconvert hcond
      refine ⟨s'.record (.recovered condition s.cursor.pos n), rfl, ?_, hextract true⟩
      rw [hextract false, Item.ofKind_ofPiece kind hle]
    · rintro ⟨t, -, hsized, -⟩ hnone
      rw [hfails hnone] at hsized
      cases hsized

/-- A classifier that takes one code point and rejects it. -/
def spurning (r : Rejection) : Scan (Outcome Nat) := do
  Scan.bump
  throw (.rejection r)

lemma spurning_built (r : Rejection) : Scan.Built (spurning r) :=
  .bind .bump fun _ => .fail _

/-- The first of three code points becomes an item, since input that is not expected is a
condition. -/
theorem rejection_extracted_iff_spurning :
    Scan.OnlyMoves (spurning .unexpectedInput) ∧ zeros .unexpectedInput = .ok 0 ∧
      ∃ s' text t, Classifier.Rejects (spurning .unexpectedInput) (.start letters)
          .unexpectedInput s' ∧ s'.cursor.pos = 1 ∧
        s'.cursor.textSince (Cursor.start letters) = .ok text ∧ t.cursor = s'.cursor ∧
        extract (spurning .unexpectedInput) zeros false (.start letters) =
          .ok (some (.sized 0 1)) t ∧
        extract (spurning .unexpectedInput) zeros true (.start letters) =
          .ok (some (.token 0 text)) t := by
  have hmoves := (spurning_built .unexpectedInput).onlyMoves
  have hrejects : Classifier.Rejects (spurning .unexpectedInput) (.start letters)
      .unexpectedInput (Scan.after (spurning .unexpectedInput) (.start letters)) := Or.inl rfl
  have hconvert : zeros .unexpectedInput = .ok 0 := rfl
  obtain ⟨⟨text, htext, -, -, hiff⟩, -⟩ :=
    rejection_extracted_iff (n := 1) hmoves hrejects rfl Nat.one_pos hconvert
  obtain ⟨t, ht, hsized, htoken⟩ := hiff.1 (by simp [Rejection.unexpectedInput])
  exact ⟨hmoves, hconvert, _, text, t, hrejects, rfl, htext, ht, hsized, htoken⟩

/-- A rejection of the most general sort, made from a plain text. -/
def vague : Rejection := .general (.text (Text.ofString "vague"))

/-- **A rejection of the most general sort ends the extraction.**  A classifier that is built from
the operations of cursors takes the first of three code points and rejects it, and the conversion
has a kind for the rejection, but there is no item, neither by length nor by text.  A stream that is
pulled with it comes to the end of its source and has given no item at all. -/
theorem general_rejection_aborts :
    Scan.Built (spurning vague) ∧
    (⟨.recoverable, .text (Text.ofString "vague")⟩ : Program.FaultRecipe).build =
      .ok (.rejection vague) ∧
    zeros vague = .ok 0 ∧
    (∃ s', Classifier.Rejects (spurning vague) (.start letters) vague s' ∧
      s'.cursor.pos = (Cursor.start letters).pos + 1 ∧
      ∀ withText, extract (spurning vague) zeros withText (.start letters) =
        .error .noCondition s') ∧
    ∃ stream, Stream.start letters (.function zeros) = .ok (zeros, stream) ∧
      (Pull.times (Stream.pull (spurning vague) zeros) 4 stream).1 =
        [.fault .noCondition, .fault .noCondition, .fault .noCondition, .stop] := by
  refine ⟨spurning_built vague, rfl, rfl, ⟨_, Or.inl rfl, rfl, fun withText => ?_⟩, _, rfl, rfl⟩
  cases withText with
  | false => rfl
  | true => rfl

end Lexeme
