/-
# The course of an extraction

An extraction calls the classifier once and checks what it did to the cursor.  The classifier is
arbitrary: it may leave the cursor anywhere, over any buffer.  `extract_eq_ok_iff` says exactly
when an extraction succeeds and with what result, and `after_extract_cursor` says where it leaves
the cursor when it fails.  For classifiers that only move the cursor, `extract_eq_some` gives
the item in terms of the piece that was consumed, and `extract_cases` says that extractions by
length and by text end in the same way.
-/
import Lexeme.Extract
import Lexeme.Proofs.Actions
import Mathlib.Tactic.Common

namespace Lexeme

variable {κ : Type} {classify : Classifier κ} {convert : Conversion κ} {withText : Bool}
  {start c d : Cursor} {outcome : Outcome κ} {result : Option (Item κ)} {s s' : Session}

/-! ## Classifiers -/

namespace Classifier

/-- The outcomes of the classifier make no items of their own. -/
def NeverAttaches (classify : Classifier κ) : Prop :=
  ∀ s outcome s', classify s = .ok outcome s' → outcome.isAttaching = false

lemma neverAttaches_pure (h : outcome.isAttaching = false) :
    NeverAttaches (pure outcome : Scan (Outcome κ)) := by
  intro s outcome' s' hs
  cases hs
  exact h

lemma neverAttaches_fail (f : Fault) : NeverAttaches (throw f : Scan (Outcome κ)) := by
  intro s outcome s' hs
  cases hs

/-- Only the last part of a classifier gives its outcome. -/
lemma neverAttaches_bind {α : Type} {act : Scan α} {next : α → Scan (Outcome κ)}
    (h : ∀ a, NeverAttaches (next a)) : NeverAttaches (act >>= next : Scan (Outcome κ)) := by
  intro s outcome s' hs
  rcases hact : act s with ⟨a, s₁⟩ | ⟨f, s₁⟩
  · rw [Scan.bind_of_ok hact] at hs
    exact h a s₁ outcome s' hs
  · rw [Scan.bind_of_error hact] at hs
    cases hs

lemma settled_eq_ok_iff : classify.settled s = .ok outcome s' ↔
    classify s = .ok outcome s' ∨
      ∃ r, outcome = .rejected r ∧ classify s = .error (.rejection r) s' := by
  simp only [settled]
  split
  · rename_i h
    simp [h]
  · rename_i r s₁ h
    simp only [h, EStateM.Result.ok.injEq, EStateM.Result.error.injEq, Fault.rejection.injEq,
      reduceCtorEq, false_or]
    constructor
    · rintro ⟨rfl, rfl⟩
      exact ⟨r, rfl, rfl, rfl⟩
    · rintro ⟨r', rfl, rfl, rfl⟩
      exact ⟨rfl, rfl⟩
  · rename_i f s₁ hne h
    simp only [h, reduceCtorEq, EStateM.Result.error.injEq, false_or, false_iff]
    rintro ⟨r, -, rfl, rfl⟩
    exact hne r rfl

/-- A rejection that is settled leaves the session as the classifier has left it. -/
lemma after_settled (classify : Classifier κ) (s : Session) :
    classify.settled.after s = classify.after s := by
  simp only [Scan.after, settled]
  rcases classify s with ⟨outcome, s₁⟩ | ⟨f, s₁⟩
  · rfl
  · cases f <;> rfl

lemma NeverAttaches.settled (h : classify.NeverAttaches) : classify.settled.NeverAttaches := by
  intro s outcome s' hs
  rcases settled_eq_ok_iff.1 hs with hs | ⟨r, rfl, -⟩
  · exact h s outcome s' hs
  · rfl

end Classifier

/-! ## The stretch between two cursors -/

/-- The stretch between two cursors: its text if `withText`, else its length. -/
def Stretch.between (withText : Bool) (start c : Cursor) : Stretch :=
  if withText then .text (start.rest.take (c.pos - start.pos)) else .length (c.pos - start.pos)

/-- The stretch that is a text: itself if `withText`, else its length. -/
def Stretch.ofPiece (withText : Bool) (piece : Text) : Stretch :=
  if withText then .text piece else .length piece.length

lemma Stretch.between_skip {n : Nat} (hn : n ≤ c.rest.length) :
    Stretch.between withText c (c.skip n) = .ofPiece withText (c.rest.take n) := by
  simp only [between, ofPiece, Cursor.skip_pos, Nat.add_sub_cancel_left, List.length_take,
    Nat.min_eq_left hn]
  congr 2
  omega

/-- The length of a piece of the input, as an item. -/
lemma Item.ofKind_ofPiece (kind : κ) {t : Text} {n : Nat} (hn : n ≤ t.length) :
    Item.ofKind kind (.ofPiece false (t.take n)) = .sized kind n := by
  simp [Stretch.ofPiece, ofKind, hn]

/-- What an extraction asks for: a place further on in the same buffer, judged by octets. -/
structure Cursor.Progress (c d : Cursor) : Prop where
  source_eq : d.source = c.source
  pos_le : c.pos ≤ d.pos
  bytePos_lt : c.bytePos < d.bytePos

lemma Cursor.Progress.distanceSince (h : c.Progress d) :
    d.distanceSince c = .ok ⟨d.pos - c.pos, d.bytePos - c.bytePos⟩ :=
  distanceSince_of_follows (follows_eq_ok_iff.2 ⟨h.source_eq, h.pos_le⟩)

lemma Cursor.progress_of_any {consumed : Consumed} (h : d.distanceSince c = .ok consumed)
    (hany : consumed.any = true) : c.Progress d := by
  rcases hf : d.follows c with f | u
  · rw [Cursor.distanceSince, hf] at h
    exact absurd h (by simp [bind, Except.bind])
  · obtain ⟨hsource, hpos⟩ := follows_eq_ok_iff.1 hf
    rw [distanceSince_of_follows hf, Except.ok.injEq] at h
    subst h
    simp only [Consumed.any, decide_eq_true_eq] at hany
    exact ⟨hsource, hpos, by omega⟩

/-- Skipping is progress, unless nothing is skipped. -/
lemma Cursor.progress_skip_iff {n : Nat} (hn : n ≤ c.rest.length) :
    c.Progress (c.skip n) ↔ 0 < n := by
  constructor
  · intro h
    have hlt := h.bytePos_lt
    rcases Nat.eq_zero_or_pos n with rfl | hpos
    · simp at hlt
    · exact hpos
  · intro hpos
    -- no code point is without octets, so the widths of what is skipped add up to something
    have hwidth : Text.width (c.rest.take n) ≠ 0 := by
      rw [Ne, Text.width_eq_zero_iff, List.take_eq_nil_iff]
      rintro (rfl | hnil)
      · exact absurd hpos (by simp)
      · rw [hnil] at hn
        simp only [List.length_nil] at hn
        omega
    refine ⟨rfl, Nat.le_add_right _ _, ?_⟩
    rw [skip_bytePos]
    omega

/-! ## Making an item -/

/-- The session after the event of an outcome, if it has one, was told. -/
def Session.told (s : Session) : Option Event → Session
  | none => s
  | some e => s.record e

@[simp] lemma Session.told_cursor (s : Session) (e : Option Event) :
    (s.told e).cursor = s.cursor := by
  cases e <;> rfl

lemma report_apply (consumed : Consumed) (s : Session) :
    report start consumed outcome s =
      match outcome.event start consumed with
      | .ok event => .ok () (s.told event)
      | .error f => .error f s := by
  rcases he : outcome.event start consumed with f | event
  · rw [report, Scan.bind_of_error (Scan.ofExcept_of_error he s)]
  · rw [report, Scan.bind_of_ok (Scan.ofExcept_of_ok he s)]
    cases event <;> rfl

lemma stretchSince_apply (withText : Bool) {consumed : Consumed}
    (hd : s.cursor.distanceSince start = .ok consumed) (hany : consumed.any = true) :
    stretchSince start consumed withText s = .ok (.between withText start s.cursor) s := by
  have hprog := Cursor.progress_of_any hd hany
  cases withText with
  | true =>
    have htext := Cursor.textSince_of_follows
      (Cursor.follows_eq_ok_iff.2 ⟨hprog.source_eq, hprog.pos_le⟩)
    have hs : Scan.textSince start s = .ok (start.rest.take (s.cursor.pos - start.pos)) s :=
      Scan.ofExcept_of_ok htext s
    rw [stretchSince, if_pos rfl, Scan.bind_of_ok hs]
    rfl
  | false =>
    rw [hprog.distanceSince, Except.ok.injEq] at hd
    subst hd
    rfl

/-- An outcome that was reached by moving on is told and attached. -/
lemma finish_of_progress (hprog : start.Progress s.cursor) :
    finish convert withText start outcome s =
      match outcome.event start ⟨s.cursor.pos - start.pos, s.cursor.bytePos - start.bytePos⟩ with
      | .ok event =>
        Scan.ofExcept (outcome.attach convert (.between withText start s.cursor)) (s.told event)
      | .error f => .error f s := by
  have hd := hprog.distanceSince
  have hany : Consumed.any ⟨s.cursor.pos - start.pos, s.cursor.bytePos - start.bytePos⟩ = true := by
    have hlt := hprog.bytePos_lt
    simp only [Consumed.any, decide_eq_true_eq]
    omega
  have hs : Scan.distanceSince start s =
      .ok ⟨s.cursor.pos - start.pos, s.cursor.bytePos - start.bytePos⟩ s :=
    Scan.ofExcept_of_ok hd s
  rw [finish, Scan.bind_of_ok hs, if_pos hany, Scan.bind_apply, report_apply]
  rcases outcome.event start ⟨s.cursor.pos - start.pos, s.cursor.bytePos - start.bytePos⟩
    with f | event
  · rfl
  · -- telling the event has not moved the cursor
    have hstretch := stretchSince_apply (s := s.told event) withText
      (by rw [Session.told_cursor]; exact hd) hany
    rw [Session.told_cursor] at hstretch
    exact Scan.bind_of_ok hstretch

/-- Otherwise the extraction fails. -/
lemma finish_of_not_progress (convert : Conversion κ) (withText : Bool) (outcome : Outcome κ)
    (hprog : ¬ start.Progress s.cursor) :
    ∃ f, finish convert withText start outcome s = .error f s := by
  rcases hd : s.cursor.distanceSince start with f | consumed
  · have hs : Scan.distanceSince start s = .error f s := Scan.ofExcept_of_error hd s
    exact ⟨f, by rw [finish, Scan.bind_of_error hs]⟩
  · have hany : consumed.any = false := by
      by_contra hne
      exact hprog (Cursor.progress_of_any hd (by simpa using hne))
    exact ⟨_, finish_of_not_any convert withText outcome hd hany⟩

/-- What is made of an outcome, if anything is. -/
lemma finish_eq_ok_iff : finish convert withText start outcome s = .ok result s' ↔
    start.Progress s.cursor ∧ ∃ event,
      outcome.event start
        ⟨s.cursor.pos - start.pos, s.cursor.bytePos - start.bytePos⟩ = .ok event ∧
      outcome.attach convert (.between withText start s.cursor) = .ok result ∧
      s' = s.told event := by
  by_cases hprog : start.Progress s.cursor
  · rw [finish_of_progress hprog]
    rcases outcome.event start ⟨s.cursor.pos - start.pos, s.cursor.bytePos - start.bytePos⟩
      with f | event
    · simp
    · rcases outcome.attach convert (.between withText start s.cursor) with f | made
      · simp [Scan.ofExcept]
      · simp [Scan.ofExcept, hprog, eq_comm]
  · obtain ⟨f, hf⟩ := finish_of_not_progress convert withText outcome hprog
    simp [hf, hprog]

/-- The cursor stays where the classifier has left it. -/
lemma after_finish_cursor (convert : Conversion κ) (withText : Bool) (start : Cursor)
    (outcome : Outcome κ) (s : Session) :
    ((finish convert withText start outcome).after s).cursor = s.cursor := by
  by_cases hprog : start.Progress s.cursor
  · rw [Scan.after, finish_of_progress hprog]
    rcases outcome.event start _ with f | event
    · rfl
    · rcases outcome.attach convert _ with f | result
      · exact Session.told_cursor s event
      · exact Session.told_cursor s event
  · obtain ⟨f, hf⟩ := finish_of_not_progress convert withText outcome hprog
    rw [Scan.after_of_error hf]

/-- What a conversion or a plain kind gives is always an item of the stretch. -/
lemma Outcome.exists_ofKind {stretch : Stretch} (hna : outcome.isAttaching = false)
    (h : outcome.attach convert stretch = .ok result) :
    ∃ kind, result = some (.ofKind kind stretch) := by
  cases outcome with
  | kind k =>
    simp only [attach, Except.ok.injEq] at h
    exact ⟨k, h.symm⟩
  | attaching make => exact absurd hna (by simp [isAttaching])
  | rejected r own =>
    rcases hr : convert r with f | k
    · simp [attach, hr, Except.map] at h
    · simp only [attach, hr, Except.map, Except.ok.injEq] at h
      exact ⟨k, h.symm⟩

/-! ## Extracting -/

/-- **When an extraction succeeds.**  At the end of input it gives nothing.  Before the end, the
classifier has to leave the cursor further on in the same buffer, its outcome has to be fit for
telling, and attaching the outcome to the stretch between the two cursors gives the result. -/
theorem extract_eq_ok_iff : extract classify convert withText s = .ok result s' ↔
    (s.cursor.atEnd = true ∧ result = none ∧ s' = s) ∨
    (s.cursor.atEnd = false ∧ ∃ outcome s₁ event,
      classify.settled s = .ok outcome s₁ ∧ s.cursor.Progress s₁.cursor ∧
      outcome.event s.cursor
        ⟨s₁.cursor.pos - s.cursor.pos, s₁.cursor.bytePos - s.cursor.bytePos⟩ = .ok event ∧
      outcome.attach convert (.between withText s.cursor s₁.cursor) = .ok result ∧
      s' = s₁.told event) := by
  cases hend : s.cursor.atEnd with
  | true =>
    rw [extract_of_atEnd classify convert withText hend]
    simp [eq_comm]
  | false =>
    rw [extract_of_not_atEnd classify convert withText hend]
    simp only [Bool.false_eq_true, false_and, true_and, false_or]
    rcases hset : classify.settled s with ⟨outcome, s₁⟩ | ⟨f, s₁⟩
    · simp only [finish_eq_ok_iff, EStateM.Result.ok.injEq]
      constructor
      · rintro ⟨hprog, event, hrest⟩
        exact ⟨outcome, s₁, event, ⟨rfl, rfl⟩, hprog, hrest⟩
      · rintro ⟨_, _, event, ⟨rfl, rfl⟩, hprog, hrest⟩
        exact ⟨hprog, event, hrest⟩
    · simp

/-- Without outcomes that make their own items, an extraction by length gives nothing only at the
end of input; the length of its item is the distance that the cursor has gone. -/
lemma extract_sized (hna : classify.NeverAttaches)
    (h : extract classify convert false s = .ok result s') :
    (s.cursor.atEnd = true ∧ result = none ∧ s' = s) ∨
      ∃ (kind : κ) (n : Nat), result = some (.sized kind n) ∧
        s'.cursor.source = s.cursor.source ∧ s'.cursor.pos = s.cursor.pos + n := by
  rcases extract_eq_ok_iff.1 h with hend | ⟨-, outcome, s₁, event, hset, hprog, -, hatt, rfl⟩
  · exact Or.inl hend
  · obtain ⟨kind, rfl⟩ := Outcome.exists_ofKind (hna.settled s outcome s₁ hset) hatt
    have hpos := hprog.pos_le
    refine Or.inr ⟨kind, s₁.cursor.pos - s.cursor.pos, ?_, ?_, ?_⟩
    · simp only [Stretch.between, Bool.false_eq_true, if_false, Item.ofKind, Option.some.injEq,
        Item.sized.injEq, true_and]
      omega
    · rw [Session.told_cursor]
      exact hprog.source_eq
    · rw [Session.told_cursor]
      omega

/-- Wherever an extraction ends, the cursor stands where the classifier has left it. -/
lemma after_extract_cursor (convert : Conversion κ) (withText : Bool)
    (hend : s.cursor.atEnd = false) :
    ((extract classify convert withText).after s).cursor = (classify.after s).cursor := by
  rw [← Classifier.after_settled, Scan.after, extract_of_not_atEnd classify convert withText hend]
  rcases hset : classify.settled s with ⟨outcome, s₁⟩ | ⟨f, s₁⟩
  · rw [Scan.after_of_ok hset]
    exact after_finish_cursor convert withText s.cursor outcome s₁
  · rw [Scan.after_of_error hset]

/-- An extraction moves the cursor by what its classifier does. -/
lemma Scan.OnlyMoves.extract (h : classify.OnlyMoves) (convert : Conversion κ) (withText : Bool) :
    (extract classify convert withText).OnlyMoves := by
  intro s
  cases hend : s.cursor.atEnd with
  | true =>
    rw [Scan.after_of_ok (extract_of_atEnd classify convert withText hend)]
    exact .refl _
  | false =>
    rw [after_extract_cursor convert withText hend]
    exact h s

/-- A successful extraction leaves the cursor where the classifier has left it. -/
lemma after_cursor_of_settled (h : classify.settled s = .ok outcome s') :
    (classify.after s).cursor = s'.cursor := by
  rw [← Classifier.after_settled, Scan.after_of_ok h]

/-- **The item of an extraction.**  If the classifier only moves the cursor and makes no item of
its own, then an item is a kind with the piece that was consumed, which is not empty, and the
cursor stands right after that piece. -/
theorem extract_eq_some {item : Item κ} (hmoves : classify.OnlyMoves)
    (hna : classify.NeverAttaches)
    (h : extract classify convert withText s = .ok (some item) s') :
    ∃ (kind : κ) (n : Nat), 0 < n ∧ n ≤ s.cursor.rest.length ∧
      item = .ofKind kind (.ofPiece withText (s.cursor.rest.take n)) ∧
      s'.cursor = s.cursor.skip n := by
  rcases extract_eq_ok_iff.1 h with ⟨-, hnone, -⟩ |
    ⟨-, outcome, s₁, event, hset, hprog, -, hatt, rfl⟩
  · exact absurd hnone (by simp)
  · obtain ⟨n, hn, hskip⟩ := hmoves.skips s
    rw [after_cursor_of_settled hset] at hskip
    rw [hskip, Cursor.progress_skip_iff hn] at hprog
    rw [hskip, Stretch.between_skip hn] at hatt
    obtain ⟨kind, hitem⟩ := Outcome.exists_ofKind (hna.settled s outcome s₁ hset) hatt
    exact ⟨kind, n, hprog, hn, Option.some.inj hitem, by rw [Session.told_cursor, hskip]⟩

/-- An outcome that was reached by skipping is told, and attached to what was skipped. -/
lemma extract_of_skip (convert : Conversion κ) (withText : Bool) {n : Nat}
    (hset : classify.settled s = .ok outcome s') (hskip : s'.cursor = s.cursor.skip n)
    (hpos : 0 < n) (hn : n ≤ s.cursor.rest.length) :
    extract classify convert withText s =
      match outcome.event s.cursor
        ⟨s'.cursor.pos - s.cursor.pos, s'.cursor.bytePos - s.cursor.bytePos⟩ with
      | .ok event =>
        Scan.ofExcept (outcome.attach convert (.ofPiece withText (s.cursor.rest.take n)))
          (s'.told event)
      | .error f => .error f s' := by
  have hend : s.cursor.atEnd = false := by
    rw [Cursor.atEnd, List.isEmpty_eq_false_iff]
    exact List.length_pos_iff.1 (Nat.lt_of_lt_of_le hpos hn)
  have hprog : s.cursor.Progress s'.cursor := by
    rw [hskip, Cursor.progress_skip_iff hn]
    exact hpos
  have hbetween : Stretch.between withText s.cursor s'.cursor =
      .ofPiece withText (s.cursor.rest.take n) := by
    rw [hskip, Stretch.between_skip hn]
  rw [extract_of_not_atEnd classify convert withText hend, hset]
  simp only [finish_of_progress hprog, hbetween]

lemma extract_of_settled {n : Nat} {event : Option Event}
    (hset : classify.settled s = .ok outcome s') (hskip : s'.cursor = s.cursor.skip n)
    (hpos : 0 < n) (hn : n ≤ s.cursor.rest.length)
    (hevent : outcome.event s.cursor
      ⟨s'.cursor.pos - s.cursor.pos, s'.cursor.bytePos - s.cursor.bytePos⟩ = .ok event)
    (hattach : outcome.attach convert (.ofPiece withText (s.cursor.rest.take n)) = .ok result) :
    extract classify convert withText s = .ok result (s'.told event) := by
  rw [extract_of_skip convert withText hset hskip hpos hn, hevent, hattach]
  rfl

/-! ## Both modes at once -/

lemma Classifier.settled_eq_error {f : Fault} (h : classify.settled s = .error f s') :
    classify s = .error f s' ∧ ∀ r, f ≠ .rejection r := by
  simp only [settled] at h
  split at h
  · cases h
  · cases h
  · rename_i g s₁ hne hs
    cases h
    exact ⟨hs, hne⟩

/-- Where the failure of an extraction comes from, if the classifier only moves the cursor. -/
inductive Classifier.Fails (classify : Classifier κ) (convert : Conversion κ) (s : Session) :
    Fault → Prop
  | raised {f : Fault} {s' : Session} (h : classify s = .error f s') (hf : ∀ r, f ≠ .rejection r) :
      Fails classify convert s f
  | noProgress :
      Fails classify convert s
        (.contract (.diagnostic (.noProgress s.cursor.here s.cursor.preview)))
  | noCondition {r : Rejection} {own : Option (Attachment κ)} {s' : Session}
      (h : classify.settled s = .ok (.rejected r own) s') (hr : r.condition = none) :
      Fails classify convert s .noCondition
  | conversion {r : Rejection} {own : Option (Attachment κ)} {s' : Session} {f : Fault}
      (h : classify.settled s = .ok (.rejected r own) s') (hf : convert r = .error f) :
      Fails classify convert s f

/-- A classifier that has consumed nothing is told so. -/
lemma finish_of_cursor_eq (convert : Conversion κ) (withText : Bool) (outcome : Outcome κ)
    (h : s.cursor = start) :
    finish convert withText start outcome s =
      .error (.contract (.diagnostic (.noProgress start.here start.preview))) s := by
  have hd : s.cursor.distanceSince start =
      .ok ⟨s.cursor.pos - start.pos, s.cursor.bytePos - start.bytePos⟩ :=
    Cursor.distanceSince_of_follows (Cursor.follows_eq_ok_iff.2 (by simp [h]))
  exact finish_of_not_any convert withText outcome hd (by simp [h, Consumed.any])

/-- **Every extraction ends in one of three ways**, the same in both modes: there is nothing left,
there is an item of the piece that was consumed, or the extraction fails. -/
theorem extract_cases (hmoves : classify.OnlyMoves) (hna : classify.NeverAttaches)
    (convert : Conversion κ) (s : Session) :
    (s.cursor.atEnd = true ∧ ∀ withText, extract classify convert withText s = .ok none s) ∨
    (∃ (kind : κ) (n : Nat) (s' : Session), 0 < n ∧ n ≤ s.cursor.rest.length ∧
      s'.cursor = s.cursor.skip n ∧ ∀ withText, extract classify convert withText s =
        .ok (some (.ofKind kind (.ofPiece withText (s.cursor.rest.take n)))) s') ∨
    ∃ f s', classify.Fails convert s f ∧
      ∀ withText, extract classify convert withText s = .error f s' := by
  cases hend : s.cursor.atEnd with
  | true => exact Or.inl ⟨rfl, fun w => extract_of_atEnd classify convert w hend⟩
  | false =>
    refine Or.inr ?_
    rcases hset : classify.settled s with ⟨outcome, s₁⟩ | ⟨f, s₁⟩
    · obtain ⟨n, hn, hskip⟩ := hmoves.skips s
      rw [after_cursor_of_settled hset] at hskip
      rcases Nat.eq_zero_or_pos n with rfl | hpos
      · rw [Cursor.skip_zero] at hskip
        simp only [extract_of_not_atEnd classify convert _ hend, hset]
        exact Or.inr ⟨_, s₁, .noProgress, fun w => finish_of_cursor_eq convert w outcome hskip⟩
      · simp only [extract_of_skip convert _ hset hskip hpos hn]
        -- the outcome is told, and then a kind is found for it
        cases outcome with
        | kind k => exact Or.inl ⟨k, n, s₁, hpos, hn, hskip, fun w => rfl⟩
        | attaching make => exact absurd (hna.settled s _ s₁ hset) (by simp [Outcome.isAttaching])
        | rejected r own =>
          rcases hcond : r.condition with _ | condition
          · exact Or.inr ⟨_, s₁, .noCondition hset hcond, fun w => by simp [Outcome.event, hcond]⟩
          · obtain ⟨event, hevent⟩ : ∃ event, (Outcome.rejected r own).event s.cursor
                ⟨s₁.cursor.pos - s.cursor.pos, s₁.cursor.bytePos - s.cursor.bytePos⟩ =
                  .ok (some event) := by simp [Outcome.event, hcond]
            simp only [hevent, Outcome.attach]
            rcases hr : convert r with f | k
            · exact Or.inr ⟨f, s₁.told event, .conversion hset hr, fun w => rfl⟩
            · exact Or.inl ⟨k, n, s₁.told event, hpos, hn, hskip, fun w => rfl⟩
    · obtain ⟨hs, hf⟩ := Classifier.settled_eq_error hset
      refine Or.inr ⟨f, s₁, .raised hs hf, fun w => ?_⟩
      rw [extract_of_not_atEnd classify convert w hend, hset]

end Lexeme
