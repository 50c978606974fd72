/-
# What the progress check sees

An extraction asks its classifier for progress, and measures it in octets.  The length of an item
and the end of input are measured in code points.  A cursor that is only moved keeps the two in
step, but its offset can also be set by hand, and then the octets stay what they were.  So a
classifier that moves on and sets the offset back has made progress, and one that sets the offset
forward has made none.

The main result, `progress_check_iff`, says for every classifier that moves the cursor and sets
offsets in any order what the check reports, and that it reports what it should if the classifier
leaves the octets in step.  By `progress_check_fooled` it goes wrong in both ways otherwise: an
item covers nothing, so that a stream goes on forever, and a classifier that has come further is
told that it has not.
-/
import Lexeme.Proofs.Agreement
import Lexeme.Proofs.Octets

namespace Lexeme

variable {κ α β : Type} {classify : Classifier κ} {convert : Conversion κ} {withText : Bool}
  {c d start : Cursor} {outcome : Outcome κ} {s s' : Session} {source : Source}

/-! ## Cursors that are set by hand -/

/-- One step of a cursor that is moved and set by hand. -/
inductive Cursor.Steer (c : Cursor) : Cursor → Prop
  | move {d : Cursor} (h : c.Move d) : Steer c d
  | set (pos : Nat) : Steer c (c.setPos pos)

/-- The cursors that such steps lead to. -/
def Cursor.Steers : Cursor → Cursor → Prop := Relation.ReflTransGen Cursor.Steer

/-- The offset can go anywhere, but the buffer is kept, and octets are only added. -/
lemma Cursor.Steers.monotone (h : c.Steers d) : d.source = c.source ∧ c.bytePos ≤ d.bytePos := by
  induction h with
  | refl => exact ⟨rfl, Nat.le_refl _⟩
  | tail _ hstep ih =>
    obtain ⟨hsource, hbytes⟩ := ih
    cases hstep with
    | move hmove =>
      obtain ⟨hsource', -, hbytes'⟩ := hmove.reaches.monotone
      exact ⟨hsource'.trans hsource, Nat.le_trans hbytes hbytes'⟩
    | set pos => exact ⟨hsource, hbytes⟩

namespace Scan

variable {act : Scan α} {next : α → Scan β}

/-- An action that moves the cursor and sets its offset, also where it fails. -/
def Steers (act : Scan α) : Prop :=
  ∀ s : Session, s.cursor.Steers (act.after s).cursor

lemma OnlyMoves.steers (h : act.OnlyMoves) : act.Steers :=
  fun s => Relation.ReflTransGen.mono (fun _ _ hmove => Cursor.Steer.move hmove) _ _ (h s)

lemma Steers.setPos (pos : Nat) : (Scan.setPos pos).Steers :=
  fun _ => Relation.ReflTransGen.single (.set pos)

lemma Steers.bind (hact : act.Steers) (hnext : ∀ a, (next a).Steers) : (act >>= next).Steers := by
  intro s
  have hfirst := hact s
  rcases hs : act s with ⟨a, s₁⟩ | ⟨f, s₁⟩
  · have hsame : (act >>= next).after s = (next a).after s₁ := by
      rw [after, after, bind_of_ok hs]
    rw [after_of_ok hs] at hfirst
    rw [hsame]
    exact Relation.ReflTransGen.trans hfirst (hnext a s₁)
  · rw [after_of_error hs] at hfirst
    rw [after_of_error (bind_of_error hs)]
    exact hfirst

end Scan

/-! ## What the check reports -/

/-- The report that a classifier has consumed nothing from `start` on. -/
def Fault.noProgressAt (start : Cursor) : Fault :=
  .contract (.diagnostic (.noProgress start.here start.preview))

/-- The report that a classifier has gone back from `start` to the offset `pos`. -/
def Fault.wentBack (start : Cursor) (pos : Nat) : Fault :=
  .contract (.diagnostic (.outOfOrder start.pos pos))

lemma finish_of_behind (convert : Conversion κ) (withText : Bool) (outcome : Outcome κ)
    (hsource : s.cursor.source = start.source) (h : s.cursor.pos < start.pos) :
    finish convert withText start outcome s = .error (.wentBack start s.cursor.pos) s := by
  have hd : s.cursor.distanceSince start = .error (.wentBack start s.cursor.pos) := by
    simp only [Cursor.distanceSince, Cursor.follows, hsource, ne_eq, not_true_eq_false, if_false, h,
      if_true]
    rfl
  have hs : Scan.distanceSince start s = .error (.wentBack start s.cursor.pos) s :=
    Scan.ofExcept_of_error hd s
  rw [finish, Scan.bind_of_error hs]

lemma finish_of_bytePos_eq (convert : Conversion κ) (withText : Bool) (outcome : Outcome κ)
    (hsource : s.cursor.source = start.source) (hpos : start.pos ≤ s.cursor.pos)
    (h : s.cursor.bytePos = start.bytePos) :
    finish convert withText start outcome s = .error (.noProgressAt start) s := by
  have hd := Cursor.distanceSince_of_follows (Cursor.follows_eq_ok_iff.2 ⟨hsource, hpos⟩)
  exact finish_of_not_any convert withText outcome hd (by simp [h, Consumed.any])

lemma Session.record_ne (s : Session) (e : Event) : s.record e ≠ s := by
  intro h
  have hlen := congrArg (fun s => s.trace.latestFirst.length) h
  simp [Session.record, Trace.push] at hlen

/-- A failure after the check has told of the outcome first, unless it was not fit for telling.
So it cannot be taken for the report of a broken contract that leaves the session alone. -/
lemma finish_ne_contract (convert : Conversion κ) (withText : Bool)
    (hprog : start.Progress s.cursor) (hna : outcome.isAttaching = false) (detail : Detail) :
    finish convert withText start outcome s ≠ .error (.contract detail) s := by
  rw [finish_of_progress hprog]
  cases outcome with
  | kind k => simp [Outcome.event, Outcome.attach, Scan.ofExcept]
  | attaching make => exact absurd hna (by simp [Outcome.isAttaching])
  | rejected r own =>
    rcases hcond : r.condition with _ | condition
    · simp [Outcome.event, hcond]
    · simp only [Outcome.event, hcond, Outcome.attach]
      rcases convert r with f | k
      · intro h
        simp only [Except.map, Scan.ofExcept, EStateM.Result.error.injEq] at h
        exact Session.record_ne s _ h.2
      · simp [Except.map, Scan.ofExcept]

/-- Where the cursor is left decides what the check reports. -/
lemma extract_checks (convert : Conversion κ) (withText : Bool) (hend : s.cursor.atEnd = false)
    (hsteers : classify.Steers) (hna : classify.NeverAttaches)
    (hset : classify.settled s = .ok outcome s') :
    (extract classify convert withText s = .error (.wentBack s.cursor s'.cursor.pos) s' ↔
      s'.cursor.pos < s.cursor.pos) ∧
    (extract classify convert withText s = .error (.noProgressAt s.cursor) s' ↔
      s.cursor.pos ≤ s'.cursor.pos ∧ s'.cursor.bytePos = s.cursor.bytePos) := by
  have hmono := (hsteers s).monotone
  rw [after_cursor_of_settled hset] at hmono
  obtain ⟨hsource, hbytes⟩ := hmono
  rw [extract_of_not_atEnd classify convert withText hend, hset]
  simp only
  rcases Nat.lt_or_ge s'.cursor.pos s.cursor.pos with hlt | hge
  · rw [finish_of_behind convert withText outcome hsource hlt]
    simp [Fault.wentBack, Fault.noProgressAt, hlt, Nat.not_le_of_lt hlt, Diagnostic.noProgress,
      Diagnostic.outOfOrder]
  · rcases Nat.eq_or_lt_of_le hbytes with heq | hlt
    · rw [finish_of_bytePos_eq convert withText outcome hsource hge heq.symm]
      simp [Fault.wentBack, Fault.noProgressAt, hge, heq, Diagnostic.noProgress,
        Diagnostic.outOfOrder]
    · have hprog : s.cursor.Progress s'.cursor := ⟨hsource, hge, hlt⟩
      have hne := finish_ne_contract convert withText hprog (hna.settled s outcome s' hset)
      simp only [Fault.wentBack, Fault.noProgressAt, hne, false_iff]
      omega

/-- **What the progress check reports.**  For every cursor before the end of input, and every
classifier that moves the cursor and sets its offset in any order: an item covers what lies between
the two cursors, and octets were passed for it.  When the classifier has finished, a broken order
is reported exactly if the offset has gone back, and missing progress exactly if it has not and no
octets were passed.  If the octets that were counted are those before the cursor, then an item
covers at least one code point, and missing progress is reported exactly if the offset is the same
as before. -/
theorem progress_check_iff (hcursor : s.cursor.Reachable source) (hend : s.cursor.atEnd = false)
    (hsteers : classify.Steers) (hna : classify.NeverAttaches) (convert : Conversion κ)
    (withText : Bool) :
    (∀ item s', extract classify convert withText s = .ok (some item) s' →
      (∃ kind, item = .ofKind kind (.between withText s.cursor s'.cursor)) ∧
      s.cursor.pos ≤ s'.cursor.pos ∧ s.cursor.bytePos < s'.cursor.bytePos ∧
      (s'.cursor.Exact → s.cursor.pos < s'.cursor.pos)) ∧
    ∀ outcome s', classify.settled s = .ok outcome s' →
      (extract classify convert withText s = .error (.wentBack s.cursor s'.cursor.pos) s' ↔
        s'.cursor.pos < s.cursor.pos) ∧
      (extract classify convert withText s = .error (.noProgressAt s.cursor) s' ↔
        s.cursor.pos ≤ s'.cursor.pos ∧ s'.cursor.bytePos = s.cursor.bytePos) ∧
      (s'.cursor.Exact →
        (extract classify convert withText s = .error (.noProgressAt s.cursor) s' ↔
          s'.cursor.pos = s.cursor.pos)) := by
  -- where both cursors count their octets right, they are in the same order by octets
  have horder {d : Cursor} (hsource : d.source = s.cursor.source) (hd : d.Exact) :
      (s.cursor.pos < d.pos ↔ s.cursor.bytePos < d.bytePos) ∧
        (d.pos < s.cursor.pos ↔ d.bytePos < s.cursor.bytePos) := by
    have hplaced : d.Reachable source := by
      have hfresh := Cursor.exact_iff_atOffset.1 hd
      rw [hsource, hcursor.source_eq] at hfresh
      exact .placed hfresh
    exact ⟨hcursor.pos_lt_iff hplaced, hplaced.pos_lt_iff hcursor⟩
  constructor
  · intro item s' hx
    rcases extract_eq_ok_iff.1 hx with ⟨hend', -, -⟩ |
      ⟨-, outcome, s₁, event, hset, hprog, -, hattach, rfl⟩
    · exact absurd hend' (by simp [hend])
    · obtain ⟨kind, hitem⟩ := Outcome.exists_ofKind (hna.settled s outcome s₁ hset) hattach
      rw [Session.told_cursor]
      refine ⟨⟨kind, Option.some.inj hitem⟩, hprog.pos_le, hprog.bytePos_lt, ?_⟩
      intro hexact
      exact (horder hprog.source_eq hexact).1.2 hprog.bytePos_lt
  · intro outcome s' hset
    obtain ⟨hback, hnone⟩ := extract_checks convert withText hend hsteers hna hset
    refine ⟨hback, hnone, ?_⟩
    intro hexact
    have hmono := (hsteers s).monotone
    rw [after_cursor_of_settled hset] at hmono
    have hsame := horder hmono.1 hexact
    rw [hnone]
    omega

/-! ## Fooling the check -/

/-- A classifier that looks ahead by moving, and then sets the cursor back to where it was. -/
def backtracking : Scan (Outcome Nat) := do
  let start ← Scan.snapshot
  Scan.bump
  Scan.setPos start.pos
  pure (.kind 1)

/-- A classifier that comes further without moving. -/
def hopping : Scan (Outcome Nat) := do
  Scan.setPos 2
  pure (.kind 1)

lemma backtracking_steers : Scan.Steers backtracking :=
  .bind (Scan.OnlyMoves.look id).steers fun start =>
    .bind Scan.OnlyMoves.bump.steers fun _ =>
      .bind (.setPos start.pos) fun _ => (Scan.OnlyMoves.pure _).steers

lemma backtracking_neverAttaches : Classifier.NeverAttaches backtracking :=
  Classifier.neverAttaches_bind fun _ => Classifier.neverAttaches_bind fun _ =>
    Classifier.neverAttaches_bind fun _ => Classifier.neverAttaches_pure rfl

lemma hopping_steers : Scan.Steers hopping :=
  .bind (.setPos 2) fun _ => (Scan.OnlyMoves.pure _).steers

/-- Wherever input remains, the item of this classifier covers nothing, and the same input remains
afterwards. -/
lemma extract_backtracking (convert : Conversion Nat) (hend : s.cursor.atEnd = false) :
    ∃ s', extract backtracking convert false s = .ok (some (.sized 1 0)) s' ∧
      s'.cursor.pos = s.cursor.pos ∧ s'.cursor.atEnd = false := by
  rcases hrest : s.cursor.rest with _ | ⟨x, rest⟩
  · simp [Cursor.atEnd, hrest] at hend
  · let back := (s.cursor.skip 1).setPos s.cursor.pos
    have hset : Classifier.settled backtracking s = .ok (.kind 1) (s.moveTo back) :=
      Classifier.settled_eq_ok_iff.2 (Or.inl (Scan.bind_of_ok (Scan.bump_of_rest hrest)))
    have hbytes : s.cursor.bytePos < back.bytePos :=
      (Cursor.bytePos_lt_skip_iff (by simp [hrest])).2 Nat.one_pos
    have hprog : s.cursor.Progress back := ⟨rfl, Nat.le_refl _, hbytes⟩
    refine ⟨s.moveTo back, ?_, rfl, ?_⟩
    · refine extract_eq_ok_iff.2
        (Or.inr ⟨hend, _, _, none, hset, hprog, rfl, ?_, rfl⟩)
      simp [Outcome.attach, Stretch.between, Item.ofKind, back, Session.moveTo, Cursor.setPos,
        Cursor.place]
    · rw [← hend]
      simp only [Cursor.atEnd, Cursor.rest_eq]
      rfl

/-- A stream that pulls with it goes on forever. -/
lemma times_backtracking (convert : Conversion Nat) {stream : Stream} (hdone : stream.done = false)
    (hend : stream.session.cursor.atEnd = false) (n : Nat) :
    (Pull.times (Stream.pull backtracking convert) n stream).1 =
      List.replicate n (.item (.sized 1 0)) := by
  induction n generalizing stream with
  | zero => rfl
  | succ n ih =>
    obtain ⟨s', hx, -, hend'⟩ := extract_backtracking convert hend
    let stream' : Stream := { stream with session := s', count := stream.count + 1 }
    have hrest := @ih stream' hdone hend'
    simp only [Pull.times, Stream.pull_of_some hdone hx, List.replicate_succ]
    rw [← hrest]

/-- Three code points. -/
def letters : Source := ⟨0, Text.ofString "abc"⟩

/-- At the start of a source the octets that were passed are what is seen, not the offset. -/
theorem progress_check_iff_backtracking :
    (Cursor.start letters).Reachable letters ∧ (Cursor.start letters).atEnd = false ∧
      Scan.Steers backtracking ∧ Classifier.NeverAttaches backtracking ∧
      ∃ s', extract backtracking zeros false (.start letters) = .ok (some (.sized 1 0)) s' ∧
        (Cursor.start letters).bytePos < s'.cursor.bytePos := by
  have hreach := Cursor.Reachable.start letters
  obtain ⟨s', hx, -, -⟩ := extract_backtracking (s := .start letters) zeros rfl
  obtain ⟨hitems, -⟩ := progress_check_iff (s := .start letters) hreach rfl backtracking_steers
    backtracking_neverAttaches zeros false
  exact ⟨hreach, rfl, backtracking_steers, backtracking_neverAttaches, s', hx,
    (hitems _ s' hx).2.2.1⟩

/-- **The progress check can be fooled**, in both ways.  A classifier that moves on and sets the
offset back gets an item that covers nothing, with the offset where it was, and a stream gives that
item as often as it is pulled.  A classifier that only sets the offset forward is told that it has
made no progress. -/
theorem progress_check_fooled :
    (Cursor.start letters).Reachable letters ∧ (Cursor.start letters).atEnd = false ∧
    (Scan.Steers backtracking ∧ Classifier.NeverAttaches backtracking ∧
      (∃ s', extract backtracking zeros false (.start letters) = .ok (some (.sized 1 0)) s' ∧
        s'.cursor.pos = (Cursor.start letters).pos) ∧
      ∃ stream, Stream.start letters (.function zeros) = .ok (zeros, stream) ∧
        ∀ n, (Pull.times (Stream.pull backtracking zeros) n stream).1 =
          List.replicate n (.item (.sized 1 0))) ∧
    Scan.Steers hopping ∧ Classifier.NeverAttaches hopping ∧
      ∃ s', hopping (.start letters) = .ok (.kind 1) s' ∧
        (Cursor.start letters).pos < s'.cursor.pos ∧
        extract hopping zeros false (.start letters) =
          .error (.noProgressAt (Cursor.start letters)) s' := by
  obtain ⟨s', hx, hpos, -⟩ := extract_backtracking (s := .start letters) zeros rfl
  refine ⟨.start letters, rfl, ⟨backtracking_steers, backtracking_neverAttaches, ⟨s', hx, hpos⟩,
    _, rfl, times_backtracking zeros rfl rfl⟩, hopping_steers, ?_, ?_⟩
  · exact Classifier.neverAttaches_bind fun _ => Classifier.neverAttaches_pure rfl
  · exact ⟨_, rfl, Nat.zero_lt_two, rfl⟩

end Lexeme
