/-
# What a stream tells

A stream tells of its work while it is pulled.  An extraction tells of a rejection right before it
converts it, and the stream tells of the end of its source.  These are two places, and in between a
pull may fail.  So it has to be shown that the trace agrees with what the caller has seen.

What a pull should tell is read off the pull itself, `Stream.told`: one event if it gave an item of
rejected input, and one event if the stream became done.  The main result,
`Stream.trace_matches_pulls`, says that after every course of pulls exactly these events were told,
in the order of the pulls.  The classifiers move the cursor and tell nothing themselves, as all
actions do that are built from the operations of cursors without an extraction, `Scan.Direct`.
-/
import Lexeme.Proofs.Refusals
import Lexeme.Proofs.Rejections

namespace Lexeme

/-! ## Actions that tell nothing -/

namespace Scan

variable {α β : Type} {act : Scan α} {next : α → Scan β} {s s' : Session} {a : α} {f : Fault}

/-- An action that tells nothing, also where it fails. -/
def Silent (act : Scan α) : Prop :=
  ∀ s : Session, (act.after s).trace = s.trace

namespace Silent

lemma trace_of_ok (h : act.Silent) (hs : act s = .ok a s') : s'.trace = s.trace := by
  rw [← after_of_ok hs]
  exact h s

lemma trace_of_error (h : act.Silent) (hs : act s = .error f s') : s'.trace = s.trace := by
  rw [← after_of_error hs]
  exact h s

lemma bind (hact : act.Silent) (hnext : ∀ a, (next a).Silent) : (act >>= next).Silent := by
  intro s
  rcases hs : act s with ⟨a, s₁⟩ | ⟨f, s₁⟩
  · have hsame : (act >>= next).after s = (next a).after s₁ := by
      rw [after, after, bind_of_ok hs]
    rw [hsame, hnext a s₁, hact.trace_of_ok hs]
  · rw [after_of_error (bind_of_error hs), hact.trace_of_error hs]

lemma recover {handler : Fault → Scan α} (hact : act.Silent)
    (hhandler : ∀ f, (handler f).Silent) : (tryCatch act handler : Scan α).Silent := by
  intro s
  rcases hs : act s with ⟨a, s₁⟩ | ⟨f, s₁⟩
  · rw [after_of_ok (tryCatch_of_ok hs), hact.trace_of_ok hs]
  · have hsame : (tryCatch act handler : Scan α).after s = (handler f).after s₁ := by
      rw [after, after, tryCatch_of_error hs]
    rw [hsame, hhandler f s₁, hact.trace_of_error hs]

lemma tryMove (move : Cursor → Except Fault (α × Cursor)) : (Scan.tryMove move).Silent := by
  intro s
  rcases hm : move s.cursor with f | ⟨a, d⟩
  · have hs : Scan.tryMove move s = .error f s := by rw [Scan.tryMove, hm]
    rw [after_of_error hs]
  · have hs : Scan.tryMove move s = .ok a (s.moveTo d) := by rw [Scan.tryMove, hm]
    rw [after_of_ok hs]
    rfl

lemma onSnapshot (hact : act.Silent) : (Scan.onSnapshot act).Silent := by
  intro s
  rcases hs : act s with ⟨a, s₁⟩ | ⟨f, s₁⟩
  · have hcopy : Scan.onSnapshot act s = .ok a (s₁.moveTo s.cursor) := by
      rw [Scan.onSnapshot, hs]
    rw [after_of_ok hcopy, ← hact.trace_of_ok hs]
    rfl
  · have hcopy : Scan.onSnapshot act s = .error f (s₁.moveTo s.cursor) := by
      rw [Scan.onSnapshot, hs]
    rw [after_of_error hcopy, ← hact.trace_of_error hs]
    rfl

end Silent

/-- The actions that are built from the operations of cursors without an extraction. -/
inductive Direct : {α : Type} → Scan α → Prop
  | pure {α : Type} (a : α) : Direct (Pure.pure a : Scan α)
  | fail {α : Type} (f : Fault) : Direct (throw f : Scan α)
  | bind {α β : Type} {act : Scan α} {next : α → Scan β} (hact : Direct act)
      (hnext : ∀ a, Direct (next a)) : Direct (act >>= next)
  | recover {α : Type} {act : Scan α} {handler : Fault → Scan α} (hact : Direct act)
      (hhandler : ∀ f, Direct (handler f)) : Direct (tryCatch act handler : Scan α)
  | look {α : Type} (g : Cursor → α) : Direct (Scan.look g)
  | peek : Direct Scan.peek
  | bump : Direct Scan.bump
  | take (literal : Text) : Direct (Scan.take literal)
  | takeWhile (test : CharTest) : Direct (Scan.takeWhile test)
  | consume (n : Int) : Direct (Scan.consume n)
  | onSnapshot {α : Type} {act : Scan α} (hact : Direct act) : Direct (Scan.onSnapshot act)

namespace Direct

lemma onlyMoves (h : act.Direct) : act.OnlyMoves := by
  refine Built.onlyMoves ?_
  induction h with
  | pure a => exact .pure a
  | fail f => exact .fail f
  | bind _ _ ihact ihnext => exact .bind ihact ihnext
  | recover _ _ ihact ihhandler => exact .recover ihact ihhandler
  | look g => exact .look g
  | peek => exact .peek
  | bump => exact .bump
  | take literal => exact .take literal
  | takeWhile test => exact .takeWhile test
  | consume n => exact .consume n
  | onSnapshot _ ih => exact .onSnapshot ih

/-- **Only extractions tell something.**  An action that is built from the other operations of
cursors is silent. -/
theorem silent (h : act.Direct) : act.Silent := by
  induction h with
  | pure a => exact fun _ => rfl
  | fail f => exact fun _ => rfl
  | bind _ _ ihact ihnext => exact ihact.bind ihnext
  | recover _ _ ihact ihhandler => exact ihact.recover ihhandler
  | look g => exact fun _ => rfl
  | peek => exact fun s => congrArg Session.trace (after_ofExcept s.cursor.peek s)
  | bump => exact .tryMove _
  | take literal => exact fun _ => rfl
  | takeWhile test => exact .tryMove _
  | consume n => exact .tryMove _
  | onSnapshot _ ih => exact ih.onSnapshot

end Direct

end Scan

/-! ## What an extraction tells -/

variable {κ : Type} {t : Turn κ}

namespace Classifier

/-- Every rejection of the classifier, raised or ended with, stands for a condition. -/
def NamesConditions (classify : Classifier κ) : Prop :=
  ∀ s r s', classify.Rejects s r s' → r.condition ≠ none

lemma namesConditions_kind (k : κ) : NamesConditions (pure (.kind k) : Scan (Outcome κ)) := by
  rintro s r s' (h | ⟨own, h⟩)
  · cases h
  · cases h

lemma namesConditions_fail {r : Rejection} (h : r.condition ≠ none) :
    NamesConditions (throw (.rejection r) : Scan (Outcome κ)) := by
  rintro s r' s' (h' | ⟨own, h'⟩)
  · cases h'
    exact h
  · cases h'

lemma namesConditions_bind {α : Type} {act : Scan α} {next : α → Scan (Outcome κ)}
    (hact : ∀ s r s', act s = .error (.rejection r) s' → r.condition ≠ none)
    (hnext : ∀ a, NamesConditions (next a)) :
    NamesConditions (act >>= next : Scan (Outcome κ)) := by
  intro s r s' h
  rcases hs : act s with ⟨a, s₁⟩ | ⟨f, s₁⟩
  · rw [Rejects, Scan.bind_of_ok hs] at h
    exact hnext a s₁ r s' h
  · rw [Rejects, Scan.bind_of_error hs] at h
    rcases h with h | ⟨own, h⟩
    · cases h
      exact hact s r _ hs
    · cases h

end Classifier

/-- The classifier moves the cursor and tells nothing.  Its outcomes make no items of their own, all
its rejections stand for a condition, and the conversion finds a kind for every rejection. -/
structure Turn.Plain (t : Turn κ) : Prop where
  onlyMoves : t.classify.OnlyMoves
  silent : t.classify.Silent
  neverAttaches : t.classify.NeverAttaches
  namesConditions : t.classify.NamesConditions
  converts : ∀ r, ∃ kind, t.convert r = .ok kind

/-- The condition for which the classifier rejects what it has consumed, if it rejects it. -/
def Turn.condition? (t : Turn κ) (s : Session) : Option Condition :=
  match t.classify.settled s with
  | .ok (.rejected r _) _ => r.condition
  | _ => none

namespace Turn.Plain

lemma settled_silent (h : t.Plain) : t.classify.settled.Silent := by
  intro s
  rw [Classifier.after_settled]
  exact h.silent s

/-- **What one extraction tells.**  At the end of input, and where it fails, an extraction tells
nothing.  Where it gives an item, it tells of the rejection that the item was made of, if any. -/
lemma extract_tells (h : t.Plain) (s : Session) :
    (s.cursor.atEnd = true ∧ extract t.classify t.convert false s = .ok none s) ∨
    (∃ (kind : κ) (n : Nat) (s' : Session),
      extract t.classify t.convert false s = .ok (some (.sized kind n)) s' ∧
      s'.trace.toList = s.trace.toList ++
        ((t.condition? s).map fun condition => .recovered condition s.cursor.pos n).toList) ∨
    ∃ f s', extract t.classify t.convert false s = .error f s' ∧ s'.trace = s.trace := by
  cases hend : s.cursor.atEnd with
  | true => exact Or.inl ⟨rfl, extract_of_atEnd t.classify t.convert false hend⟩
  | false =>
    refine Or.inr ?_
    have hextract := extract_of_not_atEnd t.classify t.convert false hend
    rcases hset : t.classify.settled s with ⟨outcome, s₁⟩ | ⟨f, s₁⟩
    · have htrace := h.settled_silent.trace_of_ok hset
      obtain ⟨n, hn, hskip⟩ := h.onlyMoves.skips s
      rw [after_cursor_of_settled hset] at hskip
      rcases Nat.eq_zero_or_pos n with rfl | hpos
      · -- nothing was consumed, and so nothing is told, even of a rejection
        rw [Cursor.skip_zero] at hskip
        rw [hset] at hextract
        exact Or.inr ⟨_, s₁, hextract.trans (finish_of_cursor_eq _ _ outcome hskip), htrace⟩
      · refine Or.inl ?_
        cases outcome with
        | kind k =>
          refine ⟨k, n, s₁, ?_, ?_⟩
          · rw [extract_of_skip t.convert false hset hskip hpos hn,
              ← Item.ofKind_ofPiece k hn]
            rfl
          · simp [Turn.condition?, hset, htrace]
        | attaching make =>
          exact absurd (h.neverAttaches.settled s _ s₁ hset) (by simp [Outcome.isAttaching])
        | rejected r own =>
          have hrejects := Classifier.Rejects.of_settled hset
          obtain ⟨condition, hcondition⟩ :=
            Option.ne_none_iff_exists'.1 (h.namesConditions s r s₁ hrejects)
          obtain ⟨kind, hkind⟩ := h.converts r
          have hoffset : s₁.cursor.pos = s.cursor.pos + n := by rw [hskip, Cursor.skip_pos]
          have hitem := hrejects.extract_of_condition h.onlyMoves hoffset hpos hkind hcondition false
          rw [Item.ofKind_ofPiece kind hn] at hitem
          refine ⟨kind, n, _, hitem, ?_⟩
          simp [Turn.condition?, hset, hcondition, Session.record, htrace]
    · rw [hset] at hextract
      exact Or.inr ⟨f, s₁, hextract, h.settled_silent.trace_of_error hset⟩

end Turn.Plain

/-! ## What a stream tells -/

/-- The event tells of a rejection. -/
def Event.isRecovery : Event → Bool
  | recovered _ _ _ => true
  | unlimited | started _ | exhausted _ => false

/-- The event tells of the end of a source. -/
def Event.isExhaustion : Event → Bool
  | exhausted _ => true
  | unlimited | started _ | recovered _ _ _ => false

namespace Stream

variable {stream opened : Stream} {source : Source}
  {stages : List (Pull.Stage (Turn κ) (Item κ) Stream)}

/-- The event for a pull that gave an item of rejected input: the condition for which it was
rejected, the offset of the cursor before the pull, and the length of the item. -/
def recovery? (g : Pull.Stage (Turn κ) (Item κ) Stream) : Option Event :=
  match g.result with
  | .item (.sized _ n) => (g.turn.condition? g.before.session).map fun condition =>
      .recovered condition g.before.session.cursor.pos n
  | _ => none

/-- The event for the pull at which the stream becomes done: the number of items before. -/
def exhaustion? (g : Pull.Stage (Turn κ) (Item κ) Stream) : Option Event :=
  if g.before.done = false ∧ g.after.done = true then some (.exhausted g.before.count) else none

/-- What a pull should tell. -/
def told (g : Pull.Stage (Turn κ) (Item κ) Stream) : List Event :=
  (recovery? g).toList ++ (exhaustion? g).toList

lemma isRecovery_of_recovery? {g : Pull.Stage (Turn κ) (Item κ) Stream} {e : Event}
    (h : recovery? g = some e) : e.isRecovery = true ∧ e.isExhaustion = false := by
  simp only [recovery?] at h
  split at h
  · obtain ⟨condition, -, rfl⟩ := Option.map_eq_some_iff.1 h
    exact ⟨rfl, rfl⟩
  · cases h

lemma isExhaustion_of_exhaustion? {g : Pull.Stage (Turn κ) (Item κ) Stream} {e : Event}
    (h : exhaustion? g = some e) : e.isRecovery = false ∧ e.isExhaustion = true := by
  simp only [exhaustion?] at h
  split at h
  · cases h
    exact ⟨rfl, rfl⟩
  · cases h

/-- The events of each sort can be told apart again. -/
lemma filter_told (stages : List (Pull.Stage (Turn κ) (Item κ) Stream)) :
    (stages.flatMap told).filter Event.isRecovery = stages.filterMap recovery? ∧
      (stages.flatMap told).filter Event.isExhaustion = stages.filterMap exhaustion? := by
  induction stages with
  | nil => exact ⟨rfl, rfl⟩
  | cons g stages ih =>
    simp only [List.flatMap_cons, List.filter_append, List.filterMap_cons, ih, told]
    rcases hrecovery : recovery? g with _ | e <;> rcases hexhaustion : exhaustion? g with _ | e'
    · simp
    · simp [isExhaustion_of_exhaustion? hexhaustion]
    · simp [isRecovery_of_recovery? hrecovery]
    · simp [isExhaustion_of_exhaustion? hexhaustion, isRecovery_of_recovery? hrecovery]

/-- **One pull tells what it should**, whether it gives an item, stops or fails. -/
lemma turn_tells (h : t.Plain) (stream : Stream) :
    (stream.turn t).2.session.trace.toList =
      stream.session.trace.toList ++ told (Pull.stage turn t stream) := by
  cases hdone : stream.done with
  | true => simp [told, recovery?, exhaustion?, Pull.stage, turn_of_done hdone, hdone]
  | false =>
    rcases h.extract_tells stream.session with
      ⟨-, hx⟩ | ⟨kind, n, s, hx, htrace⟩ | ⟨f, s, hx, htrace⟩
    · have hturn : stream.turn t = _ := pull_of_none hdone hx
      simp [told, recovery?, exhaustion?, Pull.stage, hturn, hdone, Session.record]
    · have hturn : stream.turn t = _ := pull_of_some hdone hx
      simp [told, recovery?, exhaustion?, Pull.stage, hturn, hdone, htrace]
    · have hturn : stream.turn t = _ := pull_of_error hdone hx
      simp [told, recovery?, exhaustion?, Pull.stage, hturn, hdone, htrace]

/-- What was told since a stream was opened, after the given pulls. -/
structure Chronicle (opened : Stream) (stages : List (Pull.Stage (Turn κ) (Item κ) Stream))
    (stream : Stream) : Prop where
  trace_eq : stream.session.trace.toList = opened.session.trace.toList ++ stages.flatMap told
  stage_eq : ∀ g ∈ stages,
    g.after.session.trace.toList = g.before.session.trace.toList ++ told g
  count_eq : stream.count = (Pull.itemsOf stages).length
  /-- The stream became done at one pull, and none before it has counted more items. -/
  exhaustions : stages.filterMap exhaustion? =
    if stream.done then [.exhausted stream.count] else []

/-- A pull counts its item, if it gives one, and makes the stream done at most once. -/
lemma turn_counts (t : Turn κ) (stream : Stream) :
    (stream.turn t).2.count = stream.count + (stream.turn t).1.item?.toList.length ∧
      (if stream.done then [.exhausted stream.count] else []) ++
          (exhaustion? (Pull.stage turn t stream)).toList =
        if (stream.turn t).2.done then [.exhausted (stream.turn t).2.count] else [] := by
  cases hdone : stream.done with
  | true => simp [exhaustion?, Pull.stage, turn_of_done hdone, hdone, Pull.item?]
  | false =>
    rcases turn_cases hdone t with ⟨item, s, -, hturn⟩ | ⟨s, -, hturn⟩ | ⟨f, s, -, hturn⟩
    · simp [exhaustion?, Pull.stage, hturn, hdone, Pull.item?]
    · simp [exhaustion?, Pull.stage, hturn, hdone, Pull.item?]
    · simp [exhaustion?, Pull.stage, hturn, hdone, Pull.item?]

/-- One more pull continues the chronicle. -/
lemma Chronicle.turn (h : Chronicle opened stages stream) (ht : t.Plain) :
    Chronicle opened (stages ++ [Pull.stage turn t stream]) (stream.turn t).2 := by
  obtain ⟨hcount, hexhaustions⟩ := turn_counts t stream
  have htells := turn_tells ht stream
  refine ⟨?_, ?_, ?_, ?_⟩
  · rw [htells, h.trace_eq, List.flatMap_append, List.append_assoc]
    simp
  · rw [List.forall_mem_append, List.forall_mem_singleton]
    exact ⟨h.stage_eq, htells⟩
  · rw [Pull.itemsOf_snoc, List.length_append, ← h.count_eq, hcount]
  · rw [← hexhaustions, List.filterMap_append, h.exhaustions]
    cases hstage : exhaustion? (Pull.stage Stream.turn t stream) <;> simp [hstage]

lemma chronicle_course (hdone : stream.done = false) (hcount : stream.count = 0)
    {turns : List (Turn κ)} (hturns : ∀ t ∈ turns, t.Plain) :
    Chronicle stream (Pull.course turn turns stream).1 (Pull.course turn turns stream).2 := by
  refine Pull.course_invariant (P := Chronicle stream) ?_ ?_
  · exact ⟨by simp, by simp, hcount, by simp [hdone]⟩
  · intro t ht stages stream' h
    exact h.turn (hturns t ht)

/-- **The trace matches the pulls.**  A stream is opened and pulled any number of times, with
classifiers that move the cursor and tell nothing themselves; their rejections stand for conditions
and can be converted.  What was told since the stream was opened are, one for one and in order, the
items that were made of rejected input, each with the offset of the cursor before its pull and with
its own length; and, if the stream is done, once the number of all its items.  Each pull adds its own
events, and the end is told at the pull at which the stream becomes done. -/
theorem trace_matches_pulls {errorKind : ErrorKind κ} {limit : Limit} {trace : Trace}
    {convert : Conversion κ} (hstart : start source errorKind limit trace = .ok (convert, stream))
    (turns : List (Turn κ)) (hturns : ∀ t ∈ turns, t.Plain) :
    ∃ log, (Pull.course turn turns stream).2.session.trace.toList =
        trace.toList ++ .started source.text.length :: log ∧
      log.filter Event.isRecovery = (Pull.course turn turns stream).1.filterMap recovery? ∧
      log.filter Event.isExhaustion =
        (if (Pull.course turn turns stream).2.done then
          [.exhausted (Pull.itemsOf (Pull.course turn turns stream).1).length] else []) ∧
      ∀ g ∈ (Pull.course turn turns stream).1, g.after.session.trace.toList =
        g.before.session.trace.toList ++ ((recovery? g).toList ++ (exhaustion? g).toList) := by
  obtain ⟨-, hstream⟩ := eq_of_start hstart
  obtain ⟨htrace, hstages, hcount, hexhaustions⟩ :
      Chronicle stream (Pull.course turn turns stream).1 (Pull.course turn turns stream).2 :=
    chronicle_course (by rw [hstream]) (by rw [hstream]) hturns
  obtain ⟨hrecovery, hexhaustion⟩ := filter_told (Pull.course turn turns stream).1
  refine ⟨_, ?_, hrecovery, ?_, hstages⟩
  · rw [htrace, hstream]
    simp [Session.record, Session.start]
  · rw [hexhaustion, hexhaustions, hcount]

/-- A classifier that accepts digits and rejects other code points, one of them before it has
consumed it. -/
def picky (spurned : CodePoint) : Scan (Outcome Nat) := do
  let c ← Scan.peek
  if c = spurned then throw (.rejection .unexpectedInput)
  else
    Scan.bump
    if c.isDigit then pure (.kind 1) else throw (.rejection .unexpectedEnd)

lemma picky_plain (spurned : CodePoint) : Turn.Plain ⟨picky spurned, zeros⟩ := by
  have hdirect : Scan.Direct (picky spurned) := by
    refine .bind .peek fun c => ?_
    split
    · exact .fail _
    · refine .bind .bump fun _ => ?_
      split
      · exact .pure _
      · exact .fail _
  refine ⟨hdirect.onlyMoves, hdirect.silent, ?_, ?_, fun r => ⟨0, rfl⟩⟩
  · refine Classifier.neverAttaches_bind fun c => ?_
    split
    · exact Classifier.neverAttaches_fail _
    · refine Classifier.neverAttaches_bind fun _ => ?_
      split
      · exact Classifier.neverAttaches_pure rfl
      · exact Classifier.neverAttaches_fail _
  · refine Classifier.namesConditions_bind ?_ fun c => ?_
    · intro s r s' hpeek
      obtain ⟨⟨-, hr⟩, -⟩ := Scan.peek_eq_error_iff.1 hpeek
      cases hr
      simp [Rejection.unexpectedEnd]
    · split
      · exact Classifier.namesConditions_fail (by simp [Rejection.unexpectedInput])
      · refine Classifier.namesConditions_bind ?_ fun _ => ?_
        · intro s r s' hbump
          obtain ⟨⟨-, hr⟩, -⟩ := Scan.bump_eq_error_iff.1 hbump
          cases hr
        · split
          · exact Classifier.namesConditions_kind 1
          · exact Classifier.namesConditions_fail (by simp [Rejection.unexpectedEnd])

/-- Three pulls that spurn the question mark, and three that do not. -/
def pickyTurns : List (Turn Nat) :=
  List.replicate 3 ⟨picky (.ofChar '?'), zeros⟩ ++ List.replicate 3 ⟨picky (.ofChar '!'), zeros⟩

/-- The first code point is rejected and becomes an item, and the second one is accepted.  At the
question mark one pull fails, and nothing is told of it; the next one makes an item.  Then the stream
stops twice, and tells of the end once. -/
theorem trace_matches_pulls_picky :
    ∃ convert stream log, start ⟨0, Text.ofString "a1?"⟩ (.function zeros) = .ok (convert, stream) ∧
      (∀ t ∈ pickyTurns, t.Plain) ∧
      (Pull.course turn pickyTurns stream).2.session.trace.toList = .started 3 :: log ∧
      log.filter Event.isRecovery =
        [.recovered .unexpectedEnd 0 1, .recovered .unexpectedEnd 2 1] ∧
      log.filter Event.isExhaustion = [.exhausted 3] := by
  have hstart : start ⟨0, Text.ofString "a1?"⟩ (.function zeros) = .ok (_, _) := rfl
  have hturns : ∀ t ∈ pickyTurns, t.Plain := by
    simp [pickyTurns, picky_plain]
  obtain ⟨log, htrace, hrecovery, hexhaustion, -⟩ :=
    trace_matches_pulls hstart pickyTurns hturns
  exact ⟨_, _, log, hstart, hturns, htrace, hrecovery.trans rfl, hexhaustion.trans rfl⟩

end Stream

end Lexeme
