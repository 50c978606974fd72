/-
# Consumed text is forgotten

What a classifier has left behind cannot influence what comes next.  This is a statement about two
runs of one classifier, in a source and in a window that shows the end of it, and it is proved by
induction over the ways to put a classifier together:

* `Scan.Forward` are the actions that are built from the operations that look forward and from the
  distance since the start, with any use of their results;
* `Program.isForward` are the programs that neither set the cursor by hand nor measure items.

The main result, `extract_forgets`, compares the extraction at an offset of a source with the one at
the start of the text from that offset on: they give the same item, or faults of the same sort with
the same code, and the cursors advance by the same numbers of code points and octets.
-/
import Lexeme.Program.Run
import Lexeme.Proofs.Extraction
import Lexeme.Proofs.Windows

namespace Lexeme

variable {κ α β : Type} {w : Window} {start start' : Cursor}

/-! ## Actions that look forward -/

namespace Scan

/-- Run an action, and another one if it rejects.  The other one is told of what sort the rejection
is, but not how it is worded. -/
def rescue (act : Scan α) (handler : Text → Option Condition → Scan α) : Scan α :=
  tryCatch act fun
    | .rejection r => handler r.name r.condition
    | f => throw f

/-- The actions that look forward.  They are told where they started, and use it only to measure
how far they have come. -/
inductive Forward : {α : Type} → (Cursor → Scan α) → Prop
  | pure {α : Type} (a : α) : Forward fun _ => (Pure.pure a : Scan α)
  | fail {α : Type} (f : Fault) : Forward fun _ => (throw f : Scan α)
  | bind {α β : Type} {act : Cursor → Scan α} {next : α → Cursor → Scan β} (hact : Forward act)
      (hnext : ∀ a, Forward (next a)) : Forward fun start => act start >>= fun a => next a start
  | rescue {α : Type} {act : Cursor → Scan α} {handler : Text → Option Condition → Cursor → Scan α}
      (hact : Forward act) (hhandler : ∀ name condition, Forward (handler name condition)) :
      Forward fun start => (act start).rescue fun name condition => handler name condition start
  /-- Looking at what remains; the question for the end of input is a case. -/
  | ahead {α : Type} (g : Text → α) : Forward fun _ => Scan.look fun c => g c.rest
  | peek : Forward fun _ => Scan.peek
  | bump : Forward fun _ => Scan.bump
  | take (literal : Text) : Forward fun _ => Scan.take literal
  | takeWhile (test : CharTest) : Forward fun _ => Scan.takeWhile test
  | consume (n : Int) : Forward fun _ => Scan.consume n
  | sinceStart : Forward Scan.distanceSince

lemma rescue_inTandem {act act' : Scan α} {handler handler' : Text → Option Condition → Scan α}
    (hact : InTandem w.Sessions act act')
    (hhandler : ∀ name condition,
      InTandem w.Sessions (handler name condition) (handler' name condition)) :
    InTandem w.Sessions (act.rescue handler) (act'.rescue handler') := by
  intro s s' h
  have hfirst := hact s s' h
  generalize hr : act s = r at hfirst
  generalize hr' : act' s' = r' at hfirst
  cases hfirst with
  | ok a h₁ =>
    rw [rescue, rescue, tryCatch_of_ok hr, tryCatch_of_ok hr']
    exact .ok a h₁
  | @error f f' s₁ s₁' hf h₁ =>
    rw [rescue, rescue, tryCatch_of_error hr, tryCatch_of_error hr']
    cases hf with
    | @rejection x x' halike =>
      -- the sort of the rejection is all that the handlers are told
      show Agree _ (handler x.name x.condition s₁) (handler' x'.name x'.condition s₁')
      rw [halike.name_eq, halike.condition_eq]
      exact hhandler x'.name x'.condition _ _ h₁
    | contract hcode => exact .error (.contract hcode) h₁
    | same _ =>
      cases f with
      | rejection r => exact hhandler r.name r.condition _ _ h₁
      | _ => exact .error (.same _) h₁

/-- Actions that look forward do the same in the whole source and in the window. -/
theorem Forward.inTandem {act : Cursor → Scan α} (h : Forward act) (hstart : w.Shows start start') :
    InTandem w.Sessions (act start) (act start') := by
  induction h with
  | pure a => exact .pure a
  | fail f => exact .fail f
  | bind _ _ ihact ihnext => exact ihact.bind ihnext
  | rescue _ _ ihact ihhandler => exact rescue_inTandem ihact ihhandler
  | ahead g => exact w.ahead g
  | peek => exact w.peek
  | bump => exact w.bump
  | take literal => exact w.take literal
  | takeWhile test => exact w.takeWhile test
  | consume n => exact w.consume n
  | sinceStart => exact Window.distanceSince hstart

lemma Forward.ofExcept (result : Except Fault α) : Forward fun _ => Scan.ofExcept result := by
  cases result with
  | ok a => exact .pure a
  | error f => exact .fail f

/-- The arithmetic classifier looks forward. -/
lemma Forward.arithmetic : Forward fun _ => Arithmetic.classify := by
  have hnumber : Forward fun _ => Arithmetic.number := by
    refine .bind (.takeWhile _) fun _ => .bind (.take _) fun dot => ?_
    split
    · exact .bind (.takeWhile _) fun _ => .bind (.ofExcept _) fun _ => .pure _
    · exact .pure _
  refine .bind .peek fun c => ?_
  split
  · exact .bind (.takeWhile _) fun _ => .pure _
  · split
    · exact hnumber
    · split
      · exact .bind .bump fun _ => .pure _
      · exact .bind .bump fun _ => .fail _

end Scan

/-! ## Extractions -/

/-- The classifier does the same in every source and in every window of it. -/
def Classifier.Forgetful (classify : Classifier κ) : Prop :=
  ∀ w : Window, InTandem w.Sessions classify classify

/-- The conversion looks only at the sort of a rejection. -/
def Conversion.Coarse (convert : Conversion κ) : Prop :=
  ∀ r r' : Rejection, r.name = r'.name → r.condition = r'.condition → convert r = convert r'

/-- Outcomes that differ in the wording of a rejection at most. -/
inductive Outcome.Alike : Outcome κ → Outcome κ → Prop
  | kind (k : κ) : Alike (.kind k) (.kind k)
  | attaching (make : Attachment κ) : Alike (.attaching make) (.attaching make)
  | rejected {r r' : Rejection} (own : Option (Attachment κ)) (h : r.Alike r') :
      Alike (.rejected r own) (.rejected r' own)

lemma Outcome.Alike.refl (outcome : Outcome κ) : outcome.Alike outcome := by
  cases outcome with
  | kind k => exact .kind k
  | attaching make => exact .attaching make
  | rejected r own => exact .rejected own ⟨rfl, rfl, rfl⟩

section Extraction

variable {classify : Classifier κ} {convert : Conversion κ} {outcome outcome' : Outcome κ}

lemma Outcome.Alike.attach_eq (h : outcome.Alike outcome') (hconvert : convert.Coarse)
    (stretch : Stretch) : outcome.attach convert stretch = outcome'.attach convert stretch := by
  cases h with
  | kind k => rfl
  | attaching make => rfl
  | rejected own h => simp only [attach, hconvert _ _ h.name_eq h.condition_eq]

/-- The events of alike outcomes tell of different offsets, but there are events of both or of
none. -/
lemma report_inTandem (h : outcome.Alike outcome') (consumed : Consumed) :
    InTandem w.Sessions (report start consumed outcome) (report start' consumed outcome') := by
  intro s s' hs
  cases h with
  | kind k => exact .ok () hs
  | attaching make => exact .ok () hs
  | @rejected r r' own halike =>
    simp only [report_apply, Outcome.event, halike.condition_eq]
    rcases r'.condition with _ | condition
    · exact .error (.same _) hs
    · exact .ok () hs

lemma finish_inTandem (hstart : w.Shows start start') (h : outcome.Alike outcome')
    (hconvert : convert.Coarse) (withText : Bool) :
    InTandem w.Sessions (finish convert withText start outcome)
      (finish convert withText start' outcome') := by
  refine .bind (Window.distanceSince hstart) fun consumed => ?_
  split
  · refine .bind (report_inTandem h consumed) fun _ => .bind ?_ fun stretch => ?_
    · cases withText with
      | true => exact .bind (Window.textSince hstart) fun text => .pure _
      | false => exact .pure _
    · rw [h.attach_eq hconvert stretch]
      exact (Scan.Forward.ofExcept _).inTandem hstart
  · rw [Cursor.contract_eq, Cursor.contract_eq]
    exact fun _ _ hs => .error (.contract rfl) hs

/-- An extraction does the same in the whole source and in the window. -/
theorem extract_inTandem (hclassify : classify.Forgetful) (hconvert : convert.Coarse)
    (withText : Bool) (w : Window) :
    InTandem w.Sessions (extract classify convert withText) (extract classify convert withText) := by
  intro s s' h
  cases hend : s'.cursor.atEnd with
  | true =>
    rw [extract_of_atEnd classify convert withText hend,
      extract_of_atEnd classify convert withText (h.atEnd_eq.trans hend)]
    exact .ok none h
  | false =>
    rw [extract_of_not_atEnd classify convert withText hend,
      extract_of_not_atEnd classify convert withText (h.atEnd_eq.trans hend)]
    have hfirst := hclassify w s s' h
    simp only [Classifier.settled]
    generalize classify s = r at hfirst ⊢
    generalize classify s' = r' at hfirst ⊢
    cases hfirst with
    | ok outcome h₁ => exact finish_inTandem h (.refl outcome) hconvert withText _ _ h₁
    | @error f f' s₁ s₁' hf h₁ =>
      cases hf with
      | rejection halike => exact finish_inTandem h (.rejected none halike) hconvert withText _ _ h₁
      | contract hcode => exact .error (.contract hcode) h₁
      | same _ =>
        cases f with
        | rejection r => exact finish_inTandem h (.refl _) hconvert withText _ _ h₁
        | _ => exact .error (.same _) h₁

end Extraction

/-- The classifier that takes a copy of the cursor and tells an action where it starts. -/
def Classifier.fromStart (act : Cursor → Scan (Outcome κ)) : Scan (Outcome κ) := do
  let start ← Scan.snapshot
  act start

lemma Scan.Forward.forgetful {act : Cursor → Scan (Outcome κ)} (h : Forward act) :
    Classifier.Forgetful (.fromStart act) :=
  fun _ s s' hs => h.inTandem hs s s' hs

/-! ## Programs that look forward -/

namespace Program

/-- The step does not set the cursor by hand. -/
def Step.isForward : Step → Bool
  | .setPos _ | .setSource _ => false
  | .peek | .bump | .take _ | .takeWhile _ | .consume _ | .atLeast _ | .atMost _ | .addTake _
  | .addTakeWhile _ | .sinceStart => true

/-- The program neither sets the cursor by hand nor measures items. -/
def isForward : Program → Bool
  | .done | .arithmetic | .give _ | .raise _ => true
  | .step s next => s.isForward && next.isForward
  | .ifNext _ yes no next | .ifTake _ yes no next | .ifAny yes no next | .ifEnd yes no next =>
    yes.isForward && no.isForward && next.isForward
  | .whileNext _ body next | .rounds _ body next => body.isForward && next.isForward
  | .attempt body handler next => body.isForward && handler.isForward && next.isForward
  | .wrapConsume _ _ _ => false

/-- States at the same place of the whole source and the window, with the same last record. -/
structure Parallel (w : Window) (st st' : State) : Prop where
  sessions : w.Sessions st.session st'.session
  last_eq : st.last = st'.last

namespace Parallel

lemma scan {act act' : Scan α} (h : InTandem w.Sessions act act') :
    InTandem (Parallel w) (Exec.scan act) (Exec.scan act') := by
  intro st st' hst
  have hfirst := h _ _ hst.sessions
  simp only [Exec.scan]
  generalize act st.session = r at hfirst ⊢
  generalize act' st'.session = r' at hfirst ⊢
  cases hfirst with
  | ok a h₁ => exact .ok a ⟨h₁, hst.last_eq⟩
  | error hf h₁ => exact .error hf ⟨h₁, hst.last_eq⟩

lemma ofExcept (result : Except Fault α) :
    InTandem (Parallel w) (Exec.ofExcept result) (Exec.ofExcept result) := by
  intro st st' hst
  cases result with
  | ok a => exact .ok a hst
  | error f => exact .error (.same f) hst

lemma last : InTandem (Parallel w) Exec.last Exec.last := by
  intro st st' hst
  simp only [Exec.last, hst.last_eq]
  exact .ok _ hst

lemma remember (r : Consumed) : InTandem (Parallel w) (Exec.remember r) (Exec.remember r) :=
  fun _ _ hst => .ok () ⟨hst.sessions, rfl⟩

lemma nextIs (p : Pred) : InTandem (Parallel w) (Exec.nextIs p) (Exec.nextIs p) :=
  .bind (scan w.peek) fun c => ofExcept (p.test 0 c)

variable {part part' next next' : Block}

lemma andThen (hpart : InTandem (Parallel w) part part') (hnext : InTandem (Parallel w) next next') :
    InTandem (Parallel w) (Block.andThen part next) (Block.andThen part' next') := by
  intro st st' hst
  have hfirst := hpart st st' hst
  simp only [Block.andThen]
  generalize part st = r at hfirst ⊢
  generalize part' st' = r' at hfirst ⊢
  cases hfirst with
  | ok outcome h₁ =>
    cases outcome with
    | none => exact hnext _ _ h₁
    | some outcome => exact .ok _ h₁
  | error hf h₁ => exact .error hf h₁

lemma loop {test : Exec Bool} (htest : InTandem (Parallel w) test test)
    (hpart : InTandem (Parallel w) part part') (bound : Nat) :
    InTandem (Parallel w) (Block.loop test part bound) (Block.loop test part' bound) := by
  induction bound with
  | zero => exact .fail _
  | succ bound ih =>
    refine .bind htest fun again => ?_
    cases again with
    | true => exact andThen hpart ih
    | false => exact .pure _

lemma rounds (hpart : InTandem (Parallel w) part part') (n : Nat) :
    InTandem (Parallel w) (Block.rounds part n) (Block.rounds part' n) := by
  induction n with
  | zero => exact .pure _
  | succ n ih => exact andThen hpart ih

lemma attempt (hpart : InTandem (Parallel w) part part') (hnext : InTandem (Parallel w) next next') :
    InTandem (Parallel w) (Block.attempt part next) (Block.attempt part' next') := by
  intro st st' hst
  have hfirst := hpart st st' hst
  simp only [Block.attempt]
  generalize part st = r at hfirst ⊢
  generalize part' st' = r' at hfirst ⊢
  cases hfirst with
  | ok outcome h₁ => exact .ok _ h₁
  | @error f f' st₁ st₁' hf h₁ =>
    cases hf with
    | rejection _ => exact hnext _ _ h₁
    | contract hcode => exact .error (.contract hcode) h₁
    | same _ =>
      cases f with
      | rejection r => exact hnext _ _ h₁
      | _ => exact .error (.same _) h₁

end Parallel

/-- A step that looks forward does the same in the whole source and in the window. -/
lemma Step.inTandem {step : Step} (h : step.isForward = true) (hstart : w.Shows start start') :
    InTandem (Parallel w) (step.exec start) (step.exec start') := by
  cases step with
  | peek => exact .bind (Parallel.scan w.peek) fun _ => .pure _
  | bump => exact Parallel.scan w.bump
  | take literal => exact .bind (Parallel.scan (w.take literal)) fun r => Parallel.remember r
  | takeWhile p => exact .bind (Parallel.scan (w.takeWhile p.test)) fun r => Parallel.remember r
  | consume n => exact .bind (Parallel.scan (w.consume n)) fun r => Parallel.remember r
  | atLeast n =>
    exact .bind Parallel.last fun r => .bind (Parallel.ofExcept (r.atLeast n)) fun _ => .pure _
  | atMost n =>
    exact .bind Parallel.last fun r => .bind (Parallel.ofExcept (r.atMost n)) fun _ => .pure _
  | addTake literal =>
    exact .bind (Parallel.scan (w.take literal)) fun r =>
      .bind Parallel.last fun l => Parallel.remember (l + r)
  | addTakeWhile p =>
    exact .bind (Parallel.scan (w.takeWhile p.test)) fun r =>
      .bind Parallel.last fun l => Parallel.remember (l + r)
  | sinceStart =>
    exact .bind (Parallel.scan (Window.distanceSince hstart)) fun r => Parallel.remember r
  | setPos pos => exact absurd h (by simp [isForward])
  | setSource text => exact absurd h (by simp [isForward])

/-- A program that looks forward does the same in the whole source and in the window. -/
theorem exec_inTandem (bound : Nat) {program : Program} (h : program.isForward = true)
    (hstart : w.Shows start start') :
    InTandem (Parallel w) (exec bound program start) (exec bound program start') := by
  -- a test has the same answer on both sides, so both take the same branch
  have hbranch {part₁ part₁' part₂ part₂' next next' : Block}
      (h₁ : InTandem (Parallel w) part₁ part₁') (h₂ : InTandem (Parallel w) part₂ part₂')
      (hnext : InTandem (Parallel w) next next') (test : Bool) :
      InTandem (Parallel w) (Block.andThen (if test then part₁ else part₂) next)
        (Block.andThen (if test then part₁' else part₂') next') := by
    cases test with
    | true => exact Parallel.andThen h₁ hnext
    | false => exact Parallel.andThen h₂ hnext
  induction program with
  | done => exact .pure none
  | arithmetic =>
    exact .bind (Parallel.scan (Scan.Forward.arithmetic.inTandem hstart)) fun _ => .pure _
  | give v =>
    exact .bind Parallel.last fun r =>
      .bind (Parallel.ofExcept (v.outcome (some r))) fun _ => .pure _
  | raise r => exact .fail _
  | step s next ih =>
    simp only [isForward, Bool.and_eq_true] at h
    exact .bind (Step.inTandem h.1 hstart) fun _ => ih h.2
  | ifNext p yes no next ihyes ihno ihnext =>
    simp only [isForward, Bool.and_eq_true] at h
    exact .bind (Parallel.nextIs p) (hbranch (ihyes h.1.1) (ihno h.1.2) (ihnext h.2))
  | ifTake literal yes no next ihyes ihno ihnext =>
    simp only [isForward, Bool.and_eq_true] at h
    exact .bind (Parallel.scan (w.take literal)) fun r => .bind (Parallel.remember r) fun _ =>
      hbranch (ihyes h.1.1) (ihno h.1.2) (ihnext h.2) r.any
  | ifAny yes no next ihyes ihno ihnext =>
    simp only [isForward, Bool.and_eq_true] at h
    exact .bind Parallel.last fun r => hbranch (ihyes h.1.1) (ihno h.1.2) (ihnext h.2) r.any
  | ifEnd yes no next ihyes ihno ihnext =>
    simp only [isForward, Bool.and_eq_true] at h
    exact .bind (Parallel.scan (w.ahead List.isEmpty))
      (hbranch (ihyes h.1.1) (ihno h.1.2) (ihnext h.2))
  | whileNext p body next ihbody ihnext =>
    simp only [isForward, Bool.and_eq_true] at h
    exact Parallel.andThen (Parallel.loop (Parallel.nextIs p) (ihbody h.1) bound) (ihnext h.2)
  | rounds n body next ihbody ihnext =>
    simp only [isForward, Bool.and_eq_true] at h
    exact Parallel.andThen (Parallel.rounds (ihbody h.1) n) (ihnext h.2)
  | attempt body handler next ihbody ihhandler ihnext =>
    simp only [isForward, Bool.and_eq_true] at h
    exact Parallel.andThen (Parallel.attempt (ihbody h.1.1) (ihhandler h.1.2)) (ihnext h.2)
  | wrapConsume inner policy next => exact absurd h (by simp [isForward])

lemma classifier_forgetful {program : Program} (h : program.isForward = true) (bound : Nat) :
    (program.classifier bound).Forgetful := by
  intro w s s' hs
  have hst : Parallel w ⟨s, .zero⟩ ⟨s', .zero⟩ := ⟨hs, rfl⟩
  have hrun := exec_inTandem bound h hs _ _ hst
  simp only [classifier, Block.classifier]
  generalize exec bound program s.cursor ⟨s, .zero⟩ = r at hrun ⊢
  generalize exec bound program s'.cursor ⟨s', .zero⟩ = r' at hrun ⊢
  cases hrun with
  | ok outcome h₁ =>
    cases outcome with
    | none => exact .ok _ h₁.sessions
    | some outcome => exact .ok outcome h₁.sessions
  | error hf h₁ => exact .error hf h₁.sessions

end Program

/-! ## Extracting at an offset -/

/-- From the sessions `s` and `s'` on, both cursors have advanced by the same numbers of code points
and octets. -/
def AdvancedAlike (s s' t t' : Session) : Prop :=
  ∃ n m, t.cursor.pos = s.cursor.pos + n ∧ t'.cursor.pos = s'.cursor.pos + n ∧
    t.cursor.bytePos = s.cursor.bytePos + m ∧ t'.cursor.bytePos = s'.cursor.bytePos + m

lemma Agree.mono {σ : Type} {S T : σ → σ → Prop} {r r' : EStateM.Result Fault σ α}
    (h : Agree S r r') (hST : ∀ s s', S s s' → T s s') : Agree T r r' := by
  cases h with
  | ok a h => exact .ok a (hST _ _ h)
  | error hf h => exact .error hf (hST _ _ h)

section Offset

variable {source part : Source} {p : Nat} {s s' : Session}

/-- The text from the offset of a cursor on is a window, and the cursor shows its start. -/
lemma exists_window (hpart : part.text = source.text.drop p)
    (hs : Cursor.atOffset source p = .ok s.cursor)
    (hs' : Cursor.atOffset part (0 : Nat) = .ok s'.cursor) :
    ∃ w : Window, w.Sessions s s' ∧ ∀ t t', w.Sessions t t' → AdvancedAlike s s' t t' := by
  obtain ⟨hp, hcursor⟩ := Cursor.of_atOffset hs
  obtain ⟨-, hcursor'⟩ := Cursor.of_atOffset hs'
  refine ⟨⟨source, part, p, s.cursor.bytePos, hp, hpart⟩, ?_, ?_⟩
  · exact ⟨by rw [hcursor]; rfl, by rw [hcursor']; rfl, by rw [hcursor, hcursor']; rfl,
      by rw [hcursor']; rfl⟩
  · intro t t' h
    refine ⟨t'.cursor.pos, t'.cursor.bytePos, ?_, ?_, h.bytePos_eq, ?_⟩
    · rw [h.pos_eq, hcursor]
      rfl
    · rw [hcursor']
      exact (Nat.zero_add _).symm
    · rw [hcursor']
      exact (Nat.zero_add _).symm

/-- **Consumed text is forgotten.**  A classifier that looks forward is run at an offset of a source
and at the start of the text from that offset on, whatever was told before; rejections are converted
by their sort.  Both extractions give nothing, or the same item, or faults of the same sort with the
same code, and both cursors advance by the same numbers of code points and octets.  This holds of the
actions that are built from operations that look forward, and of the programs that look forward,
whatever bound their loops are given. -/
theorem extract_forgets (hpart : part.text = source.text.drop p)
    (hs : Cursor.atOffset source p = .ok s.cursor)
    (hs' : Cursor.atOffset part (0 : Nat) = .ok s'.cursor) (withText : Bool) :
    (∀ {κ : Type} (act : Cursor → Scan (Outcome κ)) (convert : Conversion κ), Scan.Forward act →
      convert.Coarse →
      Agree (AdvancedAlike s s') (extract (.fromStart act) convert withText s)
        (extract (.fromStart act) convert withText s')) ∧
    ∀ (program : Program) (bound : Nat) (convert : Conversion Program.Kind),
      program.isForward = true → convert.Coarse →
      Agree (AdvancedAlike s s') (extract (program.classifier bound) convert withText s)
        (extract (program.classifier bound) convert withText s') := by
  obtain ⟨w, hw, hadvanced⟩ := exists_window hpart hs hs'
  constructor
  · intro κ act convert hact hconvert
    exact (extract_inTandem hact.forgetful hconvert withText w s s' hw).mono hadvanced
  · intro program bound convert hprogram hconvert
    have hforgetful := Program.classifier_forgetful hprogram bound
    exact (extract_inTandem hforgetful hconvert withText w s s' hw).mono hadvanced

end Offset

/-- A program that bumps over digits for as long as it can, rescues itself from the end of input,
and wants to have come past at least two code points. -/
def Program.numeral : Program :=
  .attempt (.whileNext .digit (.step .bump .done) .done) .done
    (.step .sinceStart (.step (.atLeast 2) (.give (.kind (.number 1)))))

lemma Program.coarse_marks : Policy.marks.convert.Coarse := by
  intro r r' _ hcondition
  obtain ⟨name, condition, detail⟩ := r
  obtain ⟨name', condition', detail'⟩ := r'
  obtain rfl : condition = condition' := hcondition
  cases condition <;> rfl

/-- The numeral at the end of a source, after a code point of three octets, and on its own. -/
theorem extract_forgets_numeral :
    ∃ s s' : Session,
      Cursor.atOffset ⟨0, Text.ofString "€12"⟩ (1 : Nat) = .ok s.cursor ∧
      Cursor.atOffset ⟨1, Text.ofString "12"⟩ (0 : Nat) = .ok s'.cursor ∧
      Program.numeral.isForward = true ∧ Program.Policy.marks.convert.Coarse ∧
      Agree (AdvancedAlike s s')
        (extract (Program.numeral.classifier 3) Program.Policy.marks.convert false s)
        (extract (Program.numeral.classifier 3) Program.Policy.marks.convert false s') ∧
      ∃ t, extract (Program.numeral.classifier 3) Program.Policy.marks.convert false s =
        .ok (some (.sized (.number 1) 2)) t := by
  let s : Session := ⟨.place ⟨0, Text.ofString "€12"⟩ 1 3, {}, 2⟩
  let s' : Session := ⟨.place ⟨1, Text.ofString "12"⟩ 0 0, {}, 2⟩
  have hs : Cursor.atOffset ⟨0, Text.ofString "€12"⟩ (1 : Nat) = .ok s.cursor := rfl
  have hs' : Cursor.atOffset ⟨1, Text.ofString "12"⟩ (0 : Nat) = .ok s'.cursor := rfl
  exact ⟨s, s', hs, hs', rfl, Program.coarse_marks,
    (extract_forgets rfl hs hs' false).2 _ 3 _ rfl Program.coarse_marks, _, rfl⟩

end Lexeme
