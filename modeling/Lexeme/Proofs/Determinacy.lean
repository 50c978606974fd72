/-
# Actions that are determined by the cursor

An action may read all of its session, the trace included.  What a caller sees of it is the result
and the cursor that it leaves behind, `Scan.seen`.  An action is *determined* if what is seen of
it depends on the cursor alone, so that it does the same on every copy of a cursor, whatever has
been told in the meantime.  By `Scan.Built.determined` every action that is built from the
operations of cursors is determined, with extractions nested in it to any depth.
-/
import Lexeme.Proofs.Calls

namespace Lexeme

namespace Scan

variable {α β : Type} {act : Scan α} {next : α → Scan β} {s s' : Session} {c : Cursor} {a : α}
  {f : Fault}

/-- What is seen of an action: its result, and the cursor that it leaves behind. -/
def seen (act : Scan α) (s : Session) : Except Fault α × Cursor :=
  match act s with
  | .ok a s' => (.ok a, s'.cursor)
  | .error f s' => (.error f, s'.cursor)

lemma seen_of_ok (h : act s = .ok a s') : act.seen s = (.ok a, s'.cursor) := by
  rw [seen, h]

lemma seen_of_error (h : act s = .error f s') : act.seen s = (.error f, s'.cursor) := by
  rw [seen, h]

lemma seen_eq_ok_iff : act.seen s = (.ok a, c) ↔ ∃ s', act s = .ok a s' ∧ s'.cursor = c := by
  rcases hs : act s with ⟨b, s₁⟩ | ⟨g, s₁⟩
  · rw [seen_of_ok hs]
    simp only [Prod.mk.injEq, Except.ok.injEq, EStateM.Result.ok.injEq]
    constructor
    · rintro ⟨rfl, rfl⟩
      exact ⟨s₁, ⟨rfl, rfl⟩, rfl⟩
    · rintro ⟨_, ⟨rfl, rfl⟩, rfl⟩
      exact ⟨rfl, rfl⟩
  · rw [seen_of_error hs]
    simp

lemma seen_eq_error_iff :
    act.seen s = (.error f, c) ↔ ∃ s', act s = .error f s' ∧ s'.cursor = c := by
  rcases hs : act s with ⟨b, s₁⟩ | ⟨g, s₁⟩
  · rw [seen_of_ok hs]
    simp
  · rw [seen_of_error hs]
    simp only [Prod.mk.injEq, Except.error.injEq, EStateM.Result.error.injEq]
    constructor
    · rintro ⟨rfl, rfl⟩
      exact ⟨s₁, ⟨rfl, rfl⟩, rfl⟩
    · rintro ⟨_, ⟨rfl, rfl⟩, rfl⟩
      exact ⟨rfl, rfl⟩

lemma seen_bind_of_ok (h : act s = .ok a s') : (act >>= next).seen s = (next a).seen s' := by
  rw [seen, seen, bind_of_ok h]

lemma seen_tryCatch_of_error {handler : Fault → Scan α} (h : act s = .error f s') :
    (tryCatch act handler : Scan α).seen s = (handler f).seen s' := by
  rw [seen, seen, tryCatch_of_error h]

/-- What is seen of the action is determined by the cursor. -/
def Determined (act : Scan α) : Prop :=
  ∀ s s' : Session, s.cursor = s'.cursor → act.seen s = act.seen s'

namespace Determined

/-- An action that only looks at the cursor. -/
lemma of_seen_eq {g : Cursor → Except Fault α × Cursor} (h : ∀ s, act.seen s = g s.cursor) :
    act.Determined := by
  intro s s' hc
  rw [h s, h s', hc]

lemma pure (a : α) : (Pure.pure a : Scan α).Determined := of_seen_eq fun _ => rfl

lemma fail (f : Fault) : (throw f : Scan α).Determined := of_seen_eq fun _ => rfl

lemma look (g : Cursor → α) : (Scan.look g).Determined :=
  of_seen_eq (g := fun c => (.ok (g c), c)) fun _ => rfl

lemma move (g : Cursor → α × Cursor) : (Scan.move g).Determined :=
  of_seen_eq (g := fun c => (.ok (g c).1, (g c).2)) fun _ => rfl

lemma tell (e : Event) : (Scan.tell e).Determined := of_seen_eq fun _ => rfl

lemma ask (g : Cursor → Except Fault α) :
    Determined (fun s => Scan.ofExcept (g s.cursor) s : Scan α) := by
  refine of_seen_eq (g := fun c => (g c, c)) fun s => ?_
  rcases hg : g s.cursor with f | a
  · exact seen_of_error (ofExcept_of_error hg s)
  · exact seen_of_ok (ofExcept_of_ok hg s)

lemma tryMove (g : Cursor → Except Fault (α × Cursor)) : (Scan.tryMove g).Determined := by
  intro s s' hc
  simp only [seen, Scan.tryMove, hc]
  rcases g s'.cursor with f | ⟨a, d⟩
  · simp only [hc]
  · rfl

lemma bind (hact : act.Determined) (hnext : ∀ a, (next a).Determined) :
    (act >>= next).Determined := by
  intro s s' hc
  have hsame := hact s s' hc
  rcases hs : act s with ⟨a, s₁⟩ | ⟨f, s₁⟩
  · rw [seen_of_ok hs] at hsame
    obtain ⟨s₁', hs', hc₁⟩ := seen_eq_ok_iff.1 hsame.symm
    rw [seen_bind_of_ok hs, seen_bind_of_ok hs']
    exact hnext a s₁ s₁' hc₁.symm
  · rw [seen_of_error hs] at hsame
    obtain ⟨s₁', hs', hc₁⟩ := seen_eq_error_iff.1 hsame.symm
    rw [seen_of_error (bind_of_error hs), seen_of_error (bind_of_error hs'), hc₁]

lemma recover {handler : Fault → Scan α} (hact : act.Determined)
    (hhandler : ∀ f, (handler f).Determined) : (tryCatch act handler : Scan α).Determined := by
  intro s s' hc
  have hsame := hact s s' hc
  rcases hs : act s with ⟨a, s₁⟩ | ⟨f, s₁⟩
  · rw [seen_of_ok hs] at hsame
    obtain ⟨s₁', hs', hc₁⟩ := seen_eq_ok_iff.1 hsame.symm
    rw [seen_of_ok (tryCatch_of_ok hs), seen_of_ok (tryCatch_of_ok hs'), hc₁]
  · rw [seen_of_error hs] at hsame
    obtain ⟨s₁', hs', hc₁⟩ := seen_eq_error_iff.1 hsame.symm
    rw [seen_tryCatch_of_error hs, seen_tryCatch_of_error hs']
    exact hhandler f s₁ s₁' hc₁.symm

lemma onSnapshot (hact : act.Determined) : (Scan.onSnapshot act).Determined := by
  intro s s' hc
  have hsame := hact s s' hc
  rcases hs : act s with ⟨a, s₁⟩ | ⟨f, s₁⟩
  · rw [seen_of_ok hs] at hsame
    obtain ⟨s₁', hs', -⟩ := seen_eq_ok_iff.1 hsame.symm
    simp only [seen, Scan.onSnapshot, hs, hs', Session.moveTo, hc]
  · rw [seen_of_error hs] at hsame
    obtain ⟨s₁', hs', -⟩ := seen_eq_error_iff.1 hsame.symm
    simp only [seen, Scan.onSnapshot, hs, hs', Session.moveTo, hc]

/-! ## Extractions -/

variable {κ : Type} {classify : Classifier κ}

lemma settled (h : classify.Determined) : classify.settled.Determined := by
  intro s s' hc
  have hsame := h s s' hc
  rcases hs : classify s with ⟨outcome, s₁⟩ | ⟨f, s₁⟩
  · rw [seen_of_ok hs] at hsame
    obtain ⟨s₁', hs', hc₁⟩ := seen_eq_ok_iff.1 hsame.symm
    simp only [seen, Classifier.settled, hs, hs', hc₁]
  · rw [seen_of_error hs] at hsame
    obtain ⟨s₁', hs', hc₁⟩ := seen_eq_error_iff.1 hsame.symm
    cases f <;> simp only [seen, Classifier.settled, hs, hs', hc₁]

lemma finish (convert : Conversion κ) (withText : Bool) (start : Cursor) (outcome : Outcome κ) :
    (finish convert withText start outcome).Determined := by
  refine .bind (.ask fun c => c.distanceSince start) fun consumed => ?_
  split
  · refine .bind (.bind (.ask fun _ => _) fun event => ?_) fun _ =>
      .bind ?_ fun _ => .ask fun _ => _
    · cases event with
      | none => exact .pure _
      | some e => exact .tell e
    · cases withText with
      | true => exact .bind (.ask fun c => c.textSince start) fun _ => .pure _
      | false => exact .pure _
  · exact .fail _

lemma extract (h : classify.Determined) (convert : Conversion κ) (withText : Bool) :
    (extract classify convert withText).Determined := by
  refine .bind (.look id) fun start => ?_
  split
  · exact .pure _
  · exact .bind h.settled fun outcome => .finish convert withText start outcome

end Determined

/-- **Actions that are built from the operations of cursors are determined by the cursor.** -/
theorem Built.determined (h : act.Built) : act.Determined := by
  induction h with
  | pure a => exact .pure a
  | fail f => exact .fail f
  | bind _ _ ihact ihnext => exact ihact.bind ihnext
  | recover _ _ ihact ihhandler => exact ihact.recover ihhandler
  | look g => exact .look g
  | peek => exact .ask Cursor.peek
  | bump => exact .tryMove _
  | take literal => exact .move _
  | takeWhile test => exact .tryMove _
  | consume n => exact .tryMove _
  | onSnapshot _ ih => exact ih.onSnapshot
  | extract convert withText _ ih => exact ih.extract convert withText

end Scan

end Lexeme
