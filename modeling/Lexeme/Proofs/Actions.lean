/-
# What an action does to the cursor

An action leaves a session behind whether or not it fails: `Scan.after`.  An action *only moves*
if the cursor that it leaves behind is always one that the cursor before it reaches.  The moves
of a cursor are such actions, and so is every sequence of them.  The last section says what each
move does in a session where it succeeds.
-/
import Lexeme.Proofs.Moves
import Lexeme.Scan

namespace Lexeme

namespace Scan

variable {α β : Type} {act : Scan α} {next : α → Scan β} {s s' : Session} {a : α} {f : Fault}

/-- The session that an action leaves behind, whether or not it fails. -/
def after (act : Scan α) (s : Session) : Session :=
  match act s with
  | .ok _ s' => s'
  | .error _ s' => s'

lemma after_of_ok (h : act s = .ok a s') : act.after s = s' := by
  rw [after, h]

lemma after_of_error (h : act s = .error f s') : act.after s = s' := by
  rw [after, h]

lemma bind_of_ok (h : act s = .ok a s') : (act >>= next) s = next a s' := by
  rw [bind_apply, h]

lemma bind_of_error (h : act s = .error f s') : (act >>= next) s = .error f s' := by
  rw [bind_apply, h]

lemma ofExcept_of_ok {result : Except Fault α} (h : result = .ok a) (s : Session) :
    ofExcept result s = .ok a s := by
  rw [h]
  rfl

lemma ofExcept_of_error {result : Except Fault α} (h : result = .error f) (s : Session) :
    ofExcept result s = .error f s := by
  rw [h]
  rfl

lemma after_ofExcept (result : Except Fault α) (s : Session) : (ofExcept result).after s = s := by
  cases result with
  | ok a => rfl
  | error f => rfl

/-- A handler takes over where the action has failed; what was done stays done. -/
lemma tryCatch_of_error {handler : Fault → Scan α} (h : act s = .error f s') :
    (tryCatch act handler : Scan α) s = handler f s' := by
  show EStateM.tryCatch act handler s = _
  delta EStateM.tryCatch
  simp only [h]
  rfl

lemma tryCatch_of_ok {handler : Fault → Scan α} (h : act s = .ok a s') :
    (tryCatch act handler : Scan α) s = .ok a s' := by
  show EStateM.tryCatch act handler s = _
  delta EStateM.tryCatch
  simp only [h]

/-! ## Actions that only move -/

/-- An action that only moves the cursor, also where it fails. -/
def OnlyMoves (act : Scan α) : Prop :=
  ∀ s : Session, s.cursor.Reaches (act.after s).cursor

namespace OnlyMoves

/-- What such an action did to the cursor is told by one number. -/
lemma skips (h : act.OnlyMoves) (s : Session) :
    ∃ n ≤ s.cursor.rest.length, (act.after s).cursor = s.cursor.skip n :=
  Cursor.reaches_iff_skip.1 (h s)

lemma reaches_of_ok (h : act.OnlyMoves) (hs : act s = .ok a s') : s.cursor.Reaches s'.cursor := by
  rw [← after_of_ok hs]
  exact h s

lemma reaches_of_error (h : act.OnlyMoves) (hs : act s = .error f s') :
    s.cursor.Reaches s'.cursor := by
  rw [← after_of_error hs]
  exact h s

/-- An action that leaves the cursor alone. -/
lemma of_cursor_eq (h : ∀ s, (act.after s).cursor = s.cursor) : act.OnlyMoves := by
  intro s
  rw [h s]
  exact .refl _

lemma pure (a : α) : (Pure.pure a : Scan α).OnlyMoves := of_cursor_eq fun _ => rfl

lemma fail (f : Fault) : (throw f : Scan α).OnlyMoves := of_cursor_eq fun _ => rfl

lemma look (g : Cursor → α) : (Scan.look g).OnlyMoves := of_cursor_eq fun _ => rfl

/-- The second action starts where the first one has left the cursor. -/
lemma bind (hact : act.OnlyMoves) (hnext : ∀ a, (next a).OnlyMoves) :
    (act >>= next).OnlyMoves := by
  intro s
  rcases hs : act s with ⟨a, s₁⟩ | ⟨f, s₁⟩
  · have hsame : (act >>= next).after s = (next a).after s₁ := by
      rw [after, after, bind_of_ok hs]
    rw [hsame]
    exact (hact.reaches_of_ok hs).trans (hnext a s₁)
  · rw [after_of_error (bind_of_error hs)]
    exact hact.reaches_of_error hs

lemma recover {handler : Fault → Scan α} (hact : act.OnlyMoves)
    (hhandler : ∀ f, (handler f).OnlyMoves) : (tryCatch act handler : Scan α).OnlyMoves := by
  intro s
  rcases hs : act s with ⟨a, s₁⟩ | ⟨f, s₁⟩
  · rw [after_of_ok (tryCatch_of_ok hs)]
    exact hact.reaches_of_ok hs
  · have hsame : (tryCatch act handler : Scan α).after s = (handler f).after s₁ := by
      rw [after, after, tryCatch_of_error hs]
    rw [hsame]
    exact (hact.reaches_of_error hs).trans (hhandler f s₁)

lemma peek : Scan.peek.OnlyMoves :=
  of_cursor_eq fun s => congrArg Session.cursor (after_ofExcept s.cursor.peek s)

/-- A move that can fail, and leaves the cursor where it does. -/
lemma tryMove {move : Cursor → Except Fault (α × Cursor)}
    (h : ∀ {c a d}, move c = .ok (a, d) → c.Reaches d) : (Scan.tryMove move).OnlyMoves := by
  intro s
  rcases hm : move s.cursor with f | ⟨a, d⟩
  · have hs : Scan.tryMove move s = .error f s := by rw [Scan.tryMove, hm]
    rw [after_of_error hs]
    exact .refl _
  · have hs : Scan.tryMove move s = .ok a (s.moveTo d) := by rw [Scan.tryMove, hm]
    rw [after_of_ok hs]
    exact h hm

lemma bump : Scan.bump.OnlyMoves := by
  refine tryMove fun {c a d} h => ?_
  rcases hb : c.bump with f | e
  · rw [hb] at h
    exact absurd h (by simp [Except.map])
  · rw [hb] at h
    simp only [Except.map, Except.ok.injEq, Prod.mk.injEq] at h
    exact (Cursor.Move.bump (h.2 ▸ hb)).reaches

lemma take (literal : Text) : (Scan.take literal).OnlyMoves :=
  fun s => (Cursor.Move.take (c := s.cursor) literal).reaches

lemma takeWhile (test : CharTest) : (Scan.takeWhile test).OnlyMoves :=
  tryMove fun h => (Cursor.Move.takeWhile h).reaches

lemma consume (n : Int) : (Scan.consume n).OnlyMoves :=
  tryMove fun h => (Cursor.Move.consume h).reaches

/-- An action on a copy of the cursor does not move it at all. -/
lemma onSnapshot (act : Scan α) : (Scan.onSnapshot act).OnlyMoves := by
  refine of_cursor_eq fun s => ?_
  rcases hs : act s with ⟨a, s₁⟩ | ⟨f, s₁⟩
  · have hcopy : Scan.onSnapshot act s = .ok a (s₁.moveTo s.cursor) := by
      rw [Scan.onSnapshot, hs]
    rw [after_of_ok hcopy]
    rfl
  · have hcopy : Scan.onSnapshot act s = .error f (s₁.moveTo s.cursor) := by
      rw [Scan.onSnapshot, hs]
    rw [after_of_error hcopy]
    rfl

end OnlyMoves

/-! ## What each action does where it succeeds -/

variable {c : CodePoint} {literal run rest : Text}

lemma moveTo_skip_skip (s : Session) (m n : Nat) :
    (s.moveTo (s.cursor.skip m)).moveTo ((s.moveTo (s.cursor.skip m)).cursor.skip n) =
      s.moveTo (s.cursor.skip (m + n)) := by
  rw [← Cursor.skip_skip]
  rfl

lemma peek_of_rest (hrest : s.cursor.rest = c :: rest) : Scan.peek s = .ok c s := by
  simp only [Scan.peek, Cursor.peek, hrest]
  rfl

lemma bump_of_rest (hrest : s.cursor.rest = c :: rest) :
    Scan.bump s = .ok () (s.moveTo (s.cursor.skip 1)) := by
  have hbump : s.cursor.bump = .ok (s.cursor.skip 1) :=
    Cursor.bump_eq_ok_iff.2 ⟨by simp [hrest], rfl⟩
  simp only [Scan.bump, Scan.tryMove, hbump, Except.map]

lemma take_of_rest (hne : literal ≠ []) (hrest : s.cursor.rest = literal ++ rest) :
    Scan.take literal s = .ok (.ofText literal) (s.moveTo (s.cursor.skip literal.length)) := by
  have hprefix : literal <+: s.cursor.rest := ⟨rest, hrest.symm⟩
  simp only [Scan.take, Scan.move, Cursor.take_of_prefix hne hprefix]

lemma take_of_not_prefix (h : ¬ literal <+: s.cursor.rest) : Scan.take literal s = .ok .zero s := by
  simp only [Scan.take, Scan.move, Cursor.take_of_not_prefix h]
  rfl

/-- A run ends where the first code point comes that the test does not accept. -/
lemma takeWhile_of_rest {p : CodePoint → Bool} (hrest : s.cursor.rest = run ++ rest)
    (hrun : ∀ c ∈ run, p c = true) (hnext : ∀ c ∈ rest.head?, ¬ p c = true) :
    Scan.takeWhile (.ofBool p) s = .ok (.ofText run) (s.moveTo (s.cursor.skip run.length)) := by
  have hstop : rest.takeWhile p = [] := by
    cases rest with
    | nil => rfl
    | cons x t => exact List.takeWhile_cons_of_neg (hnext x (by simp))
  have htake : s.cursor.rest.takeWhile p = run := by
    rw [hrest, List.takeWhile_append_of_pos hrun, hstop, List.append_nil]
  simp only [Scan.takeWhile, Scan.tryMove, Cursor.takeWhile_ofBool, htake]

end Scan

end Lexeme
