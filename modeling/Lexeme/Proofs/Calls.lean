/-
# Calls on cursors

Several cursors lie on a desk.  A call places a new cursor, copies one, or runs an action on one
of them; the action may fail, and what it did before it failed stays done.  The actions are those
that are built from the operations of cursors, `Scan.Built`: looking, the four moves, work on a
copy, and extractions with classifiers that are themselves built in this way.

* `Scan.Built.onlyMoves`: an action that is built in this way only moves the cursor;
* `Desk.cursors_exact`: whatever calls were made, every cursor on the desk is the one that would be
  placed afresh at its offset, and no call moves a cursor back.
-/
import Lexeme.Arithmetic
import Lexeme.Proofs.Extraction

namespace Lexeme

namespace Scan

/-- The actions that are built from the operations of cursors. -/
inductive Built : {α : Type} → Scan α → Prop
  | pure {α : Type} (a : α) : Built (Pure.pure a : Scan α)
  | fail {α : Type} (f : Fault) : Built (throw f : Scan α)
  | bind {α β : Type} {act : Scan α} {next : α → Scan β} (hact : Built act)
      (hnext : ∀ a, Built (next a)) : Built (act >>= next)
  | recover {α : Type} {act : Scan α} {handler : Fault → Scan α} (hact : Built act)
      (hhandler : ∀ f, Built (handler f)) : Built (tryCatch act handler : Scan α)
  /-- Looking at the cursor; a copy of it and the question for the end of input are cases. -/
  | look {α : Type} (g : Cursor → α) : Built (Scan.look g)
  | peek : Built Scan.peek
  | bump : Built Scan.bump
  | take (literal : Text) : Built (Scan.take literal)
  | takeWhile (test : CharTest) : Built (Scan.takeWhile test)
  | consume (n : Int) : Built (Scan.consume n)
  | onSnapshot {α : Type} {act : Scan α} (hact : Built act) : Built (Scan.onSnapshot act)
  | extract {κ : Type} {classify : Classifier κ} (convert : Conversion κ) (withText : Bool)
      (hclassify : Built classify) : Built (Lexeme.extract classify convert withText)

namespace Built

/-- **Actions that are built from the operations of cursors only move the cursor**, also where
they fail, and however deeply extractions are nested in them. -/
theorem onlyMoves {α : Type} {act : Scan α} (h : act.Built) : act.OnlyMoves := by
  induction h with
  | pure a => exact .pure a
  | fail f => exact .fail f
  | bind _ _ ihact ihnext => exact ihact.bind ihnext
  | recover _ _ ihact ihhandler => exact ihact.recover ihhandler
  | look g => exact .look g
  | peek => exact .peek
  | bump => exact .bump
  | take literal => exact .take literal
  | takeWhile test => exact .takeWhile test
  | consume n => exact .consume n
  | onSnapshot _ _ => exact .onSnapshot _
  | extract convert withText _ ih => exact ih.extract convert withText

lemma ofExcept {α : Type} (result : Except Fault α) : (Scan.ofExcept result).Built := by
  cases result with
  | ok a => exact .pure a
  | error f => exact .fail f

lemma wrap {κ : Type} {classify : Classifier κ} (h : Built classify) (errorKind : ErrorKind κ) :
    Built (Lexeme.wrap classify errorKind) :=
  .bind (.ofExcept _) fun convert => .onSnapshot (.extract convert false h)

/-- The arithmetic classifier is built from the operations of cursors. -/
lemma arithmetic : Built Arithmetic.classify := by
  have hnumber : Built Arithmetic.number := by
    refine .bind (.takeWhile _) fun _ => .bind (.take _) fun dot => ?_
    split
    · exact .bind (.takeWhile _) fun _ => .bind (.ofExcept _) fun _ => .pure _
    · exact .pure _
  refine .bind .peek fun c => ?_
  split
  · exact .bind (.takeWhile _) fun _ => .pure _
  · split
    · exact hnumber
    · split
      · exact .bind .bump fun _ => .pure _
      · exact .bind .bump fun _ => .fail _

end Built

/-- The cursors that an action comes by while it runs, those on copies included. -/
inductive Visits : {α : Type} → Scan α → Session → Cursor → Prop
  | before {α : Type} (act : Scan α) (s : Session) : Visits act s s.cursor
  | after {α : Type} {act : Scan α} (hact : Built act) (s : Session) :
      Visits act s (act.after s).cursor
  | bindFirst {α β : Type} {act : Scan α} {s : Session} {c : Cursor} (next : α → Scan β)
      (hvisit : Visits act s c) : Visits (act >>= next) s c
  | bindNext {α β : Type} {act : Scan α} {next : α → Scan β} {s s' : Session} {a : α}
      {c : Cursor} (hact : Built act) (hok : act s = .ok a s') (hvisit : Visits (next a) s' c) :
      Visits (act >>= next) s c
  | recoverFirst {α : Type} {act : Scan α} {s : Session} {c : Cursor}
      (handler : Fault → Scan α) (hvisit : Visits act s c) :
      Visits (tryCatch act handler : Scan α) s c
  | recoverNext {α : Type} {act : Scan α} {handler : Fault → Scan α} {s s' : Session}
      {f : Fault} {c : Cursor} (hact : Built act) (herror : act s = .error f s')
      (hvisit : Visits (handler f) s' c) : Visits (tryCatch act handler : Scan α) s c
  | onSnapshot {α : Type} {act : Scan α} {s : Session} {c : Cursor} (hvisit : Visits act s c) :
      Visits (Scan.onSnapshot act) s c
  | extract {κ : Type} {classify : Classifier κ} {s : Session} {c : Cursor}
      (convert : Conversion κ) (withText : Bool) (hvisit : Visits classify s c) :
      Visits (Lexeme.extract classify convert withText) s c

/-- The cursors that an action comes by are reached by moves. -/
lemma Visits.reaches {α : Type} {act : Scan α} {s : Session} {c : Cursor}
    (h : act.Visits s c) : s.cursor.Reaches c := by
  induction h with
  | before act s => exact .refl _
  | after hact s => exact hact.onlyMoves s
  | bindFirst _ _ ih => exact ih
  | bindNext hact hok _ ih => exact (hact.onlyMoves.reaches_of_ok hok).trans ih
  | recoverFirst _ _ ih => exact ih
  | recoverNext hact herror _ ih => exact (hact.onlyMoves.reaches_of_error herror).trans ih
  | onSnapshot _ ih => exact ih
  | extract _ _ _ ih => exact ih

end Scan

/-! ## A desk with cursors -/

/-- Some cursors, and what actions on them have told. -/
structure Desk where
  /-- The cursors, in the order in which they were placed. -/
  cursors : List Cursor := []
  /-- What has been told so far. -/
  trace : Trace := {}
  /-- A label that no buffer has yet. -/
  nextLabel : Nat := 0

/-- What can be done with the cursors on a desk. -/
inductive Call : Type 1
  /-- Place a cursor. -/
  | create (source : Source) (pos : Int)
  /-- Copy a cursor. -/
  | snapshot (slot : Nat)
  /-- Run an action on a cursor. -/
  | act {α : Type} (slot : Nat) (action : Scan α)

/-- The call uses the operations of cursors only. -/
def Call.Built : Call → Prop
  | create _ _ | snapshot _ => True
  | act _ action => action.Built

namespace Desk

variable {desk : Desk} {call : Call}

/-- The desk with one more cursor. -/
def place (desk : Desk) (c : Cursor) : Desk :=
  { desk with cursors := desk.cursors ++ [c] }

/-- The effect of a call.  A call that fails to place a cursor, or finds none, changes nothing. -/
def perform (desk : Desk) : Call → Desk
  | .create source pos =>
    match Cursor.atOffset source pos with
    | .ok c => desk.place c
    | .error _ => desk
  | .snapshot slot =>
    match desk.cursors[slot]? with
    | some c => desk.place c
    | none => desk
  | .act slot action =>
    match desk.cursors[slot]? with
    | some c =>
      let s := action.after ⟨c, desk.trace, desk.nextLabel⟩
      ⟨desk.cursors.set slot s.cursor, s.trace, s.nextLabel⟩
    | none => desk

/-- The effect of calls, one after the other. -/
def run (calls : List Call) : Desk :=
  calls.foldl perform {}

/-- The session in which an action on a cursor runs. -/
def session (desk : Desk) (c : Cursor) : Session :=
  ⟨c, desk.trace, desk.nextLabel⟩

/-- A call leaves every cursor in its slot, and only moves it. -/
lemma perform_reaches (hcall : call.Built) {slot : Nat} {c : Cursor}
    (hc : desk.cursors[slot]? = some c) :
    ∃ d, (desk.perform call).cursors[slot]? = some d ∧ c.Reaches d := by
  have hplace (d : Cursor) : (desk.place d).cursors[slot]? = some c := by
    rw [place, List.getElem?_append_left (List.getElem?_eq_some_iff.1 hc).1, hc]
  cases call with
  | create source pos =>
    simp only [perform]
    split
    · exact ⟨c, hplace _, .refl c⟩
    · exact ⟨c, hc, .refl c⟩
  | snapshot other =>
    simp only [perform]
    split
    · exact ⟨c, hplace _, .refl c⟩
    · exact ⟨c, hc, .refl c⟩
  | act other action =>
    simp only [perform]
    split
    · rename_i d hd
      by_cases hslot : other = slot
      · -- the cursor is the one that the action has moved
        subst hslot
        rw [hc, Option.some.injEq] at hd
        subst hd
        have hlt := (List.getElem?_eq_some_iff.1 hc).1
        exact ⟨_, List.getElem?_set_self hlt, hcall.onlyMoves (desk.session c)⟩
      · exact ⟨c, by rw [List.getElem?_set_ne hslot, hc], .refl c⟩
    · exact ⟨c, hc, .refl c⟩

/-- A call leaves exact cursors exact, and places exact cursors only. -/
lemma perform_exact (hcall : call.Built) (h : ∀ c ∈ desk.cursors, c.Exact) :
    ∀ c ∈ (desk.perform call).cursors, c.Exact := by
  have hplace {d : Cursor} (hd : d.Exact) : ∀ c ∈ (desk.place d).cursors, c.Exact := by
    rw [place, List.forall_mem_append, List.forall_mem_singleton]
    exact ⟨h, hd⟩
  cases call with
  | create source pos =>
    simp only [perform]
    split
    · rename_i c hc
      exact hplace (Cursor.exact_of_atOffset hc)
    · exact h
  | snapshot slot =>
    simp only [perform]
    split
    · rename_i c hc
      exact hplace (h c (List.mem_of_getElem? hc))
    · exact h
  | act slot action =>
    simp only [perform]
    split
    · rename_i d hd
      intro c hc
      rcases List.mem_or_eq_of_mem_set hc with hc | rfl
      · exact h c hc
      · exact (h d (List.mem_of_getElem? hd)).reaches (hcall.onlyMoves (desk.session d))
    · exact h

lemma run_exact {calls : List Call} (hcalls : ∀ call ∈ calls, call.Built) :
    ∀ c ∈ (run calls).cursors, c.Exact := by
  have key : ∀ desk : Desk, (∀ c ∈ desk.cursors, c.Exact) →
      ∀ c ∈ (calls.foldl perform desk).cursors, c.Exact := by
    induction calls with
    | nil => exact fun _ h => h
    | cons call calls ih =>
      intro desk h
      exact ih (fun other hother => hcalls other (by simp [hother])) _
        (perform_exact (hcalls call (by simp)) h)
  exact key {} (by simp)

/-- **Every cursor is what a fresh one at its offset would be.**  After any calls, this holds of
the cursors on the desk, and of every cursor that the action of a further call comes by; and no
call takes a cursor back, neither in code points nor in octets. -/
theorem cursors_exact (calls : List Call) (hcalls : ∀ call ∈ calls, call.Built) :
    (∀ c ∈ (run calls).cursors, c.Exact ∧ Cursor.atOffset c.source c.pos = .ok c) ∧
    ∀ (slot : Nat) (c : Cursor), (run calls).cursors[slot]? = some c →
      (∀ (α : Type) (action : Scan α) (d : Cursor), action.Visits ((run calls).session c) d →
        d.Exact ∧ Cursor.atOffset d.source d.pos = .ok d ∧
        d.source = c.source ∧ c.pos ≤ d.pos ∧ c.bytePos ≤ d.bytePos) ∧
      ∀ call : Call, call.Built → ∃ d, ((run calls).perform call).cursors[slot]? = some d ∧
        d.source = c.source ∧ c.pos ≤ d.pos ∧ c.bytePos ≤ d.bytePos := by
  have hexact := run_exact hcalls
  refine ⟨fun c hc => ⟨hexact c hc, Cursor.exact_iff_atOffset.1 (hexact c hc)⟩, ?_⟩
  intro slot c hc
  refine ⟨?_, ?_⟩
  · intro α action d hvisit
    have hreach : c.Reaches d := hvisit.reaches
    have hd := (hexact c (List.mem_of_getElem? hc)).reaches hreach
    exact ⟨hd, Cursor.exact_iff_atOffset.1 hd, hreach.monotone⟩
  · intro call hcall
    obtain ⟨d, hd, hreach⟩ := perform_reaches hcall hc
    exact ⟨d, hd, hreach.monotone⟩

/-- Calls of every sort on two cursors over one source; three of them fail. -/
def mixedCalls : List Call :=
  let source : Source := ⟨0, [.ofChar '1', .ofChar '€', ⟨0xD800, by decide⟩]⟩
  [.create source 0, .snapshot 0, .create source 4,
    .act 0 (extract Arithmetic.classify (fun _ => .ok Arithmetic.Kind.error) true),
    .act 1 (Scan.takeWhile fun _ c => if c.isDigit then .ok true else .error .noLength),
    .act 1 (Scan.consume 7), .act 1 (wrap Arithmetic.classify Arithmetic.errorKind),
    .act 0 Scan.bump, .act 0 (Scan.take [⟨0xD800, by decide⟩])]

/-- The first cursor of these calls has come to the end, and the second one has not moved. -/
theorem cursors_exact_mixed :
    (∀ c ∈ (run mixedCalls).cursors, c.Exact ∧ Cursor.atOffset c.source c.pos = .ok c) ∧
      (run mixedCalls).cursors.map (fun c => (c.pos, c.bytePos)) = [(3, 7), (0, 0)] := by
  have hcalls : ∀ call ∈ mixedCalls, call.Built := by
    simp only [mixedCalls, List.forall_mem_cons, List.not_mem_nil, false_implies, implies_true,
      and_true, Call.Built, true_and]
    exact ⟨.extract _ _ .arithmetic, .takeWhile _, .consume _, .wrap .arithmetic _, .bump, .take _⟩
  exact ⟨(cursors_exact mixedCalls hcalls).1, rfl⟩

end Desk

end Lexeme
