/-
# Windows

A window shows the end of a source as a source of its own.  A cursor in the whole source and one in
the window that stand before the same code point see the same text, and every operation that looks
forward does the same with them: both offsets stay apart by what the window leaves out.  Only the
wording of a failure can tell where the cursor stood, so failures are compared by their sort and by
the code of their diagnostic, `Fault.Alike`.

`InTandem` says of two actions that they do the same from related states: they give equal values or
fail alike, and leave related states behind.  This module has the operations of cursors and the ways
to put actions together.
-/
import Lexeme.Proofs.Actions

namespace Lexeme

/-! ## Faults up to their wording -/

/-- The code of the diagnostic that an error was made from. -/
def Detail.code? (detail : Detail) : Option Code :=
  detail.diagnostic?.map Diagnostic.code

/-- Rejections of the same sort, with diagnostics of the same code. -/
structure Rejection.Alike (r r' : Rejection) : Prop where
  name_eq : r.name = r'.name
  condition_eq : r.condition = r'.condition
  code_eq : r.detail.code? = r'.detail.code?

/-- Faults of the same sort, with diagnostics of the same code. -/
inductive Fault.Alike : Fault → Fault → Prop
  | rejection {r r' : Rejection} (h : r.Alike r') : Alike (.rejection r) (.rejection r')
  | contract {d d' : Detail} (h : d.code? = d'.code?) : Alike (.contract d) (.contract d')
  | same (f : Fault) : Alike f f

/-! ## Actions in tandem -/

section Tandem

variable {σ α β : Type} {S : σ → σ → Prop}

/-- Two results with the same value, or with faults that are alike, and with related states. -/
inductive Agree (S : σ → σ → Prop) :
    EStateM.Result Fault σ α → EStateM.Result Fault σ α → Prop
  | ok (a : α) {s s' : σ} (h : S s s') : Agree S (.ok a s) (.ok a s')
  | error {f f' : Fault} {s s' : σ} (hf : f.Alike f') (h : S s s') :
      Agree S (.error f s) (.error f' s')

/-- Two actions that do the same from related states. -/
def InTandem (S : σ → σ → Prop) (act act' : EStateM Fault σ α) : Prop :=
  ∀ s s', S s s' → Agree S (act s) (act' s')

namespace InTandem

variable {act act' : EStateM Fault σ α} {next next' : α → EStateM Fault σ β}

lemma pure (a : α) : InTandem S (Pure.pure a : EStateM Fault σ α) (Pure.pure a) :=
  fun _ _ h => .ok a h

lemma fail (f : Fault) : InTandem S (throw f : EStateM Fault σ α) (throw f) :=
  fun _ _ h => .error (.same f) h

lemma bind (hact : InTandem S act act') (hnext : ∀ a, InTandem S (next a) (next' a)) :
    InTandem S (act >>= next) (act' >>= next') := by
  intro s s' h
  have hfirst := hact s s' h
  show Agree S (EStateM.bind act next s) (EStateM.bind act' next' s')
  delta EStateM.bind
  generalize act s = r at hfirst ⊢
  generalize act' s' = r' at hfirst ⊢
  cases hfirst with
  | ok a h₁ => exact hnext a _ _ h₁
  | error hf h₁ => exact .error hf h₁

end InTandem

end Tandem

/-! ## Windows and cursors -/

/-- The end of a source, from `offset` on, as a source of its own.  The octets that are left out
are those that a cursor in the whole source has counted more. -/
structure Window where
  /-- The whole source. -/
  whole : Source
  /-- The source that shows its end. -/
  part : Source
  /-- The number of code points that are left out. -/
  offset : Nat
  /-- The number of octets that are left out. -/
  octets : Nat
  offset_le : offset ≤ whole.text.length
  text_eq : part.text = whole.text.drop offset

namespace Window

variable {w : Window} {c d start start' : Cursor} {α β : Type}

/-- A cursor in the whole source and one in the window, at the same place. -/
structure Shows (w : Window) (c d : Cursor) : Prop where
  whole_eq : c.source = w.whole
  part_eq : d.source = w.part
  pos_eq : c.pos = w.offset + d.pos
  bytePos_eq : c.bytePos = w.octets + d.bytePos

namespace Shows

lemma rest_eq (h : w.Shows c d) : c.rest = d.rest := by
  rw [c.rest_eq, d.rest_eq, h.whole_eq, h.part_eq, h.pos_eq, w.text_eq, List.drop_drop]

lemma remaining_eq (h : w.Shows c d) : c.remaining = d.remaining := by
  have hlen := congrArg List.length w.text_eq
  have hle := w.offset_le
  have hpos := h.pos_eq
  rw [List.length_drop] at hlen
  rw [Cursor.remaining, Cursor.remaining, h.whole_eq, h.part_eq]
  omega

lemma atEnd_eq (h : w.Shows c d) : c.atEnd = d.atEnd := by
  rw [Cursor.atEnd, Cursor.atEnd, h.rest_eq]

lemma advance (h : w.Shows c d) (n width : Nat) :
    w.Shows (c.advance n width) (d.advance n width) := by
  have hpos := h.pos_eq
  have hbytes := h.bytePos_eq
  refine ⟨h.whole_eq, h.part_eq, ?_, ?_⟩
  · rw [Cursor.advance_pos, Cursor.advance_pos]
    omega
  · rw [Cursor.advance_bytePos, Cursor.advance_bytePos]
    omega

/-- A cursor is behind another one in the window exactly if it is in the whole source. -/
lemma follows (h : w.Shows c d) (hstart : w.Shows start start') :
    (c.follows start = .ok () ∧ d.follows start' = .ok ()) ∨
      ∃ f f', c.follows start = .error f ∧ d.follows start' = .error f' ∧ f.Alike f' := by
  have hpos := h.pos_eq
  have hpos' := hstart.pos_eq
  simp only [Cursor.follows, h.whole_eq, h.part_eq, hstart.whole_eq, hstart.part_eq, ne_eq,
    not_true_eq_false, if_false]
  by_cases hlt : d.pos < start'.pos
  · rw [if_pos hlt, if_pos (by omega)]
    exact Or.inr ⟨_, _, rfl, rfl, .contract rfl⟩
  · rw [if_neg hlt, if_neg (by omega)]
    exact Or.inl ⟨rfl, rfl⟩

lemma distance_eq (h : w.Shows c d) (hstart : w.Shows start start') :
    (⟨c.pos - start.pos, c.bytePos - start.bytePos⟩ : Consumed) =
      ⟨d.pos - start'.pos, d.bytePos - start'.bytePos⟩ := by
  have hpos := h.pos_eq
  have hpos' := hstart.pos_eq
  have hbytes := h.bytePos_eq
  have hbytes' := hstart.bytePos_eq
  ext
  · show (c.pos : Int) - start.pos = d.pos - start'.pos
    omega
  · show (c.bytePos : Int) - start.bytePos = d.bytePos - start'.bytePos
    omega

end Shows

/-! ## The operations of cursors -/

/-- Sessions in the whole source and in the window, at the same place. -/
def Sessions (w : Window) (s s' : Session) : Prop :=
  w.Shows s.cursor s'.cursor

lemma peek (w : Window) : InTandem w.Sessions Scan.peek Scan.peek := by
  intro s s' h
  simp only [Scan.peek, Cursor.peek, Shows.rest_eq h]
  rcases s'.cursor.rest with _ | ⟨x, rest⟩
  · exact .error (.rejection ⟨rfl, rfl, rfl⟩) h
  · exact .ok x h

lemma bump (w : Window) : InTandem w.Sessions Scan.bump Scan.bump := by
  intro s s' h
  simp only [Scan.bump, Scan.tryMove, Cursor.bump, Shows.rest_eq h, Cursor.contract_eq]
  rcases s'.cursor.rest with _ | ⟨x, rest⟩
  · exact .error (.contract rfl) h
  · exact .ok () (h.advance 1 x.width)

lemma take (w : Window) (literal : Text) :
    InTandem w.Sessions (Scan.take literal) (Scan.take literal) := by
  intro s s' h
  simp only [Scan.take, Scan.move, Cursor.take, Shows.rest_eq h]
  by_cases hmatch : (!literal.isEmpty && literal.isPrefixOf s'.cursor.rest) = true
  · rw [if_pos hmatch, if_pos hmatch]
    exact .ok _ (h.advance _ _)
  · rw [if_neg hmatch, if_neg hmatch]
    exact .ok _ h

lemma takeWhile (w : Window) (test : CharTest) :
    InTandem w.Sessions (Scan.takeWhile test) (Scan.takeWhile test) := by
  intro s s' h
  simp only [Scan.takeWhile, Scan.tryMove, Cursor.takeWhile, Shows.rest_eq h]
  rcases test.measure 0 0 s'.cursor.rest with f | ⟨length, width⟩
  · exact .error (.same f) h
  · exact .ok _ (h.advance length width)

lemma consume (w : Window) (n : Int) :
    InTandem w.Sessions (Scan.consume n) (Scan.consume n) := by
  intro s s' h
  simp only [Scan.consume, Scan.tryMove, Cursor.consume, Shows.rest_eq h, Shows.remaining_eq h,
    Cursor.contract_eq]
  by_cases hfit : n < 0 ∨ s'.cursor.remaining < n
  · rw [if_pos hfit, if_pos hfit]
    exact .error (.contract rfl) h
  · rw [if_neg hfit, if_neg hfit]
    exact .ok _ (h.advance _ _)

/-- Looking at what remains. -/
lemma ahead (w : Window) (g : Text → α) :
    InTandem w.Sessions (Scan.look fun c => g c.rest) (Scan.look fun c => g c.rest) := by
  intro s s' h
  simp only [Scan.look, Shows.rest_eq h]
  exact .ok _ h

lemma distanceSince (hstart : w.Shows start start') :
    InTandem w.Sessions (Scan.distanceSince start) (Scan.distanceSince start') := by
  intro s s' h
  rcases Shows.follows h hstart with ⟨hc, hd⟩ | ⟨f, f', hc, hd, hf⟩
  · have hsame := Shows.distance_eq h hstart
    simp only [Scan.distanceSince, Cursor.distanceSince_of_follows hc,
      Cursor.distanceSince_of_follows hd, hsame]
    exact .ok _ h
  · simp only [Scan.distanceSince, Cursor.distanceSince, hc, hd]
    exact .error hf h

lemma textSince (hstart : w.Shows start start') :
    InTandem w.Sessions (Scan.textSince start) (Scan.textSince start') := by
  intro s s' h
  rcases Shows.follows h hstart with ⟨hc, hd⟩ | ⟨f, f', hc, hd, hf⟩
  · have hlength : s.cursor.pos - start.pos = s'.cursor.pos - start'.pos := by
      have hpos := h.pos_eq
      have hpos' := hstart.pos_eq
      omega
    simp only [Scan.textSince, Cursor.textSince_of_follows hc, Cursor.textSince_of_follows hd,
      hstart.rest_eq, hlength]
    exact .ok _ h
  · simp only [Scan.textSince, Cursor.textSince, hc, hd]
    exact .error hf h

end Window

end Lexeme
