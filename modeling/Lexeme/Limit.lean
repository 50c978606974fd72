/-
# Limits on the source

Sources are refused before any scanning when they are longer than a limit.  The limit zero
refuses nothing.
-/
import Lexeme.Fault
import Lexeme.Trace

namespace Lexeme

/-- The greatest number of code points of a source; zero stands for no limit. -/
structure Limit where
  /-- The number of code points. -/
  max : Nat := 10 * 1024 * 1024
deriving DecidableEq, Repr

namespace Limit

/-- The limit with a given number.  To limit nothing is worth telling. -/
def create (max : Int) (trace : Trace) : Except Fault (Limit × Trace) :=
  if max < 0 then .error (.negativeLimit max)
  else if max = 0 then .ok (⟨0⟩, trace.push .unlimited)
  else .ok (⟨max.toNat⟩, trace)

/-- Refuse a source that is too long. -/
def check (limit : Limit) (text : Text) : Except Fault Unit :=
  if 0 < limit.max ∧ limit.max < text.length then
    .error (.tooLarge (.diagnostic (.sourceTooLarge text.length limit.max)))
  else .ok ()

end Limit

end Lexeme
