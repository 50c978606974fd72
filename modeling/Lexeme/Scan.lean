/-
# Scanning actions

A scanning action works on a session: a cursor, the trace so far, and the label that the next
new buffer gets.  An action may fail, and what it did to the session before it failed stays
done.  The actions of this module are the moves of a cursor; classifiers are built from them.
-/
import Lexeme.Cursor
import Lexeme.Trace

namespace Lexeme

/-- The state of a scan. -/
structure Session where
  /-- The cursor that is being moved. -/
  cursor : Cursor
  /-- What has been told so far. -/
  trace : Trace := {}
  /-- A label that no buffer has yet. -/
  nextLabel : Nat

namespace Session

/-- A session at the start of a source, which is the only buffer. -/
def start (source : Source) (trace : Trace := {}) : Session :=
  ⟨.start source, trace, source.label + 1⟩

/-- The session with its cursor moved. -/
def moveTo (s : Session) (c : Cursor) : Session :=
  { s with cursor := c }

/-- The session with an event told. -/
def record (s : Session) (e : Event) : Session :=
  { s with trace := s.trace.push e }

end Session

/-- An action on a session. -/
abbrev Scan := EStateM Fault Session

namespace Scan

variable {α : Type}

/-- One action after the other: a failure of the first one is the failure of both. -/
theorem bind_apply {β : Type} (act : Scan α) (next : α → Scan β) (s : Session) :
    (act >>= next) s =
      match act s with
      | .ok a s' => next a s'
      | .error f s' => .error f s' := by
  show EStateM.bind act next s = _
  delta EStateM.bind
  cases act s <;> rfl

/-- A result that was found without touching the session. -/
def ofExcept (result : Except Fault α) : Scan α := fun s =>
  match result with
  | .ok a => .ok a s
  | .error f => .error f s

/-- Look at the cursor. -/
def look (f : Cursor → α) : Scan α := fun s => .ok (f s.cursor) s

/-- Move the cursor. -/
def move (f : Cursor → α × Cursor) : Scan α := fun s =>
  match f s.cursor with
  | (a, c) => .ok a (s.moveTo c)

/-- Move the cursor, or fail and leave it.  Such a move writes to the cursor only after the last
point at which it can fail, so that a failure has changed nothing. -/
def tryMove (f : Cursor → Except Fault (α × Cursor)) : Scan α := fun s =>
  match f s.cursor with
  | .ok (a, c) => .ok a (s.moveTo c)
  | .error e => .error e s

/-- A copy of the cursor as it stands. -/
def snapshot : Scan Cursor := look id

/-- Whether no input remains. -/
def atEnd : Scan Bool := look Cursor.atEnd

/-- The next code point. -/
def peek : Scan CodePoint := fun s => ofExcept s.cursor.peek s

/-- One code point further on. -/
def bump : Scan Unit := tryMove fun c => (c.bump).map (Prod.mk ())

/-- Past a literal, if it comes next. -/
def take (literal : Text) : Scan Consumed := move (·.take literal)

/-- Past the longest run that a test accepts. -/
def takeWhile (test : CharTest) : Scan Consumed := tryMove (·.takeWhile test)

/-- Past the next `n` code points. -/
def consume (n : Int) : Scan Consumed := tryMove (·.consume n)

/-- How far the cursor is from an earlier one. -/
def distanceSince (previous : Cursor) : Scan Consumed := fun s =>
  ofExcept (s.cursor.distanceSince previous) s

/-- The text between an earlier cursor and this one. -/
def textSince (previous : Cursor) : Scan Text := fun s =>
  ofExcept (s.cursor.textSince previous) s

/-- Set the offset by hand. -/
def setPos (pos : Nat) : Scan Unit := move fun c => ((), c.setPos pos)

/-- Exchange the buffer for a new one with the given text. -/
def setSource (text : Text) : Scan Unit := fun s =>
  .ok () { s with
    cursor := s.cursor.setSource ⟨s.nextLabel, text⟩
    nextLabel := s.nextLabel + 1 }

/-- Tell an event. -/
def tell (e : Event) : Scan Unit := fun s => .ok () (s.record e)

/-- Run an action on a copy of the cursor: afterwards the cursor stands where it stood.  The action
is assumed to work on the copy only, and not on the cursor that was copied. -/
def onSnapshot (act : Scan α) : Scan α := fun s =>
  match act s with
  | .ok a s' => .ok a (s'.moveTo s.cursor)
  | .error f s' => .error f (s'.moveTo s.cursor)

end Scan

end Lexeme
