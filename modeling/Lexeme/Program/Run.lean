/-
# Running classifier programs

A program runs on a session and its last consumption record.  What it did before it fails stays
done.  Loops on the next code point are given a bound on their rounds, so that every run ends.
-/
import Lexeme.Extract
import Lexeme.Program.Basic

namespace Lexeme.Program

/-- The state of a program that runs. -/
structure State where
  /-- The session that is being scanned. -/
  session : Session
  /-- The last consumption record. -/
  last : Consumed

/-- An action of a program. -/
abbrev Exec := EStateM Fault State

/-- What a part of a program gives: an outcome that ends the program, or nothing. -/
abbrev Block := Exec (Option (Outcome Kind))

namespace Exec

variable {α : Type}

/-- A scanning action of a program. -/
def scan (act : Scan α) : Exec α := fun st =>
  match act st.session with
  | .ok a s => .ok a { st with session := s }
  | .error f s => .error f { st with session := s }

/-- A result that was found without touching the state. -/
def ofExcept (result : Except Fault α) : Exec α := fun st =>
  match result with
  | .ok a => .ok a st
  | .error f => .error f st

/-- The last record. -/
def last : Exec Consumed := fun st => .ok st.last st

/-- Remember a record. -/
def remember (r : Consumed) : Exec Unit := fun st => .ok () { st with last := r }

/-- Whether a test accepts the next code point. -/
def nextIs (p : Pred) : Exec Bool := do
  let c ← scan Scan.peek
  ofExcept (p.test 0 c)

end Exec

namespace Block

/-- The next part, unless this one ends the program. -/
def andThen (part next : Block) : Block := fun st =>
  match part st with
  | .ok (some outcome) st' => .ok (some outcome) st'
  | .ok none st' => next st'
  | .error f st' => .error f st'

/-- A part, for as long as a test holds. -/
def loop (test : Exec Bool) (body : Block) : (bound : Nat) → Block
  | 0 => throw .loopBound
  | bound + 1 => do
    if ← test then andThen body (loop test body bound) else pure none

/-- A part, several times. -/
def rounds (body : Block) : (n : Nat) → Block
  | 0 => pure none
  | n + 1 => andThen body (rounds body n)

/-- A part, with another one in case of a rejection. -/
def attempt (body handler : Block) : Block := fun st =>
  match body st with
  | .ok outcome st' => .ok outcome st'
  | .error (.rejection _) st' => handler st'
  | .error f st' => .error f st'

/-- A part as a classifier: it starts with the empty record, and gives the absent kind where it
gives no outcome. -/
def classifier (part : Cursor → Block) : Classifier Kind := fun s =>
  match part s.cursor ⟨s, .zero⟩ with
  | .ok (some outcome) st => .ok outcome st.session
  | .ok none st => .ok (.kind .none) st.session
  | .error f st => .error f st.session

end Block

open Exec

/-- The effect of a step; `start` is where the program started. -/
def Step.exec (start : Cursor) : Step → Exec Unit
  | peek => do
    let _ ← scan Scan.peek
  | bump => scan Scan.bump
  | take literal => do remember (← scan (Scan.take literal))
  | takeWhile p => do remember (← scan (Scan.takeWhile p.test))
  | consume n => do remember (← scan (Scan.consume n))
  | atLeast n => do
    let r ← last
    let _ ← Exec.ofExcept (r.atLeast n)
  | atMost n => do
    let r ← last
    let _ ← Exec.ofExcept (r.atMost n)
  | addTake literal => do
    let r ← scan (Scan.take literal)
    remember ((← last) + r)
  | addTakeWhile p => do
    let r ← scan (Scan.takeWhile p.test)
    remember ((← last) + r)
  | sinceStart => do remember (← scan (Scan.distanceSince start))
  | setPos pos => scan (Scan.setPos pos)
  | setSource text => scan (Scan.setSource text)

/-- The effect of a program; `start` is where it started.  Each loop on the next code point gets
at most `bound` rounds. -/
def exec (bound : Nat) : Program → (start : Cursor) → Block
  | .done, _ => pure none
  | .arithmetic, _ => do
    let outcome ← scan Arithmetic.classify
    pure (some (outcome.map .arithmetic))
  | .give v, _ => do
    let outcome ← Exec.ofExcept (v.outcome (some (← last)))
    pure (some outcome)
  | .raise r, _ => throw r.raised
  | .step s next, start => do
    s.exec start
    exec bound next start
  | .ifNext p yes no next, start => do
    let test ← nextIs p
    Block.andThen (if test then exec bound yes start else exec bound no start)
      (exec bound next start)
  | .ifTake literal yes no next, start => do
    let r ← scan (Scan.take literal)
    remember r
    Block.andThen (if r.any then exec bound yes start else exec bound no start)
      (exec bound next start)
  | .ifAny yes no next, start => do
    let r ← last
    Block.andThen (if r.any then exec bound yes start else exec bound no start)
      (exec bound next start)
  | .ifEnd yes no next, start => do
    let test ← scan Scan.atEnd
    Block.andThen (if test then exec bound yes start else exec bound no start)
      (exec bound next start)
  | .whileNext p body next, start =>
    Block.andThen (Block.loop (nextIs p) (exec bound body start) bound) (exec bound next start)
  | .rounds n body next, start =>
    Block.andThen (Block.rounds (exec bound body start) n) (exec bound next start)
  | .attempt body handler next, start =>
    Block.andThen (Block.attempt (exec bound body start) (exec bound handler start))
      (exec bound next start)
  | .wrapConsume inner policy next, start => do
    let result ← scan (Lexeme.wrapConsume (Block.classifier (exec bound inner)) policy.errorKind)
    remember (match result with
      | none => .zero
      | some (_, r) => r)
    exec bound next start

/-- The number of rounds that a loop is given where nothing else is asked for. -/
def patience : Nat := 1099511627776

/-- The classifier that a program describes. -/
def classifier (p : Program) (bound : Nat := patience) : Classifier Kind :=
  Block.classifier (exec bound p)

end Lexeme.Program
