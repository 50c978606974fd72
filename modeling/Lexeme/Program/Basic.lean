/-
# Classifier programs

A small language for classifiers.  A program moves a cursor, remembers the last consumption
record, branches, loops, catches rejections, and ends with a verdict or a fault.  A program
that runs off its end gives the absent kind.

A program is a sequence: each constructor but the last ones of a sequence carries the program
that comes `next`.
-/
import Lexeme.Program.Recipe

namespace Lexeme

namespace Program

/-- Tests of code points. -/
inductive Pred where
  /-- Blanks. -/
  | blank
  /-- The digits `0` to `9`. -/
  | digit
  /-- Every code point. -/
  | any
  /-- No code point. -/
  | never
  /-- The code points of a text. -/
  | oneOf (t : Text)
  /-- All code points but those of a text. -/
  | noneOf (t : Text)
  /-- The code points from `low` to `high`. -/
  | range (low high : Int)
  /-- The first `n` code points that are tested. -/
  | first (n : Int)
  /-- Every code point; but a given one raises a fault. -/
  | failOn (t : Text) (r : FaultRecipe)
deriving DecidableEq, Repr

/-- The test of a predicate. -/
def Pred.test : Pred → CharTest
  | blank, _, c => .ok c.isBlank
  | digit, _, c => .ok c.isDigit
  | any, _, _ => .ok true
  | never, _, _ => .ok false
  | oneOf t, _, c => .ok (t.contains c)
  | noneOf t, _, c => .ok (!t.contains c)
  | range low high, _, c => .ok (low ≤ c.val && c.val ≤ high)
  | first n, asked, _ => .ok (asked < n)
  | failOn t r, _, c => if t = [c] then .error r.raised else .ok true

/-- Steps that do not branch. -/
inductive Step where
  /-- Look at the next code point, and forget it. -/
  | peek
  /-- One code point further on. -/
  | bump
  /-- Past a literal. -/
  | take (literal : Text)
  /-- Past the longest run. -/
  | takeWhile (p : Pred)
  /-- Past the next `n` code points. -/
  | consume (n : Int)
  /-- The last record must have at least `n` code points. -/
  | atLeast (n : Int)
  /-- The last record must have at most `n` code points. -/
  | atMost (n : Int)
  /-- Past a literal; its record is added to the last one. -/
  | addTake (literal : Text)
  /-- Past the longest run; its record is added to the last one. -/
  | addTakeWhile (p : Pred)
  /-- The record of everything since the start of the program. -/
  | sinceStart
  /-- Set the offset of the cursor by hand. -/
  | setPos (pos : Nat)
  /-- Exchange the buffer of the cursor. -/
  | setSource (text : Text)
deriving DecidableEq, Repr

end Program

/-- Classifier programs. -/
inductive Program where
  /-- The program is at its end. -/
  | done
  /-- The arithmetic classifier. -/
  | arithmetic
  /-- End with a verdict. -/
  | give (v : Program.Verdict)
  /-- End with a fault. -/
  | raise (r : Program.FaultRecipe)
  /-- A step. -/
  | step (s : Program.Step) (next : Program)
  /-- Branch on the next code point. -/
  | ifNext (p : Program.Pred) (yes no next : Program)
  /-- Branch on whether a literal was consumed. -/
  | ifTake (literal : Text) (yes no next : Program)
  /-- Branch on whether the last record is of anything. -/
  | ifAny (yes no next : Program)
  /-- Branch on whether no input remains. -/
  | ifEnd (yes no next : Program)
  /-- Go on while a test accepts the next code point. -/
  | whileNext (p : Program.Pred) (body next : Program)
  /-- Go on for a number of rounds. -/
  | rounds (n : Nat) (body next : Program)
  /-- Catch a rejection. -/
  | attempt (body handler next : Program)
  /-- Measure an item with another program, and move past it. -/
  | wrapConsume (inner : Program) (policy : Program.Policy) (next : Program)
deriving DecidableEq, Repr

end Lexeme
