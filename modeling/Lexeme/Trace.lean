/-
# Traces

What the library tells about its work while it works: events, in the order in which they come.
-/
import Lexeme.Diagnostic.Code
import Lexeme.Text.Numeral

namespace Lexeme

/-- Something worth telling. -/
inductive Event where
  /-- A limit was made that limits nothing. -/
  | unlimited
  /-- A stream was opened over a source with this many code points. -/
  | started (size : Nat)
  /-- A stream came to the end of its source after this many items. -/
  | exhausted (count : Nat)
  /-- A rejection of the `chars` code points from `offset` on is about to become an item. -/
  | recovered (condition : Condition) (offset : Nat) (chars : Int)
deriving DecidableEq, Repr

/-- The wording of an event. -/
def Event.message : Event → Text
  | unlimited =>
    Text.ofString "ScanConfig created with max_source_size=0: source size limit disabled"
  | started size =>
    Text.ofString "Token stream started over " ++ Numeral.decimal size ++
      Text.ofString " characters"
  | exhausted count =>
    Text.ofString "Token stream exhausted after " ++ Numeral.decimal count ++
      Text.ofString " tokens"
  | recovered condition offset chars =>
    Text.ofString "Recoverable " ++ condition.label ++ Text.ofString " at offset " ++
      Numeral.decimal offset ++ Text.ofString " (" ++ Numeral.ofInt chars ++
      Text.ofString " chars) converted to token"

/-- What has been told. -/
structure Trace where
  /-- The events, the latest one first, so that telling one more is cheap. -/
  latestFirst : List Event := []
deriving DecidableEq, Repr

namespace Trace

/-- Tell one more event. -/
def push (trace : Trace) (e : Event) : Trace :=
  ⟨e :: trace.latestFirst⟩

/-- The events in the order in which they were told. -/
def toList (trace : Trace) : List Event :=
  trace.latestFirst.reverse

/-- One trace after the other. -/
def append (first second : Trace) : Trace :=
  ⟨second.latestFirst ++ first.latestFirst⟩

@[simp] theorem toList_empty : ({} : Trace).toList = [] := rfl

@[simp] theorem toList_push (trace : Trace) (e : Event) :
    (trace.push e).toList = trace.toList ++ [e] := by
  simp [push, toList]

end Trace

end Lexeme
