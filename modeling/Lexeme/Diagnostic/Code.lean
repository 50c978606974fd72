/-
# Diagnostic codes and recoverable conditions

Every diagnostic carries a code with a name and a number.  The thousands of the number tell the
category: 1 for a rejected piece of input, 2 for a broken contract between the scanning core and
its callers, 3 for a limit on the input.
-/
import Lexeme.Text.CodePoint

namespace Lexeme

/-- The codes of diagnostics. -/
inductive Code where
  /-- A classifier met content that it does not know. -/
  | unexpectedInput
  /-- A classifier needed more input than remained. -/
  | unexpectedEnd
  /-- A move by one code point was asked for at the end of input. -/
  | bumpPastEnd
  /-- Two cursors over different buffers were compared. -/
  | foreignCursor
  /-- A later cursor was passed for an earlier one. -/
  | outOfOrder
  /-- A classifier finished without moving. -/
  | noProgress
  /-- The length of a token runs past the end of the text that is being cut. -/
  | sliceOutOfBounds
  /-- A move by more code points than remain was asked for. -/
  | consumePastEnd
  /-- The source is longer than the limit. -/
  | sourceTooLarge
deriving DecidableEq, Repr

namespace Code

/-- All codes, by increasing number. -/
def all : List Code :=
  [unexpectedInput, unexpectedEnd, bumpPastEnd, foreignCursor, outOfOrder, noProgress,
    sliceOutOfBounds, consumePastEnd, sourceTooLarge]

/-- The name of a code, as it stands in a formatted diagnostic. -/
def name : Code → Text
  | unexpectedInput => Text.ofString "UNEXPECTED_INPUT"
  | unexpectedEnd => Text.ofString "UNEXPECTED_EOF"
  | bumpPastEnd => Text.ofString "BUMP_PAST_EOF"
  | foreignCursor => Text.ofString "FOREIGN_CURSOR"
  | outOfOrder => Text.ofString "CURSOR_OUT_OF_ORDER"
  | noProgress => Text.ofString "NO_PROGRESS"
  | sliceOutOfBounds => Text.ofString "SLICE_OUT_OF_BOUNDS"
  | consumePastEnd => Text.ofString "CONSUME_PAST_EOF"
  | sourceTooLarge => Text.ofString "SOURCE_TOO_LARGE"

/-- The number of a code. -/
def value : Code → Nat
  | unexpectedInput => 1001
  | unexpectedEnd => 1002
  | bumpPastEnd => 2001
  | foreignCursor => 2002
  | outOfOrder => 2003
  | noProgress => 2004
  | sliceOutOfBounds => 2005
  | consumePastEnd => 2006
  | sourceTooLarge => 3001

/-- The code with the given name. -/
def ofName? (name : Text) : Option Code :=
  all.find? fun code => code.name = name

/-- The code with the given number. -/
def ofValue? (value : Int) : Option Code :=
  all.find? fun code => code.value = value

theorem mem_all (code : Code) : code ∈ all := by
  cases code <;> decide

theorem ofName?_name (code : Code) : ofName? code.name = some code := by
  cases code <;> decide

theorem ofValue?_value (code : Code) : ofValue? code.value = some code := by
  cases code <;> decide

theorem name_injective {a b : Code} (h : a.name = b.name) : a = b := by
  have ha := ofName?_name a
  rw [h, ofName?_name b] at ha
  exact (Option.some.inj ha).symm

end Code

/-- The two conditions for which a classifier may reject what it has consumed. -/
inductive Condition where
  /-- The content is not known. -/
  | unexpectedInput
  /-- More input is needed than remains. -/
  | unexpectedEnd
deriving DecidableEq, Repr

namespace Condition

/-- Both conditions. -/
def all : List Condition :=
  [unexpectedInput, unexpectedEnd]

/-- The name of a condition in a list of constants. -/
def name : Condition → Text
  | unexpectedInput => Text.ofString "UNEXPECTED_INPUT"
  | unexpectedEnd => Text.ofString "UNEXPECTED_EOF"

/-- The label of a condition in a trace. -/
def label : Condition → Text
  | unexpectedInput => Text.ofString "unexpected-input"
  | unexpectedEnd => Text.ofString "unexpected-eof"

/-- The condition with the given label. -/
def ofLabel? (label : Text) : Option Condition :=
  all.find? fun condition => condition.label = label

theorem ofLabel?_label (condition : Condition) :
    ofLabel? condition.label = some condition := by
  cases condition <;> decide

end Condition

end Lexeme
