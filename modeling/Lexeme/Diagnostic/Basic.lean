/-
# Diagnostics

A diagnostic says what went wrong, where, and what may help.  Every diagnostic that the library
itself makes is worded here.
-/
import Lexeme.Diagnostic.Code
import Lexeme.Diagnostic.Span
import Lexeme.Text.Quoted

namespace Lexeme

/-- A structured message. -/
structure Diagnostic where
  /-- What kind of problem it is. -/
  code : Code
  /-- The description of the problem. -/
  message : Text
  /-- The place in the source, where one applies. -/
  span : Option SourceSpan := none
  /-- A suggestion how to mend the problem. -/
  hint : Option Text := none
  /-- How grave the problem is: `error`, `warning`, or a word of the caller's own. -/
  severity : Text := Text.ofString "error"
deriving DecidableEq, Repr

/-- The number of code points of the remaining input that a message quotes. -/
def previewLength : Nat := 20

namespace Diagnostic

/-! ## Rejected input -/

/-- A classifier rejected what it consumed. -/
def unexpectedInput : Diagnostic where
  code := .unexpectedInput
  message := Text.ofString "Unexpected input"

/-- A consumption record is outside a bound. -/
def boundNotMet (bound : Text) (expected actual : Int) : Diagnostic where
  code := .unexpectedInput
  message := Text.ofString "Unexpected input: expected " ++ bound ++ Text.ofString " " ++
    Numeral.ofInt expected ++ Text.ofString " character(s), consumed " ++ Numeral.ofInt actual

/-- A classifier needed more input than remained, perhaps at a known offset. -/
def unexpectedEnd (position : Option Int) : Diagnostic where
  code := .unexpectedEnd
  message := match position with
    | none => Text.ofString "Unexpected end of input"
    | some p => Text.ofString "Unexpected end of input at position " ++ Numeral.ofInt p

/-! ## Broken contracts -/

/-- A move by one code point was asked for at the end of input. -/
def bumpPastEnd (span : Option SourceSpan) : Diagnostic where
  code := .bumpPastEnd
  message := Text.ofString "Bumped past end of input"
  span := span
  hint := Text.ofString
    "Call peek() before bump(); peek() raises UnexpectedEndOfInput at the end"

/-- Two cursors over different buffers were compared. -/
def foreignCursor : Diagnostic where
  code := .foreignCursor
  message := Text.ofString "Cursors do not originate from the same source"
  hint := Text.ofString "Only compare a cursor with an earlier snapshot of itself"

/-- A cursor was compared with one that is ahead of it. -/
def outOfOrder (previous current : Int) : Diagnostic where
  code := .outOfOrder
  message := Text.ofString "Previous cursor (position " ++ Numeral.ofInt previous ++
    Text.ofString ") is ahead of current cursor (position " ++ Numeral.ofInt current ++
    Text.ofString ")"
  hint := Text.ofString
    "Cursor positions never decrease; pass the older snapshot as 'previous'"

/-- A classifier finished without moving; `preview` is the start of what remains. -/
def noProgress (span : Option SourceSpan) (preview : Text) : Diagnostic where
  code := .noProgress
  message := Text.ofString "Classifier consumed nothing before " ++ preview.quoted ++
    Text.ofString "; this would loop forever"
  span := span
  hint := Text.ofString
    "Every classifier branch must advance the cursor, e.g. bump() in the fallback branch"

/-- The length of a token runs past the end of the text that is being cut. -/
def sliceOutOfBounds (offset length size : Int) : Diagnostic where
  code := .sliceOutOfBounds
  message := Text.ofString "Token of length " ++ Numeral.ofInt length ++
    Text.ofString " at offset " ++ Numeral.ofInt offset ++
    Text.ofString " runs past end of source (length " ++ Numeral.ofInt size ++ Text.ofString ")"
  hint := Text.ofString "Slice the same source the tokens were scanned from"

/-- A move by more code points than remain was asked for. -/
def consumePastEnd (span : Option SourceSpan) (length remaining : Int) : Diagnostic where
  code := .consumePastEnd
  message := Text.ofString "Cannot consume " ++ Numeral.ofInt length ++
    Text.ofString " character(s), only " ++ Numeral.ofInt remaining ++ Text.ofString " remaining"
  span := span

/-! ## Limits on the input -/

/-- The source is longer than the limit. -/
def sourceTooLarge (size limit : Int) : Diagnostic where
  code := .sourceTooLarge
  message := Text.ofString "Source size (" ++ Numeral.groupedInt size ++
    Text.ofString " characters) exceeds maximum (" ++ Numeral.groupedInt limit ++
    Text.ofString " characters)"
  hint := Text.ofString "Configure max_source_size in ScanConfig to increase the limit"

/-! ## A description of all fields -/

/-- All fields of a diagnostic on one line, with its texts in quotes. -/
def describe (d : Diagnostic) : Text :=
  let field (name : String) (value : Text) : Text := Text.ofString name ++ value
  let number (n : Nat) : Text := Numeral.ofInt n
  let span := match d.span with
    | none => Text.ofString "None"
    | some s => field "SourceSpan(start=" (number s.start) ++ field ", end=" (number s.stop) ++
        field ", line=" (number s.line) ++ field ", column=" (number s.column) ++ Text.ofString ")"
  let hint := match d.hint with
    | none => Text.ofString "None"
    | some h => h.quoted
  field "Diagnostic(code=<DiagnosticCode." d.code.name ++ field ": " (number d.code.value) ++
    field ">, message=" d.message.quoted ++ field ", span=" span ++ field ", hint=" hint ++
    field ", severity=" d.severity.quoted ++ Text.ofString ")"

end Diagnostic

end Lexeme
