/-
# Rejections and faults

A classifier that does not like what it has consumed *rejects* it.  A rejection is recoverable:
the scanning core turns it into an ordinary token.  Everything else that can go wrong is a
*fault* that ends the operation: broken contracts, limits, unsuitable arguments, and whatever a
caller's own code raises.
-/
import Lexeme.Diagnostic.Format

namespace Lexeme

/-- What an error was made from. -/
inductive Detail where
  /-- A plain text. -/
  | text (t : Text)
  /-- A structured diagnostic. -/
  | diagnostic (d : Diagnostic)
deriving DecidableEq, Repr

namespace Detail

/-- The text that an error shows. -/
def message : Detail → Text
  | text t => t
  | diagnostic d => d.render

/-- The diagnostic that an error was made from. -/
def diagnostic? : Detail → Option Diagnostic
  | text _ => none
  | diagnostic d => some d

end Detail

/-- A recoverable error: a classifier rejects what it has consumed. -/
structure Rejection where
  /-- The name by which this sort of error goes. -/
  name : Text
  /-- The condition that the error stands for; the most general sort stands for none. -/
  condition : Option Condition
  /-- What the error was made from. -/
  detail : Detail
deriving DecidableEq, Repr

namespace Rejection

/-- Content that is not known. -/
def unexpectedInput (detail : Detail := .diagnostic .unexpectedInput) : Rejection :=
  ⟨Text.ofString "UnexpectedInput", some .unexpectedInput, detail⟩

/-- More input is needed than remains. -/
def unexpectedEnd (detail : Detail := .diagnostic (.unexpectedEnd none)) : Rejection :=
  ⟨Text.ofString "UnexpectedEndOfInput", some .unexpectedEnd, detail⟩

/-- The most general sort, which stands for no condition. -/
def general (detail : Detail) : Rejection :=
  ⟨Text.ofString "RecoverableScanError", none, detail⟩

end Rejection

/-- Sorts of errors that a caller's own code raises. -/
inductive Signal where
  /-- Something is wrong with a value. -/
  | value
  /-- A key is missing. -/
  | key
  /-- A sequence is to end. -/
  | stop
  /-- Anything else. -/
  | runtime
deriving DecidableEq, Repr

/-- Everything that can end an operation. -/
inductive Fault where
  /-- A rejection that nobody has turned into a token. -/
  | rejection (r : Rejection)
  /-- A precondition of the scanning core was broken. -/
  | contract (detail : Detail)
  /-- The source is longer than the limit. -/
  | tooLarge (detail : Detail)
  /-- An error of the most general sort. -/
  | general (detail : Detail)
  /-- Four integers are not a span. -/
  | invalidSpan (problem : SourceSpan.Problem)
  /-- A cursor cannot start outside its source. -/
  | outsideSource (position : Int) (length : Nat)
  /-- A limit cannot be negative. -/
  | negativeLimit (limit : Int)
  /-- No code has this number. -/
  | unknownCode (value : Int)
  /-- No code has this name. -/
  | unknownCodeName (name : Text)
  /-- No condition has this label. -/
  | unknownCondition (label : Text)
  /-- A kind of tokens does not say how it represents an error. -/
  | unsuitableErrorKind (name : Text)
  /-- The condition of an error is asked for, and it stands for none. -/
  | noCondition
  /-- The diagnostic of an error is asked for that cannot have one. -/
  | noDiagnostic
  /-- The length of something that has none is asked for. -/
  | noLength
  /-- A rejection without a default wording was made without one. -/
  | noWording
  /-- An argument of an unsuitable sort. -/
  | unsuitableArgument
  /-- A signal to stop came out of a classifier that was called at this offset. -/
  | leakedStop (offset : Nat)
  /-- Raised by a caller's own code. -/
  | raised (signal : Signal) (shown : Text)
  /-- A loop of a classifier program went on for longer than it is given. -/
  | loopBound
deriving DecidableEq, Repr

namespace Fault

/-- The wording of a fault, for those that have one. -/
def message : Fault → Option Text
  | rejection r => r.detail.message
  | contract detail | tooLarge detail | general detail => detail.message
  | invalidSpan problem => problem.message
  | outsideSource position length =>
    Text.ofString "Cursor position " ++ Numeral.ofInt position ++
      Text.ofString " outside source of length " ++ Numeral.ofInt length
  | negativeLimit limit =>
    Text.ofString "max_source_size must be >= 0, got " ++ Numeral.ofInt limit
  | unknownCode value => Numeral.ofInt value ++ Text.ofString " is not a valid DiagnosticCode"
  | unknownCondition label => label.quoted ++ Text.ofString " is not a valid ScanErrorKind"
  | unsuitableErrorKind name =>
    name ++ Text.ofString
      " does not implement from_scan_error(); pass error_kind=<callable> instead"
  | leakedStop offset =>
    Text.ofString "Classifier raised StopIteration at offset " ++ Numeral.ofInt offset
  | raised .key _ => none
  | raised _ shown => shown
  | unknownCodeName _ | noCondition | noDiagnostic | noLength | noWording | unsuitableArgument
  | loopBound => none

/-- The text that a fault shows when it is printed; it is empty for those without a wording. -/
def shown : Fault → Text
  | raised _ text => text
  | f => f.message.getD []

/-- What a fault was made from, for the faults of scanning. -/
def detail? : Fault → Option Detail
  | rejection r => some r.detail
  | contract detail | tooLarge detail | general detail => some detail
  | _ => none

/-- The diagnostic that a fault was made from, or none if it was made from plain text.  Only the
faults of scanning can be asked for it. -/
def diagnostic (f : Fault) : Except Fault (Option Diagnostic) :=
  match f.detail? with
  | some detail => .ok detail.diagnostic?
  | none => .error .noDiagnostic

/-- The condition that a fault stands for.  Only a rejection can stand for one. -/
def condition : Fault → Except Fault Condition
  | rejection ⟨_, some condition, _⟩ => .ok condition
  | _ => .error .noCondition

end Fault

/-- The span with the given fields, or the fault of their first problem. -/
def SourceSpan.check (start stop line column : Int) : Except Fault SourceSpan :=
  match ofInts start stop line column with
  | .ok span => .ok span
  | .error problem => .error (.invalidSpan problem)

end Lexeme
