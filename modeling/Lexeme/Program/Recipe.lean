/-
# Recipes for faults and outcomes

A program names the faults that it raises and the outcomes that it ends with by recipes.  A
recipe is followed when the program comes to it, and following it can itself fail: a diagnostic
may have an unknown code or a span that is none.
-/
import Lexeme.Program.Kind

namespace Lexeme.Program

/-- A diagnostic, field by field. -/
structure DiagnosticRecipe where
  /-- The name of the code. -/
  code : Text
  /-- The message. -/
  message : Text
  /-- Start, stop, line and column of the span. -/
  span : Option (Int × Int × Int × Int) := none
  /-- The hint. -/
  hint : Option Text := none
  /-- The severity. -/
  severity : Text := Text.ofString "error"
deriving DecidableEq, Repr

namespace DiagnosticRecipe

/-- The span of a diagnostic. -/
def buildSpan : Option (Int × Int × Int × Int) → Except Fault (Option SourceSpan)
  | none => .ok none
  | some (start, stop, line, column) =>
    (SourceSpan.check start stop line column).map some

/-- The diagnostic.  Its span is checked before its code. -/
def build (r : DiagnosticRecipe) : Except Fault Diagnostic := do
  let span ← buildSpan r.span
  match Code.ofName? r.code with
  | none => throw (.unknownCodeName r.code)
  | some code => return ⟨code, r.message, span, r.hint, r.severity⟩

end DiagnosticRecipe

/-- The sorts of faults that a program can raise. -/
inductive FaultSort where
  /-- The most general sort. -/
  | general
  /-- A rejection of the most general sort. -/
  | recoverable
  /-- A rejection of unknown content. -/
  | unexpectedInput
  /-- A rejection for want of input. -/
  | unexpectedEnd
  /-- A broken contract. -/
  | contract
  /-- A source that is too long. -/
  | tooLarge
  /-- A caller's own rejection for want of input. -/
  | customEnd
  /-- A caller's own rejection of unknown content, which could make an item of its own. -/
  | attaching
  /-- An error of the caller's own. -/
  | raised (signal : Signal)
deriving DecidableEq, Repr

/-- The name of a signal. -/
def signalName : Signal → Text
  | .value => Text.ofString "ValueError"
  | .key => Text.ofString "KeyError"
  | .stop => Text.ofString "StopIteration"
  | .runtime => Text.ofString "RuntimeError"

namespace FaultSort

/-- The word by which programs name a sort of faults. -/
def name : FaultSort → Text
  | general => Text.ofString "ScanError"
  | recoverable => Text.ofString "RecoverableScanError"
  | unexpectedInput => Text.ofString "UnexpectedInput"
  | unexpectedEnd => Text.ofString "UnexpectedEndOfInput"
  | contract => Text.ofString "ContractViolationError"
  | tooLarge => Text.ofString "SourceTooLargeError"
  | customEnd => Text.ofString "CustomEof"
  | attaching => Text.ofString "AttachingError"
  | raised signal => signalName signal

/-- All sorts of faults. -/
def all : List FaultSort :=
  [general, recoverable, unexpectedInput, unexpectedEnd, contract, tooLarge, customEnd, attaching,
    raised .value, raised .key, raised .stop, raised .runtime]

/-- The sort that a word names. -/
def ofName? (name : Text) : Option FaultSort :=
  all.find? fun sort => sort.name = name

theorem ofName?_name (sort : FaultSort) : ofName? sort.name = some sort := by
  cases sort with
  | raised signal => cases signal <;> decide
  | _ => decide

end FaultSort

/-- What a fault is made from. -/
inductive Argument where
  /-- Nothing at all. -/
  | missing
  /-- An explicit absence. -/
  | absent
  /-- A text. -/
  | text (t : Text)
  /-- A diagnostic. -/
  | diagnostic (r : DiagnosticRecipe)
deriving DecidableEq, Repr

/-- A recipe for a fault. -/
structure FaultRecipe where
  /-- The sort of the fault. -/
  sort : FaultSort
  /-- What it is made from. -/
  argument : Argument := .missing
deriving DecidableEq, Repr

namespace FaultRecipe

/-- The detail of a fault that cannot do without an argument. -/
def requiredDetail : Argument → Except Fault Detail
  | .missing => .error .unsuitableArgument
  | .absent => .ok (.text (Text.ofString "None"))
  | .text t => .ok (.text t)
  | .diagnostic r => r.build.map .diagnostic

/-- The detail of a rejection, which may have a wording to fall back on. -/
def detailOr (fallback : Except Fault Detail) : Argument → Except Fault Detail
  | .missing | .absent => fallback
  | .text t => .ok (.text t)
  | .diagnostic r => r.build.map .diagnostic

/-- What an error of the caller's own shows of its argument.  A missing key is shown in
quotes. -/
def shown (signal : Signal) : Argument → Except Fault Text
  | .missing => .ok []
  | .absent => .ok (Text.ofString "None")
  | .text t => .ok (if signal = .key then t.quoted else t)
  | .diagnostic r => r.build.map fun d => if signal = .key then d.describe else d.message

/-- A rejection of unknown content. -/
def inputRejection (argument : Argument) : Except Fault Rejection :=
  (detailOr (.ok (.diagnostic .unexpectedInput)) argument).map (.unexpectedInput ·)

/-- A rejection for want of input. -/
def endRejection (argument : Argument) : Except Fault Rejection :=
  (detailOr (.ok (.diagnostic (.unexpectedEnd none))) argument).map (.unexpectedEnd ·)

/-- The fault. -/
def build (r : FaultRecipe) : Except Fault Fault :=
  match r.sort with
  | .general => (requiredDetail r.argument).map .general
  | .contract => (requiredDetail r.argument).map .contract
  | .tooLarge => (requiredDetail r.argument).map .tooLarge
  | .recoverable => (detailOr (.error .noWording) r.argument).map (.rejection <| .general ·)
  | .unexpectedInput => (inputRejection r.argument).map .rejection
  | .unexpectedEnd => (endRejection r.argument).map .rejection
  | .customEnd => (endRejection r.argument).map fun x =>
      .rejection { x with name := FaultSort.customEnd.name }
  | .attaching => (inputRejection r.argument).map fun x =>
      .rejection { x with name := FaultSort.attaching.name }
  | .raised signal => (shown signal r.argument).map (.raised signal)

/-- The fault that ends a program which raises it. -/
def raised (r : FaultRecipe) : Fault :=
  match r.build with
  | .ok f | .error f => f

/-- The item that a rejection of this sort could make of its own. -/
def own (r : FaultRecipe) : Option (Attachment Kind) :=
  match r.sort with
  | .attaching => some fun stretch => .ok (some (.custom (.text (Text.ofString "never")) stretch))
  | _ => none

end FaultRecipe

/-- What a program ends with. -/
inductive Verdict where
  /-- A kind. -/
  | kind (k : Kind)
  /-- A pair of a style and the stretch. -/
  | highlight (style : Kind)
  /-- A pair of a style and the stretch, with its length changed. -/
  | shifted (style : Kind) (delta : Int)
  /-- Something that makes no item. -/
  | nothing
  /-- Something that fails when it is to make an item. -/
  | failing (r : FaultRecipe)
  /-- A fault that is returned and not raised. -/
  | fault (r : FaultRecipe)
  /-- The last consumption record. -/
  | last
deriving DecidableEq, Repr

namespace Verdict

/-- The stretch with its length changed. -/
def shift (d : Int) : Stretch → Stretch
  | .length n => .length (n + d)
  | .text t => .text t

/-- The outcome of a verdict, given the last consumption record.  Outside a program there is no
such record, and the absent kind stands for it. -/
def outcome (last : Option Consumed) : Verdict → Except Fault (Outcome Kind)
  | kind k => .ok (.kind k)
  | highlight style => .ok (.attaching fun stretch => .ok (some (.custom style stretch)))
  | shifted style d => .ok (.attaching fun stretch => .ok (some (.custom style (shift d stretch))))
  | nothing => .ok (.attaching fun _ => .ok none)
  | failing r => .ok (.attaching fun _ => .error r.raised)
  | fault r => r.build.map fun
    | .rejection x => .rejected x r.own
    | f => .kind (.fault f)
  | .last => .ok (.kind (last.elim .none .consumed))

/-- The kind that a verdict is when nothing is attached to it. -/
def asKind : Verdict → Except Fault Kind
  | kind k => .ok k
  | fault r => r.build.map .fault
  | highlight style | shifted style _ => .ok style
  | nothing | failing _ | last => .ok .none

end Verdict

/-- How rejections become kinds. -/
inductive Policy where
  /-- Marks, which tell rejected input from missing input. -/
  | marks
  /-- The arithmetic kind for rejected input. -/
  | arithmetic
  /-- The text that the rejection shows. -/
  | message
  /-- The diagnostic of the rejection. -/
  | diagnostic
  /-- The name of the rejection. -/
  | name
  /-- Always the same kind. -/
  | constant (v : Verdict)
  /-- The conversion fails. -/
  | raising (r : FaultRecipe)
  /-- A family of kinds that does not represent rejections. -/
  | plain (name : Text)
deriving DecidableEq, Repr

namespace Policy

/-- The mark of a condition. -/
def markOf : Condition → Mark
  | .unexpectedInput => .error
  | .unexpectedEnd => .endError

/-- The kind that a policy makes of a fault, given the name of the fault.  It is meant for
rejections, and can be asked about every fault. -/
def represent (name : Text) (f : Fault) : Policy → Except Fault Kind
  | marks => f.condition.map fun condition => .mark (markOf condition)
  | arithmetic => .ok (.arithmetic .error)
  | message => .ok (.text f.shown)
  | diagnostic => f.diagnostic.map fun
    | none => .none
    | some d => .diagnostic d
  | .name => .ok (.text name)
  | constant v => v.asKind
  | raising r => .error r.raised
  | plain family => .error (.unsuitableErrorKind family)

/-- The conversion of rejections by a policy. -/
def convert (p : Policy) : Conversion Kind := fun r =>
  p.represent r.name (.rejection r)

/-- The error kind of a policy. -/
def errorKind : Policy → ErrorKind Kind
  | p@marks | p@arithmetic => .family p.convert
  | plain family => .unsuitable family
  | p => .function p.convert

/-- What a policy makes of the fault of a recipe. -/
def representRecipe (p : Policy) (r : FaultRecipe) : Except Fault Kind := do
  p.represent r.sort.name (← r.build)

end Policy

end Lexeme.Program
