/-
# Formatted diagnostics

A formatter turns diagnostics into text for a terminal or a log, in one of three layouts.  The
contents of a diagnostic are foreign text, so in every layout line breaks, tabs and the escape
character in them are written as escapes; a sanitizing formatter also cuts them to a length.
-/
import Lexeme.Diagnostic.Basic
import Lexeme.Diagnostic.Json

namespace Lexeme

/-- The layouts of a formatted diagnostic. -/
inductive Layout where
  /-- Several lines in the manner of compilers: head, place, help. -/
  | rust
  /-- One line: code and message. -/
  | simple
  /-- One JSON object. -/
  | json
deriving DecidableEq, Repr

namespace Layout

/-- All layouts. -/
def all : List Layout :=
  [rust, simple, json]

/-- The name of a layout in a list of constants. -/
def name : Layout → Text
  | rust => Text.ofString "RUST"
  | simple => Text.ofString "SIMPLE"
  | json => Text.ofString "JSON"

/-- The word by which a layout is chosen. -/
def label : Layout → Text
  | rust => Text.ofString "rust"
  | simple => Text.ofString "simple"
  | json => Text.ofString "json"

/-- The layout chosen by a word. -/
def ofLabel? (label : Text) : Option Layout :=
  all.find? fun layout => layout.label = label

theorem ofLabel?_label (layout : Layout) : ofLabel? layout.label = some layout := by
  cases layout <;> decide

end Layout

/-- How diagnostics are written. -/
structure Formatter where
  /-- The layout; without one nothing can be written. -/
  layout : Option Layout := some .rust
  /-- Whether contents are cut to `maxContent` code points. -/
  sanitize : Bool := false
  /-- Whether the severity is coloured for a terminal. -/
  color : Bool := false
  /-- The length to which contents are cut; a negative one drops code points from the end. -/
  maxContent : Int := 100
deriving DecidableEq, Repr

namespace Formatter

/-- A control character that would break a line or drive a terminal is written as an escape. -/
def escapeControl (c : CodePoint) : Text :=
  if c = .ofChar '\n' then Text.ofString "\\n"
  else if c = .ofChar '\r' then Text.ofString "\\r"
  else if c = .ofChar '\t' then Text.ofString "\\t"
  else if c.val = 0x1B then Text.ofString "\\x1b"
  else [c]

/-- The start of a text up to a limit.  A negative limit counts from the end. -/
def clip (limit : Int) (t : Text) : Text :=
  if limit < 0 then t.take (t.length - limit.natAbs) else t.take limit.toNat

/-- The contents of a message or hint as they are written: escaped, then cut if asked for. -/
def contents (f : Formatter) (t : Text) : Text :=
  let escaped := t.flatMap escapeControl
  if f.sanitize ∧ f.maxContent < escaped.length then
    clip f.maxContent escaped ++ Text.ofString "..."
  else escaped

/-- The hint of a diagnostic as it is written; an empty hint is none. -/
def hint? (f : Formatter) (d : Diagnostic) : Option Text :=
  match d.hint with
  | none | some [] => none
  | some h => some (f.contents h)

/-- Whether a diagnostic counts as a warning; every other severity counts as an error. -/
def isWarning (d : Diagnostic) : Bool :=
  d.severity = Text.ofString "warning"

/-- The severity as it is written in the head of a diagnostic. -/
def severityMark (f : Formatter) (d : Diagnostic) : Text :=
  match f.color, isWarning d with
  | false, false => Text.ofString "error"
  | false, true => Text.ofString "warning"
  | true, false => Text.ofString "\x1b[1;31merror\x1b[0m"
  | true, true => Text.ofString "\x1b[1;33mwarning\x1b[0m"

/-- The line that tells the place of a span. -/
def placeLine (s : SourceSpan) : Text :=
  Text.ofString "  --> line " ++ Numeral.decimal s.line ++ Text.ofString ", column " ++
    Numeral.decimal s.column

/-- The lines of a diagnostic in the layout of compilers. -/
def rustLines (f : Formatter) (d : Diagnostic) : List Text :=
  [f.severityMark d ++ Text.ofString "[" ++ d.code.name ++ Text.ofString "]: " ++
      f.contents d.message] ++
    (d.span.map placeLine).toList ++
    ((f.hint? d).map (Text.ofString "  = help: " ++ ·)).toList

/-- The fields of a diagnostic as a JSON object. -/
def jsonFields (f : Formatter) (d : Diagnostic) : List (String × Json.Value) :=
  [("code", .string d.code.name), ("code_value", .number d.code.value),
      ("message", .string (f.contents d.message)), ("severity", .string d.severity)] ++
    (match d.span with
      | none => []
      | some s => [("line", .number s.line), ("column", .number s.column),
          ("start", .number s.start), ("end", .number s.stop)]) ++
    ((f.hint? d).map fun h => ("hint", .string h)).toList

/-- A diagnostic in a given layout. -/
def render (f : Formatter) (d : Diagnostic) : Layout → Text
  | .rust => Text.joined [.newline] (f.rustLines d)
  | .simple => d.code.name ++ Text.ofString ": " ++ f.contents d.message
  | .json => Json.object (f.jsonFields d)

/-- A diagnostic in the layout of the formatter. -/
def format (f : Formatter) (d : Diagnostic) : Option Text :=
  f.layout.map (f.render d)

theorem format_of_layout {f : Formatter} {layout : Layout} (h : f.layout = some layout)
    (d : Diagnostic) : f.format d = some (f.render d layout) := by
  rw [format, h]
  rfl

/-- Diagnostics with a blank line between each two.  Without a layout only the empty list can be
written. -/
def formatAll? (f : Formatter) (ds : List Diagnostic) : Option Text :=
  (ds.mapM f.format).map (Text.joined [.newline, .newline])

end Formatter

/-- A diagnostic as it is written where nothing else is asked for. -/
def Diagnostic.render (d : Diagnostic) : Text :=
  ({} : Formatter).render d .rust

end Lexeme
