/-
# Lexers

A lexer is a stream whose lengths are mapped back onto the source as they come, so that each
pull gives a kind with its text.  After the first pull that gives no item it is spent: later
pulls do not touch the stream.
-/
import Lexeme.Slices
import Lexeme.Stream

namespace Lexeme

variable {κ : Type}

/-- A lexer between two pulls. -/
structure Lexer where
  /-- The stream of lengths. -/
  stream : Stream
  /-- The source that the lengths are mapped onto. -/
  slicer : Slicer
  /-- Whether a pull has given no item. -/
  spent : Bool := false

namespace Lexer

/-- Open a lexer. -/
def start (source : Source) (errorKind : ErrorKind κ) (limit : Limit := {}) (trace : Trace := {}) :
    Except Fault (Conversion κ × Lexer) := do
  let (convert, stream) ← Stream.start source errorKind limit trace
  return (convert, { stream, slicer := .ofText source.text })

/-- Cut the text of an item. -/
def cutItem (slicer : Slicer) (item : Item κ) : Except Fault (Item κ × Slicer) := do
  let (kind, length) ← item.pair
  let (piece, slicer) ← slicer.cut length
  return (.token kind piece, slicer)

/-- Pull the stream, and cut the text of what it gives. -/
def pull (classify : Classifier κ) (convert : Conversion κ) (lexer : Lexer) :
    Pull (Item κ) × Lexer :=
  if lexer.spent then (.stop, lexer)
  else
    match lexer.stream.pull classify convert with
    | (.stop, stream) => (.stop, { lexer with stream, spent := true })
    | (.fault f, stream) => (.fault f, { lexer with stream, spent := true })
    | (.item item, stream) =>
      match cutItem lexer.slicer item with
      | .ok (token, slicer) => (.item token, { lexer with stream, slicer })
      | .error f => (.fault f, { lexer with stream, spent := true })

/-- All items of a source, or the failure that kept them from being found. -/
def run (classify : Classifier κ) (convert : Conversion κ) (lexer : Lexer) :
    Run (Item κ) Lexer :=
  Pull.drain (pull classify convert) Pull.patience lexer

end Lexer

end Lexeme
