/-
# Streams of sized items

A stream extracts one item for each pull.  It counts its items, and once it has come to the end
of input it stays there.  A failed pull neither counts nor ends the stream.
-/
import Lexeme.Extract
import Lexeme.Limit
import Lexeme.Pull

namespace Lexeme

variable {κ : Type}

/-- A stream between two pulls. -/
structure Stream where
  /-- The session that is being scanned. -/
  session : Session
  /-- The number of items so far. -/
  count : Nat := 0
  /-- Whether the end of input has been reported. -/
  done : Bool := false

namespace Stream

/-- Open a stream: check the size of the source, and find the conversion of rejections. -/
def start (source : Source) (errorKind : ErrorKind κ) (limit : Limit := {}) (trace : Trace := {}) :
    Except Fault (Conversion κ × Stream) := do
  limit.check source.text
  let convert ← errorKind.resolve
  let session := Session.start source trace
  return (convert, { session := session.record (.started source.text.length) })

/-- A signal to stop must not pass for the end of input. -/
def guardStop (offset : Nat) : Fault → Fault
  | .raised .stop _ => .leakedStop offset
  | f => f

/-- Extract the next item. -/
def pull (classify : Classifier κ) (convert : Conversion κ) (stream : Stream) :
    Pull (Item κ) × Stream :=
  if stream.done then (.stop, stream)
  else
    match extract classify convert false stream.session with
    | .ok (some item) session =>
      (.item item, { stream with session, count := stream.count + 1 })
    | .ok none session =>
      (.stop, { stream with session := session.record (.exhausted stream.count), done := true })
    | .error f session =>
      (.fault (guardStop stream.session.cursor.pos f), { stream with session })

end Stream

end Lexeme
