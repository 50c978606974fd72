/-
# Scanners

A scanner owns a session and extracts items with their texts, with a classifier of the caller's
choice each time.
-/
import Lexeme.Extract
import Lexeme.Limit
import Lexeme.Pull

namespace Lexeme

variable {κ : Type}

/-- A scanner between two extractions. -/
structure Scanner where
  /-- The session that is being scanned. -/
  session : Session

namespace Scanner

/-- Open a scanner: check the size of the source, and find the conversion of rejections. -/
def start (source : Source) (errorKind : ErrorKind κ) (limit : Limit := {}) (trace : Trace := {}) :
    Except Fault (Conversion κ × Scanner) := do
  limit.check source.text
  let convert ← errorKind.resolve
  return (convert, ⟨.start source trace⟩)

/-- The next item with its text, or nothing at the end of input. -/
def next (classify : Classifier κ) (convert : Conversion κ) (scanner : Scanner) :
    Except Fault (Option (Item κ)) × Scanner :=
  match extract classify convert true scanner.session with
  | .ok item session => (.ok item, ⟨session⟩)
  | .error f session => (.error f, ⟨session⟩)

/-- The next item with its text, as a pull. -/
def pull (classify : Classifier κ) (convert : Conversion κ) (scanner : Scanner) :
    Pull (Item κ) × Scanner :=
  match scanner.next classify convert with
  | (.ok (some item), scanner) => (.item item, scanner)
  | (.ok none, scanner) => (.stop, scanner)
  | (.error f, scanner) => (.fault f, scanner)

/-- The scanner in words. -/
def describe (scanner : Scanner) : Text :=
  Text.ofString "Scanner(" ++ scanner.session.cursor.describe ++ Text.ofString ")"

end Scanner

end Lexeme
