/-
# Slices of a text

Kinds with lengths are mapped back onto the text that they were measured on: each length cuts
the next piece.  Nothing is scanned.  A length that is negative or runs past the end breaks the
contract, and after that no more pieces are cut.
-/
import Lexeme.Item
import Lexeme.Pull

namespace Lexeme

variable {κ : Type}

/-- A text that is being cut into pieces. -/
structure Slicer where
  /-- The length of the whole text. -/
  size : Nat
  /-- The number of code points cut off so far. -/
  offset : Nat
  /-- The text that has not been cut off. -/
  rest : Text
deriving DecidableEq, Repr

namespace Slicer

/-- A text of which nothing has been cut off. -/
def ofText (text : Text) : Slicer :=
  ⟨text.length, 0, text⟩

/-- Cut off the next piece. -/
def cut (slicer : Slicer) (length : Int) : Except Fault (Text × Slicer) :=
  if length < 0 ∨ slicer.size < slicer.offset + length then
    .error (.contract (.diagnostic (.sliceOutOfBounds slicer.offset length slicer.size)))
  else
    .ok (slicer.rest.take length.toNat,
      ⟨slicer.size, slicer.offset + length.toNat, slicer.rest.drop length.toNat⟩)

end Slicer

/-- A list of kinds with lengths that is being mapped onto a text. -/
structure Slices (κ : Type) where
  /-- The text. -/
  slicer : Slicer
  /-- The kinds with lengths that are still to come. -/
  pending : List (κ × Int)

namespace Slices

/-- Nothing has been mapped yet. -/
def start (text : Text) (pairs : List (κ × Int)) : Slices κ :=
  ⟨.ofText text, pairs⟩

/-- Map the next length.  After a failure nothing is pending any more. -/
def pull (slices : Slices κ) : Pull (Item κ) × Slices κ :=
  match slices.pending with
  | [] => (.stop, slices)
  | (kind, length) :: pending =>
    match slices.slicer.cut length with
    | .ok (piece, slicer) => (.item (.token kind piece), ⟨slicer, pending⟩)
    | .error f => (.fault f, ⟨slices.slicer, []⟩)

end Slices

end Lexeme
