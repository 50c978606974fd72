/-
# Kinds for classifier programs

Programs are written by users of the library, who choose their kinds freely.  This type holds
all the values that a program can end with.
-/
import Lexeme.Arithmetic

namespace Lexeme.Program

/-- The two kinds of a family that tells rejected input from missing input. -/
inductive Mark where
  /-- Rejected input. -/
  | error
  /-- Missing input. -/
  | endError
deriving DecidableEq, Repr

/-- The name of a mark. -/
def Mark.name : Mark → Text
  | error => Text.ofString "ERROR"
  | endError => Text.ofString "EOF_ERROR"

/-- The values that serve as kinds. -/
inductive Kind where
  /-- The absence of a value. -/
  | none
  /-- A truth value. -/
  | flag (b : Bool)
  /-- A number. -/
  | number (n : Int)
  /-- A text. -/
  | text (t : Text)
  /-- An arithmetic kind. -/
  | arithmetic (k : Arithmetic.Kind)
  /-- A mark. -/
  | mark (m : Mark)
  /-- A word of a fixed vocabulary. -/
  | verb (word : Text)
  /-- A value with a label attached to it. -/
  | tagged (label : Text)
  /-- A fault that is kept as a value. -/
  | fault (f : Fault)
  /-- A consumption record. -/
  | consumed (r : Consumed)
  /-- A diagnostic. -/
  | diagnostic (d : Diagnostic)
deriving DecidableEq, Repr

end Lexeme.Program
