/-
# The tour as a program

Prints the tour of the library.
-/
import Lexeme.Tour

/-- Print the tour. -/
def main : IO Unit :=
  match Lexeme.Tour.all with
  | .ok page => IO.print (page.text.toString?.getD "")
  | .error _ => pure ()
