/-
# Quoted texts

A text in quotes, on one line and readable: what does not show as itself is written with an
escape.  Single quotes are used, unless the text has a single quote and no double one.
-/
import Lexeme.Text.Numeral
import Lexeme.Text.Printable

namespace Lexeme

namespace Quoted

/-- The quote that is put around a text. -/
def quoteFor (t : Text) : CodePoint :=
  if .ofChar '\'' ∈ t ∧ .ofChar '"' ∉ t then .ofChar '"' else .ofChar '\''

/-- How one code point is written between two quotes. -/
def escape (quote c : CodePoint) : Text :=
  if c = quote ∨ c = .ofChar '\\' then [.ofChar '\\', c]
  else if c = .ofChar '\t' then Text.ofString "\\t"
  else if c = .ofChar '\n' then Text.ofString "\\n"
  else if c = .ofChar '\r' then Text.ofString "\\r"
  else if c.isPrintable then [c]
  else if c.val < 0x100 then Text.ofString "\\x" ++ Numeral.hex 2 c.val
  else if c.val < 0x10000 then Text.ofString "\\u" ++ Numeral.hex 4 c.val
  else Text.ofString "\\U" ++ Numeral.hex 8 c.val

end Quoted

/-- The text in quotes, with escapes for what does not show as itself. -/
def Text.quoted (t : Text) : Text :=
  let quote := Quoted.quoteFor t
  quote :: t.flatMap (Quoted.escape quote) ++ [quote]

end Lexeme
