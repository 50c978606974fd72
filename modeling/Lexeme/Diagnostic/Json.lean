/-
# JSON texts

The part of JSON that diagnostics are written in: one object, whose fields are strings and
numbers.  A string escapes the quote, the backslash and the code points below `0x20`; all else
stands for itself.
-/
import Lexeme.Text.Numeral

namespace Lexeme.Json

/-- How one code point is written inside a string. -/
def escape (c : CodePoint) : Text :=
  if c = .ofChar '"' then Text.ofString "\\\""
  else if c = .ofChar '\\' then Text.ofString "\\\\"
  else if c = .ofChar '\n' then Text.ofString "\\n"
  else if c = .ofChar '\r' then Text.ofString "\\r"
  else if c = .ofChar '\t' then Text.ofString "\\t"
  else if c.val = 0x0C then Text.ofString "\\f"
  else if c.val = 0x08 then Text.ofString "\\b"
  else if c.val < 0x20 then Text.ofString "\\u" ++ Numeral.hex 4 c.val
  else [c]

/-- A text as a string. -/
def string (t : Text) : Text :=
  .ofChar '"' :: t.flatMap escape ++ [.ofChar '"']

/-- The value of a field. -/
inductive Value where
  /-- A text, written as a string. -/
  | string (t : Text)
  /-- A number, written as a decimal numeral. -/
  | number (n : Nat)
deriving DecidableEq, Repr

/-- A value as it is written. -/
def Value.render : Value → Text
  | string t => Json.string t
  | number n => Numeral.decimal n

/-- One field of an object. -/
def field (name : String) (value : Value) : Text :=
  string (Text.ofString name) ++ Text.ofString ": " ++ value.render

/-- An object with the given fields, in their order. -/
def object (fields : List (String × Value)) : Text :=
  Text.ofString "\x7b" ++
    Text.joined (Text.ofString ", ") (fields.map fun (name, value) => field name value) ++
    Text.ofString "\x7d"

end Lexeme.Json
