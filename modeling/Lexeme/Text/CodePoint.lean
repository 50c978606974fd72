/-
# Code points and texts

A text is a list of code points.  A code point is any number below `0x110000`, so lone
surrogates are code points too: a text read from a damaged source is still a text, and every
offset in this library counts code points of such a list.
-/

namespace Lexeme

/-- A code point: a number below `0x110000`, surrogates included. -/
structure CodePoint where
  /-- The number of the code point. -/
  val : Nat
  /-- Code points end at `0x10FFFF`. -/
  val_lt : val < 0x110000
deriving DecidableEq, Repr

/-- A text: a list of code points. -/
abbrev Text := List CodePoint

namespace CodePoint

/-- The code point of a character. -/
def ofChar (c : Char) : CodePoint :=
  ⟨c.toNat, by
    have h := c.valid
    simp only [UInt32.isValidChar, Nat.isValidChar] at h
    show c.val.toNat < _
    omega⟩

/-- The code point with number `n`, if there is one. -/
def ofNat? (n : Nat) : Option CodePoint :=
  if h : n < 0x110000 then some ⟨n, h⟩ else none

/-- Whether the code point is a surrogate, that is, not a character on its own. -/
def isSurrogate (c : CodePoint) : Bool :=
  0xD800 ≤ c.val && c.val ≤ 0xDFFF

/-- The character with the number of a code point; surrogates have none. -/
def toChar? (c : CodePoint) : Option Char :=
  if c.isSurrogate then none else some (Char.ofNat c.val)

@[ext] theorem ext {a b : CodePoint} (h : a.val = b.val) : a = b := by
  cases a; cases b; simp_all

theorem ofChar_injective {a b : Char} (h : ofChar a = ofChar b) : a = b :=
  Char.toNat_inj.mp (congrArg val h)

/-- The newline, which ends a line. -/
def newline : CodePoint := ofChar '\n'

/-- Whether the code point is one of the ten digits `0` to `9`. -/
def isDigit (c : CodePoint) : Bool :=
  0x30 ≤ c.val && c.val ≤ 0x39

end CodePoint

namespace Text

/-- The text of a string. -/
def ofString (s : String) : Text :=
  s.toList.map CodePoint.ofChar

theorem ofString_injective {s t : String} (h : ofString s = ofString t) : s = t := by
  apply String.toList_inj.mp
  exact (List.map_inj_right fun _ _ => CodePoint.ofChar_injective).mp h

/-- The string of a text without surrogates. -/
def toString? (t : Text) : Option String :=
  if t.any CodePoint.isSurrogate then none else some (String.ofList (t.filterMap CodePoint.toChar?))

/-- The texts put one after another, with `separator` between each two. -/
def joined (separator : Text) (parts : List Text) : Text :=
  separator.intercalate parts

@[simp] theorem joined_nil (separator : Text) : joined separator [] = [] := rfl

@[simp] theorem joined_singleton (separator part : Text) :
    joined separator [part] = part := by
  simp [joined, List.intercalate]

@[simp] theorem joined_cons_cons (separator part next : Text) (rest : List Text) :
    joined separator (part :: next :: rest) =
      part ++ separator ++ joined separator (next :: rest) := by
  simp [joined, List.intercalate, List.intersperse]

/-- The separator stands before every text but the first. -/
theorem joined_cons (separator part : Text) (rest : List Text) :
    joined separator (part :: rest) = part ++ rest.flatMap (separator ++ ·) := by
  induction rest generalizing part with
  | nil => simp
  | cons next rest ih => simp [ih]

end Text

end Lexeme
