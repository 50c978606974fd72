/-
# The octets of a text

Each code point is written with one to four octets.  The leading octet tells how many follow,
and each following octet carries six bits.  Surrogates are written like their neighbours, with
three octets.  `CodePoint.width` says how many octets there are without writing them;
`length_utf8` says that the two agree.
-/
import Lexeme.Text.CodePoint

namespace Lexeme

namespace CodePoint

/-- The octets of a code point: the bits are split into groups of six from the right, and the
leading octet is marked with the number of octets. -/
def utf8 (c : CodePoint) : List UInt8 :=
  if c.val < 0x80 then
    [c.val.toUInt8]
  else if c.val < 0x800 then
    [(0xC0 + c.val / 0x40).toUInt8, (0x80 + c.val % 0x40).toUInt8]
  else if c.val < 0x10000 then
    [(0xE0 + c.val / 0x1000).toUInt8, (0x80 + c.val / 0x40 % 0x40).toUInt8,
      (0x80 + c.val % 0x40).toUInt8]
  else
    [(0xF0 + c.val / 0x40000).toUInt8, (0x80 + c.val / 0x1000 % 0x40).toUInt8,
      (0x80 + c.val / 0x40 % 0x40).toUInt8, (0x80 + c.val % 0x40).toUInt8]

/-- The number of octets of a code point, read off its number. -/
def width (c : CodePoint) : Nat :=
  if c.val < 0x80 then 1
  else if c.val < 0x800 then 2
  else if c.val < 0x10000 then 3
  else 4

theorem length_utf8 (c : CodePoint) : c.utf8.length = c.width := by
  unfold utf8 width
  repeat' split
  all_goals rfl

theorem width_pos (c : CodePoint) : 0 < c.width := by
  unfold width
  repeat' split
  all_goals omega

theorem width_le_four (c : CodePoint) : c.width ≤ 4 := by
  unfold width
  repeat' split
  all_goals omega

end CodePoint

namespace Text

/-- The octets of a text, code point after code point. -/
def utf8 (t : Text) : List UInt8 :=
  t.flatMap CodePoint.utf8

/-- The number of octets of a text, counted while they are written. -/
def encodedSize (t : Text) : Nat :=
  t.foldl (fun n c => n + c.utf8.length) 0

/-- The sum of the widths of the code points of a text. -/
def width : Text → Nat
  | [] => 0
  | c :: t => c.width + width t

@[simp] theorem utf8_nil : utf8 [] = [] := rfl

@[simp] theorem utf8_append (s t : Text) : utf8 (s ++ t) = utf8 s ++ utf8 t := by
  simp [utf8]

@[simp] theorem width_nil : width [] = 0 := rfl

@[simp] theorem width_cons (c : CodePoint) (t : Text) : width (c :: t) = c.width + width t := rfl

@[simp] theorem width_append (s t : Text) : width (s ++ t) = width s + width t := by
  induction s with
  | nil => simp
  | cons c s ih => simp [ih, Nat.add_assoc]

/-- Counting octets while they are written counts them all. -/
theorem encodedSize_eq_length (t : Text) : encodedSize t = (utf8 t).length := by
  have h (n : Nat) : t.foldl (fun n c => n + c.utf8.length) n = n + (utf8 t).length := by
    induction t generalizing n with
    | nil => rfl
    | cons c t ih => simp [utf8, ih, Nat.add_assoc]
  simpa [encodedSize] using h 0

theorem length_utf8 (t : Text) : (utf8 t).length = width t := by
  induction t with
  | nil => rfl
  | cons c t ih => simpa [utf8, CodePoint.length_utf8] using ih

/-- Measuring by writing and measuring by widths agree. -/
theorem encodedSize_eq_width (t : Text) : encodedSize t = width t := by
  rw [encodedSize_eq_length, length_utf8]

end Text

end Lexeme
