/-
# Blanks

The blank code points: the separators of words, lines and paragraphs, and the control codes
that act as such.
-/
import Lexeme.Text.CodePoint

namespace Lexeme

/-- The ranges of blank code points, both ends included, in increasing order. -/
def blankRanges : List (Nat × Nat) :=
  [(0x09, 0x0D), (0x1C, 0x20), (0x85, 0x85), (0xA0, 0xA0), (0x1680, 0x1680), (0x2000, 0x200A),
    (0x2028, 0x2029), (0x202F, 0x202F), (0x205F, 0x205F), (0x3000, 0x3000)]

/-- Whether the code point is blank. -/
def CodePoint.isBlank (c : CodePoint) : Bool :=
  blankRanges.any fun (low, high) => low ≤ c.val && c.val ≤ high

/-- No digit is blank. -/
theorem CodePoint.not_isBlank_of_isDigit {c : CodePoint} (h : c.isDigit = true) :
    c.isBlank = false := by
  simp only [isDigit, Bool.and_eq_true, decide_eq_true_eq] at h
  simp only [isBlank, blankRanges, List.any_cons, List.any_nil, Bool.or_false, Bool.or_eq_false_iff,
    Bool.and_eq_false_iff, decide_eq_false_iff_not]
  omega

end Lexeme
