/-
# Numerals

Numbers as texts: decimal numerals, decimal numerals with a comma before every group of three
digits, and hexadecimal numerals of a fixed width.  A negative number has its sign in front.
-/
import Lexeme.Text.CodePoint

namespace Lexeme.Numeral

/-- The digit of the last decimal place of `d`. -/
def digit (d : Nat) : CodePoint :=
  ⟨0x30 + d % 10, by omega⟩

/-- The decimal numeral of a natural number. -/
def decimal (n : Nat) : Text :=
  if n < 10 then [digit n] else decimal (n / 10) ++ [digit n]
termination_by n

/-- The decimal numeral with a comma before every group of three digits. -/
def grouped (n : Nat) : Text :=
  if n < 1000 then decimal n
  else grouped (n / 1000) ++ [.ofChar ',', digit (n / 100), digit (n / 10), digit n]
termination_by n

/-- A numeral with the sign of `n` in front of the numeral of its size. -/
def signed (numeral : Nat → Text) (n : Int) : Text :=
  if n < 0 then .ofChar '-' :: numeral n.natAbs else numeral n.natAbs

/-- The decimal numeral of an integer. -/
def ofInt (n : Int) : Text :=
  signed decimal n

/-- The grouped decimal numeral of an integer. -/
def groupedInt (n : Int) : Text :=
  signed grouped n

/-- The lower-case hexadecimal digit of the last place of `d`. -/
def hexDigit (d : Nat) : CodePoint :=
  if d % 16 < 10 then ⟨0x30 + d % 16, by omega⟩ else ⟨0x57 + d % 16, by omega⟩

/-- The last `places` hexadecimal digits of `n`. -/
def hex : (places : Nat) → (n : Nat) → Text
  | 0, _ => []
  | places + 1, n => hex places (n / 16) ++ [hexDigit n]

/-- Every decimal numeral consists of digits. -/
theorem isDigit_of_mem_decimal (n : Nat) : ∀ c ∈ decimal n, c.isDigit = true := by
  intro c hc
  have hdigit (d : Nat) : (digit d).isDigit = true := by
    simp only [CodePoint.isDigit, Bool.and_eq_true, decide_eq_true_eq]
    simp only [digit]
    omega
  induction n using decimal.induct with
  | case1 n h =>
    rw [decimal, if_pos h, List.mem_singleton] at hc
    exact hc ▸ hdigit n
  | case2 n h ih =>
    rw [decimal, if_neg h, List.mem_append, List.mem_singleton] at hc
    rcases hc with hc | rfl
    · exact ih hc
    · exact hdigit n

/-- No decimal numeral is empty. -/
theorem decimal_ne_nil (n : Nat) : decimal n ≠ [] := by
  rw [decimal]
  split <;> simp

/-- A number can be read off its decimal numeral. -/
theorem decimal_injective {m n : Nat} (h : decimal m = decimal n) : m = n := by
  have value (k : Nat) :
      (decimal k).foldl (fun v c => 10 * v + (c.val - 0x30)) 0 = k := by
    induction k using decimal.induct with
    | case1 k hk =>
      rw [decimal, if_pos hk]
      simp only [List.foldl_cons, List.foldl_nil, digit]
      omega
    | case2 k hk ih =>
      rw [decimal, if_neg hk, List.foldl_append, ih]
      simp only [List.foldl_cons, List.foldl_nil, digit]
      omega
  rw [← value m, ← value n, h]

end Lexeme.Numeral
