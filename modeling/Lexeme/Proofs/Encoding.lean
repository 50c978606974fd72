/-
# The standard encoding

The octets of a code point can be described without any arithmetic.  The standard has four forms
for the octets that carry a number: the marks at the front of the octets are fixed, and the bits of
the number stand in the places that the marks leave free, from the left to the right.  Since zeros
can be put in front of a number, the longer forms carry the small numbers as well; a code point is
encoded by the shortest octets that carry it.  Nothing is said about surrogates, which are numbers
like others.

By `CodePoint.encodedAs_iff` these octets are exactly the ones that `CodePoint.utf8` computes, and
the bounds that `CodePoint.width` compares a code point with are those that the free places of the
four forms set.  So it makes no difference whether a text is measured by encoding it or by adding up
the widths of its code points, and records of texts add up as the texts do.  This is
`Consumed.measures_agree`.
-/
import Lexeme.Proofs.Records

namespace Lexeme

/-! ## Octets that carry a number -/

/-- The four forms in which octets carry a number: bits of the number behind the marks of the
octets. -/
inductive Carries : List UInt8 → Nat → Prop
  | one (x : BitVec 7) :
      Carries [.ofBitVec (0b0#1 ++ x)] x.toNat
  | two (y : BitVec 5) (x : BitVec 6) :
      Carries [.ofBitVec (0b110#3 ++ y), .ofBitVec (0b10#2 ++ x)] (y ++ x).toNat
  | three (z : BitVec 4) (y x : BitVec 6) :
      Carries [.ofBitVec (0b1110#4 ++ z), .ofBitVec (0b10#2 ++ y), .ofBitVec (0b10#2 ++ x)]
        (z ++ y ++ x).toNat
  | four (w : BitVec 3) (z y x : BitVec 6) :
      Carries [.ofBitVec (0b11110#5 ++ w), .ofBitVec (0b10#2 ++ z), .ofBitVec (0b10#2 ++ y),
        .ofBitVec (0b10#2 ++ x)] (w ++ z ++ y ++ x).toNat

lemma toNat_append_bits {m n : Nat} (x : BitVec m) (y : BitVec n) :
    (x ++ y).toNat = x.toNat <<< n + y.toNat := by
  rw [BitVec.toNat_append, Nat.shiftLeft_add_eq_or_of_lt y.isLt]

lemma exists_append_bits {m n : Nat} (p : BitVec (m + n)) :
    ∃ (x : BitVec m) (y : BitVec n), x ++ y = p :=
  ⟨_, _, BitVec.extractLsb'_append_extractLsb'⟩

lemma ofBitVec_eq_toUInt8_iff {v : BitVec 8} {n : Nat} :
    UInt8.ofBitVec v = n.toUInt8 ↔ v.toNat = n % 0x100 := by
  rw [← UInt8.toNat_inj, UInt8.toNat_ofBitVec, Nat.toUInt8_eq, UInt8.toNat_ofNat']

/-! ## Encoded code points -/

namespace CodePoint

variable {c : CodePoint} {octets : List UInt8}

/-- The octets encode the code point: no shorter ones carry its number. -/
structure EncodedAs (c : CodePoint) (octets : List UInt8) : Prop where
  carries : Carries octets c.val
  shortest : ∀ {other : List UInt8}, Carries other c.val → octets.length ≤ other.length

lemma width_bounds (c : CodePoint) :
    (c.width ≤ 1 ↔ c.val < 0x80) ∧ (c.width ≤ 2 ↔ c.val < 0x800) ∧
      (c.width ≤ 3 ↔ c.val < 0x10000) := by
  unfold width
  repeat' split
  all_goals omega

/-- A code point is too large for octets that are fewer than its width. -/
lemma width_le_of_carries (h : Carries octets c.val) : c.width ≤ octets.length := by
  obtain ⟨hone, htwo, hthree⟩ := c.width_bounds
  generalize hval : c.val = n at h hone htwo hthree
  cases h with
  | one x => exact hone.2 x.isLt
  | two y x => exact htwo.2 (y ++ x).isLt
  | three z y x => exact hthree.2 (z ++ y ++ x).isLt
  | four w z y x => exact c.width_le_four

/-- In as many octets as its width says there is only one way to carry a code point. -/
lemma eq_utf8_of_carries (h : Carries octets c.val) (hlength : octets.length = c.width) :
    octets = c.utf8 := by
  obtain ⟨hone, htwo, hthree⟩ := c.width_bounds
  rw [← hlength] at hone htwo hthree
  generalize hval : c.val = n at h hone htwo hthree
  rw [utf8, hval]
  -- the width tells the branch, and each octet of the branch is compared by its number
  cases h with
  | one x =>
    rw [if_pos (hone.1 (by simp))]
    simp only [List.cons.injEq, and_true, ofBitVec_eq_toUInt8_iff, toNat_append_bits,
      BitVec.toNat_ofNat]
    omega
  | two y x =>
    rw [if_neg (mt hone.2 (by simp)), if_pos (htwo.1 (by simp))]
    simp only [List.cons.injEq, and_true, ofBitVec_eq_toUInt8_iff, toNat_append_bits,
      BitVec.toNat_ofNat]
    omega
  | three z y x =>
    rw [if_neg (mt hone.2 (by simp)), if_neg (mt htwo.2 (by simp)), if_pos (hthree.1 (by simp))]
    simp only [List.cons.injEq, and_true, ofBitVec_eq_toUInt8_iff, toNat_append_bits,
      BitVec.toNat_ofNat]
    omega
  | four w z y x =>
    rw [if_neg (mt hone.2 (by simp)), if_neg (mt htwo.2 (by simp)), if_neg (mt hthree.2 (by simp))]
    simp only [List.cons.injEq, and_true, ofBitVec_eq_toUInt8_iff, toNat_append_bits,
      BitVec.toNat_ofNat]
    omega

/-- A code point can be carried by as many octets as its width says. -/
lemma exists_carries (c : CodePoint) :
    ∃ octets, Carries octets c.val ∧ octets.length = c.width := by
  -- each bound leaves as many bits as the form has places; they are cut off in sixes from the right
  unfold width
  split
  next h => exact ⟨_, .one (.ofNatLT c.val h), rfl⟩
  split
  next h =>
    obtain ⟨y, x, hbits⟩ := exists_append_bits (m := 5) (n := 6) (.ofNatLT c.val h)
    have hval : (y ++ x).toNat = c.val := congrArg BitVec.toNat hbits
    rw [← hval]
    exact ⟨_, .two y x, rfl⟩
  split
  next h =>
    obtain ⟨p, x, hbits⟩ := exists_append_bits (m := 10) (n := 6) (.ofNatLT c.val h)
    obtain ⟨z, y, rfl⟩ := exists_append_bits (m := 4) (n := 6) p
    have hval : (z ++ y ++ x).toNat = c.val := congrArg BitVec.toNat hbits
    rw [← hval]
    exact ⟨_, .three z y x, rfl⟩
  next =>
    have hlt : c.val < 0x200000 := Nat.lt_trans c.val_lt (by decide)
    obtain ⟨p, x, hbits⟩ := exists_append_bits (m := 15) (n := 6) (.ofNatLT c.val hlt)
    obtain ⟨q, y, rfl⟩ := exists_append_bits (m := 9) (n := 6) p
    obtain ⟨w, z, rfl⟩ := exists_append_bits (m := 3) (n := 6) q
    have hval : (w ++ z ++ y ++ x).toNat = c.val := congrArg BitVec.toNat hbits
    rw [← hval]
    exact ⟨_, .four w z y x, rfl⟩

/-- A code point is encoded by its octets and by no others. -/
lemma encodedAs_iff : c.EncodedAs octets ↔ octets = c.utf8 := by
  obtain ⟨written, hwritten, hlength⟩ := c.exists_carries
  obtain rfl : written = c.utf8 := eq_utf8_of_carries hwritten hlength
  constructor
  · intro h
    have hshort : octets.length ≤ c.width := hlength ▸ h.shortest hwritten
    exact eq_utf8_of_carries h.carries (Nat.le_antisymm hshort (width_le_of_carries h.carries))
  · rintro rfl
    exact ⟨hwritten, fun hother => hlength ▸ width_le_of_carries hother⟩

/-- A lone surrogate is encoded by three octets. -/
example : utf8 ⟨0xD800, by decide⟩ = [0xED, 0xA0, 0x80] := rfl

end CodePoint

/-! ## Encoded texts -/

namespace Text

/-- The octets encode the text, code point after code point. -/
inductive EncodedAs : Text → List UInt8 → Prop
  | nil : EncodedAs [] []
  | cons {c : CodePoint} {t : Text} {first rest : List UInt8} (hc : c.EncodedAs first)
      (ht : EncodedAs t rest) : EncodedAs (c :: t) (first ++ rest)

lemma encodedAs_utf8 (t : Text) : EncodedAs t (utf8 t) := by
  induction t with
  | nil => exact .nil
  | cons c t ih => exact .cons (CodePoint.encodedAs_iff.2 rfl) ih

lemma encodedAs_iff {t : Text} {octets : List UInt8} : EncodedAs t octets ↔ octets = utf8 t := by
  constructor
  · intro h
    induction h with
    | nil => rfl
    | cons hc _ ih =>
      rw [CodePoint.encodedAs_iff.1 hc, ih]
      rfl
  · rintro rfl
    exact encodedAs_utf8 t

lemma length_le_width (t : Text) : t.length ≤ width t := by
  induction t with
  | nil => exact Nat.le_refl 0
  | cons c t ih =>
    have hc := c.width_pos
    rw [List.length_cons, width_cons]
    omega

lemma width_le (t : Text) : width t ≤ 4 * t.length := by
  induction t with
  | nil => exact Nat.le_refl 0
  | cons c t ih =>
    have hc := c.width_le_four
    rw [List.length_cons, width_cons]
    omega

end Text

/-! ## Records of texts -/

namespace Consumed

lemma add_assoc (r s t : Consumed) : r + s + t = r + (s + t) :=
  Consumed.ext (Int.add_assoc _ _ _) (Int.add_assoc _ _ _)

lemma zero_add (r : Consumed) : zero + r = r :=
  Consumed.ext (Int.zero_add _) (Int.zero_add _)

lemma add_zero (r : Consumed) : r + zero = r :=
  Consumed.ext (Int.add_zero _) (Int.add_zero _)

/-- Adding up widths gives the record that encoding gives. -/
lemma ofRun_eq_ofText (t : Text) : ofRun t = ofText t := by
  -- the sum so far is carried along, so the statement is about every sum to start from
  have h (r : Consumed) :
      t.foldl (fun r c => ⟨r.chars + 1, r.bytes + c.width⟩) r = r + ofText t := by
    induction t generalizing r with
    | nil => exact (add_zero r).symm
    | cons c t ih =>
      have hc : (⟨r.chars + 1, r.bytes + c.width⟩ : Consumed) = r + ofText [c] := by
        rw [ofText_eq]
        rfl
      rw [List.foldl_cons, ih, hc, add_assoc, ← ofText_append, List.singleton_append]
  rw [ofRun, h, zero_add]

lemma mapM_single? (t : Text) : (t.map fun c => [c]).mapM single? = .ok t := by
  induction t with
  | nil => rfl
  | cons c t ih =>
    rw [List.map_cons, List.mapM_cons, ih]
    rfl

lemma ofPieces_singletons (t : Text) : ofPieces (t.map fun c => [c]) = .ok (ofText t) := by
  rw [ofPieces, mapM_single?, ← ofRun_eq_ofText]
  rfl

lemma any_ofText_iff (t : Text) : (ofText t).any = true ↔ t ≠ [] := by
  simp only [any, ofText_eq, decide_eq_true_eq, ne_eq, ← Text.width_eq_zero_iff]
  omega

/-- **The two ways of measuring a text agree.**  The octets of a text are the ones that encode it by
the standard, and there are as many of them as the widths of its code points add up to.  So the
record of a text as a whole is the record of its code points one by one.  Records of texts add up as
texts are put together, the record of the empty text adds nothing, and a text has at least one octet
and at most four octets for each code point, so that something was consumed if and only if the text
is not empty. -/
theorem measures_agree (s t : Text) :
    (∀ octets, Text.EncodedAs t octets ↔ octets = Text.utf8 t) ∧
    (Text.utf8 t).length = Text.width t ∧
    ofText t = ⟨t.length, (Text.utf8 t).length⟩ ∧
    ofPieces (t.map fun c => [c]) = .ok (ofText t) ∧
    ofText (s ++ t) = ofText s + ofText t ∧
    zero = ofText [] ∧ (∀ r : Consumed, zero + r = r ∧ r + zero = r) ∧
    (ofText t).chars ≤ (ofText t).bytes ∧ (ofText t).bytes ≤ 4 * (ofText t).chars ∧
    ((ofText t).any = true ↔ t ≠ []) := by
  have hbytes : ofText t = ⟨t.length, (Text.utf8 t).length⟩ := by
    rw [ofText_eq, Text.length_utf8]
  have hlow := Text.length_le_width t
  have hhigh := Text.width_le t
  refine ⟨fun _ => Text.encodedAs_iff, Text.length_utf8 t, hbytes, ofPieces_singletons t,
    ofText_append s t, rfl, fun r => ⟨zero_add r, add_zero r⟩, ?_, ?_, any_ofText_iff t⟩
  · simp only [ofText_eq]
    omega
  · simp only [ofText_eq]
    omega

end Consumed

end Lexeme
