/-
# Moving code point by code point

The plainest move goes one code point on.  The other moves go further at once, and each has its own
way of finding how many octets it passes: they write the text, or add up widths, or start anew from
the beginning of the source.  By `Cursor.bulk_moves_eq_bumps` all of them lead exactly to where
moves by one code point lead, with the same counters: moving past a number of code points or past a
literal is as many moves by one code point, and moving past a run is the loop that moves by one code
point as long as the next one has the property.
-/
import Lexeme.Proofs.Octets

namespace Lexeme

namespace Cursor

variable {source : Source} {c d : Cursor} {n : Nat} {p : CodePoint → Bool}

/-! ## A number of moves by one code point -/

/-- Move by one code point `n` times. -/
def bumps (c : Cursor) : Nat → Except Fault Cursor
  | 0 => .ok c
  | n + 1 =>
    match c.bump with
    | .ok d => d.bumps n
    | .error f => .error f

lemma bumps_of_le (hn : n ≤ c.rest.length) : c.bumps n = .ok (c.skip n) := by
  induction n generalizing c with
  | zero => rw [bumps, skip_zero]
  | succ n ih =>
    have hbump : c.bump = .ok (c.skip 1) := bump_eq_ok_iff.2 ⟨by omega, rfl⟩
    have hrest : n ≤ (c.skip 1).rest.length := by
      rw [skip_rest, List.length_drop]
      omega
    rw [bumps, hbump]
    simp only [ih hrest, skip_skip, Nat.add_comm 1 n]

/-- Placing a cursor afresh comes to the same as skipping. -/
lemma Reachable.atOffset_skip (hc : c.Reachable source) (hn : n ≤ c.rest.length) :
    atOffset source (c.pos + n) = .ok (c.skip n) := by
  have hfresh := exact_iff_atOffset.1 (hc.exact.skip hn)
  rw [skip_source, hc.source_eq, skip_pos, Int.natCast_add] at hfresh
  exact hfresh

/-! ## Moving as long as a property holds -/

lemma rest_lt_of_bump (h : c.bump = .ok d) : d.rest.length < c.rest.length := by
  obtain ⟨hlen, rfl⟩ := bump_eq_ok_iff.1 h
  rw [skip_rest, List.length_drop]
  omega

/-- The loop that moves by one code point as long as input remains and the next code point has the
property. -/
def bumpWhile (p : CodePoint → Bool) (c : Cursor) : Except Fault Cursor :=
  if c.atEnd then .ok c
  else
    match c.peek with
    | .error f => .error f
    | .ok x =>
      if p x then
        match _hbump : c.bump with
        | .error f => .error f
        | .ok d => bumpWhile p d
      else .ok c
termination_by c.rest.length
decreasing_by exact rest_lt_of_bump _hbump

/-- The loop passes the run of code points with the property, and does not fail. -/
lemma bumpWhile_eq (p : CodePoint → Bool) (c : Cursor) :
    c.bumpWhile p = .ok (c.skip (c.rest.takeWhile p).length) := by
  induction hrest : c.rest generalizing c with
  | nil => simp [bumpWhile, atEnd, hrest]
  | cons x rest ih =>
    have hend : c.atEnd = false := by simp [atEnd, hrest]
    have hpeek : c.peek = .ok x := by simp [peek, hrest]
    rw [bumpWhile, hend, hpeek]
    rcases hx : p x with _ | _
    · simp [hx]
    · have hbump : c.bump = .ok (c.skip 1) := bump_eq_ok_iff.2 ⟨by simp [hrest], rfl⟩
      have hloop := ih (c.skip 1) (by simp [hrest])
      rw [skip_skip] at hloop
      simp only [Bool.false_eq_true, if_false, hx, if_true]
      split
      · rename_i f hf
        rw [hbump] at hf
        cases hf
      · rename_i d hd
        rw [hbump, Except.ok.injEq] at hd
        subst hd
        simp [hloop, hx, Nat.add_comm]

/-- No longer run of code points with the property stands at the start of a text. -/
lemma prefix_takeWhile {t run : Text} (h : run <+: t) (hrun : ∀ x ∈ run, p x = true) :
    run <+: t.takeWhile p := by
  obtain ⟨rest, rfl⟩ := h
  rw [List.takeWhile_append_of_pos hrun]
  exact List.prefix_append run _

/-- After a run there is no further run. -/
lemma takeWhile_drop_takeWhile (p : CodePoint → Bool) (t : Text) :
    (t.drop (t.takeWhile p).length).takeWhile p = [] := by
  have hrun : ∀ x ∈ t.takeWhile p, p x = true := List.all_eq_true.1 List.all_takeWhile
  have hsplit := List.take_append_drop (t.takeWhile p).length t
  rw [take_length_takeWhile] at hsplit
  have hnext : (t.takeWhile p ++ t.drop (t.takeWhile p).length).takeWhile p =
      t.takeWhile p ++ (t.drop (t.takeWhile p).length).takeWhile p :=
    List.takeWhile_append_of_pos hrun
  rw [hsplit] at hnext
  exact List.append_right_eq_self.1 hnext.symm

/-! ## What the moves return -/

/-- What the counters of two cursors differ by. -/
def gain (c d : Cursor) : Consumed :=
  ⟨d.pos - c.pos, d.bytePos - c.bytePos⟩

lemma gain_skip (hn : n ≤ c.rest.length) : c.gain (c.skip n) = .ofText (c.rest.take n) := by
  have hdistance := distanceSince_skip hn
  rw [distanceSince_of_follows (follows_skip c n), Except.ok.injEq] at hdistance
  exact hdistance

/-- A literal is passed exactly if it is not empty and comes next. -/
lemma take_moves_iff (c : Cursor) (literal : Text) :
    (c.take literal).2 ≠ c ↔ literal ≠ [] ∧ literal <+: c.rest := by
  constructor
  · intro hmoved
    refine ⟨?_, ?_⟩
    · rintro rfl
      exact hmoved rfl
    · by_contra hprefix
      have htake := take_of_not_prefix hprefix
      exact hmoved (congrArg Prod.snd htake)
  · rintro ⟨hne, hprefix⟩ hsame
    have htake := take_of_prefix hne hprefix
    rw [htake] at hsame
    have hpos := congrArg pos hsame
    have hlen := List.length_pos_iff.2 hne
    rw [skip_pos] at hpos
    omega

/-! ## All moves at once -/

/-- **Moving in bulk is moving code point by code point.**  Let a cursor be reachable.  For every
number of code points that remain, so many moves by one code point, the move past that number,
placing a cursor that much further on, and, unless the number is zero, the move past the literal
that stands there lead to one and the same cursor.  A literal moves the cursor exactly if it is not
empty and comes next.  The move past a run leads where the loop leads that moves by one code point as long
as it may; what it passes is the longest run there is, so that doing it again passes nothing.  Every
move that succeeds returns what the two counters have gained. -/
theorem bulk_moves_eq_bumps (hc : c.Reachable source) :
    (∀ n : Nat, c.pos + n ≤ source.text.length → ∃ r d, c.bumps n = .ok d ∧
      c.consume n = .ok (r, d) ∧ atOffset source (c.pos + n) = .ok d ∧
      (0 < n → c.take (source.text.extract c.pos (c.pos + n)) = (r, d))) ∧
    (∀ literal, (c.take literal).2 ≠ c ↔ literal ≠ [] ∧ literal <+: c.rest) ∧
    (∀ p : CodePoint → Bool, ∃ r d run, c.takeWhile (.ofBool p) = .ok (r, d) ∧
      c.bumpWhile p = .ok d ∧ d.textSince c = .ok run ∧
      run <+: c.rest ∧ (∀ x ∈ run, p x = true) ∧
      (∀ other, other <+: c.rest → (∀ x ∈ other, p x = true) → other <+: run) ∧
      d.takeWhile (.ofBool p) = .ok (.zero, d)) ∧
    (∀ literal r d, c.take literal = (r, d) → r = c.gain d) ∧
    (∀ test r d, c.takeWhile test = .ok (r, d) → r = c.gain d) ∧
    ∀ n r d, c.consume n = .ok (r, d) → r = c.gain d := by
  refine ⟨?_, take_moves_iff c, ?_, ?_, ?_, ?_⟩
  · intro n hn
    have hlen := c.length_rest
    rw [hc.source_eq] at hlen
    have hle : n ≤ c.rest.length := by omega
    refine ⟨_, c.skip n, bumps_of_le hle, consume_of_pos_le (by rw [hc.source_eq]; exact hn),
      hc.atOffset_skip hle, fun hpos => ?_⟩
    have hpiece : source.text.extract c.pos (c.pos + n) = c.rest.take n := by
      rw [List.extract_eq_take_drop, c.rest_eq, hc.source_eq, Nat.add_sub_cancel_left]
    have hne : c.rest.take n ≠ [] := by
      rw [Ne, List.take_eq_nil_iff]
      rintro (rfl | hnil)
      · omega
      · rw [hnil, List.length_nil] at hle
        omega
    have htake := take_of_prefix hne (List.take_prefix n c.rest)
    rw [hpiece, htake, List.length_take, Nat.min_eq_left hle]
  · intro p
    have hstop := (c.skip (c.rest.takeWhile p).length).takeWhile_ofBool p
    rw [skip_rest, takeWhile_drop_takeWhile, List.length_nil, skip_zero] at hstop
    have htext := c.textSince_skip (c.rest.takeWhile p).length
    rw [take_length_takeWhile] at htext
    exact ⟨_, _, _, c.takeWhile_ofBool p, bumpWhile_eq p c, htext, List.takeWhile_prefix p,
      List.all_eq_true.1 List.all_takeWhile, fun _ => prefix_takeWhile, hstop⟩
  · intro literal r d h
    obtain ⟨n, hn, htake⟩ := c.take_skips literal
    rw [htake, Prod.mk.injEq] at h
    obtain ⟨rfl, rfl⟩ := h
    exact (gain_skip hn).symm
  · intro test r d h
    obtain ⟨n, hn, rfl, rfl⟩ := takeWhile_eq_ok h
    exact (gain_skip hn).symm
  · intro n r d h
    obtain ⟨m, hm, rfl, rfl⟩ := consume_eq_ok h
    exact (gain_skip hm).symm

/-- From the second of five code points on, three code points can be passed in every way, and the
run of code points with more than one octet comes to the end. -/
theorem bulk_moves_eq_bumps_mixed :
    (place mixed 1 1).Reachable mixed ∧
    (∃ r d, (place mixed 1 1).bumps 3 = .ok d ∧ (place mixed 1 1).consume 3 = .ok (r, d) ∧
      (place mixed 1 1).take (mixed.text.extract 1 4) = (r, d) ∧ r = (place mixed 1 1).gain d ∧
      d = place mixed 4 9) ∧
    ∃ r d, (place mixed 1 1).takeWhile (.ofBool fun x => 1 < x.width) = .ok (r, d) ∧
      (place mixed 1 1).bumpWhile (fun x => 1 < x.width) = .ok d ∧ r = ⟨4, 12⟩ := by
  have hc : (place mixed 1 1).Reachable mixed := .placed (show atOffset mixed 1 = _ from rfl)
  obtain ⟨hbulk, -, hruns, -, -, hgain⟩ := bulk_moves_eq_bumps hc
  obtain ⟨r, d, hbumps, hconsume, hplaced, htake⟩ := hbulk 3 (by decide)
  obtain ⟨r', d', -, hrun, hloop, -⟩ := hruns fun x => 1 < x.width
  have hfresh : atOffset mixed ((place mixed 1 1).pos + (3 : Nat)) = .ok (place mixed 4 9) := rfl
  have hmeasured : (place mixed 1 1).takeWhile (.ofBool fun x => 1 < x.width) =
      .ok (⟨4, 12⟩, _) := rfl
  rw [hfresh, Except.ok.injEq] at hplaced
  rw [hmeasured, Except.ok.injEq, Prod.mk.injEq] at hrun
  exact ⟨hc, ⟨r, d, hbumps, hconsume, htake (by decide), hgain _ r d hconsume, hplaced.symm⟩,
    r', d', by rw [hmeasured, hrun.1, hrun.2], hloop, hrun.1.symm⟩

end Cursor

end Lexeme
