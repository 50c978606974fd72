/-
# The octets between two cursors

A cursor counts the octets that it has passed without ever writing a source as a whole.  The count
can all the same be used as an offset into the octets of the source: what lies between the counts
of two cursors are the octets of the text between these cursors.  For a stream this means that its
items cut the octets of the source into ranges without a gap and without an overlap, each of which
holds the octets of one token.  Both are in `octets_between_cursors`.

The octets are those of the standard encoding: by `Text.utf8_ofString` they are the bytes of the
string, if a text is one.  Lone surrogates, which no string contains, have three octets like their
neighbours.
-/
import Lexeme.Proofs.Extraction
import Lexeme.Proofs.Lexers
import Lexeme.Proofs.Streams
import Mathlib.Data.List.Forall2

namespace Lexeme

variable {κ : Type} {source : Source} {a b c d : Cursor}

/-! ## The encoding -/

lemma CodePoint.utf8_ofChar (c : Char) : (ofChar c).utf8 = String.utf8EncodeChar c := by
  have hlt : c.val.toNat < 0x110000 := (ofChar c).val_lt
  have hval : (ofChar c).val = c.val.toNat := rfl
  simp only [utf8, String.utf8EncodeChar, hval, Nat.toUInt8_eq, ← Nat.lt_succ_iff,
    Nat.add_comm 0xC0, Nat.add_comm 0xE0, Nat.add_comm 0xF0, Nat.add_comm 0x80]
  generalize c.val.toNat = n at hlt
  -- the leading octet has room for the bits that are left over
  by_cases h₁ : n < 0x80
  · rw [if_pos h₁, if_pos h₁]
  · rw [if_neg h₁, if_neg h₁]
    by_cases h₂ : n < 0x800
    · rw [if_pos h₂, if_pos h₂, show n / 64 % 32 = n / 64 by omega]
    · rw [if_neg h₂, if_neg h₂]
      by_cases h₃ : n < 0x10000
      · rw [if_pos h₃, if_pos h₃, show n / 4096 % 16 = n / 4096 by omega]
      · rw [if_neg h₃, if_neg h₃, show n / 262144 % 8 = n / 262144 by omega]

/-- The octets of a text that is a string are the bytes of the string. -/
theorem Text.utf8_ofString (s : String) : utf8 (ofString s) = s.toByteArray.data.toList := by
  have hencode : s.toByteArray = s.toList.utf8Encode := by
    rw [← String.toByteArray_ofList, String.ofList_toList]
  rw [hencode, List.utf8Encode, List.data_toByteArray, utf8, ofString, List.flatMap_map]
  simp only [CodePoint.utf8_ofChar]

/-! ## Reachable cursors -/

namespace Cursor

/-- The octets from an exact cursor on are those of what is skipped. -/
lemma Exact.octets_skip (h : c.Exact) (n : Nat) :
    (Text.utf8 c.source.text).extract c.bytePos (c.skip n).bytePos =
      Text.utf8 (c.rest.take n) := by
  have hsplit : c.source.text = c.source.text.take c.pos ++ (c.rest.take n ++ c.rest.drop n) := by
    rw [List.take_append_drop, c.rest_eq, List.take_append_drop]
  have hbefore : (Text.utf8 (c.source.text.take c.pos)).length = c.bytePos := by
    rw [Text.length_utf8, h.bytePos_eq]
  have hpiece : (Text.utf8 (c.rest.take n)).length = (c.skip n).bytePos - c.bytePos := by
    rw [Text.length_utf8, skip_bytePos, Nat.add_sub_cancel_left]
  have hoctets := congrArg Text.utf8 hsplit
  rw [Text.utf8_append, Text.utf8_append] at hoctets
  rw [List.extract_eq_take_drop, hoctets, List.drop_left' hbefore, List.take_left' hpiece]

/-- Of two exact cursors over one source, the later one skips what lies between them. -/
lemma Exact.eq_skip (ha : a.Exact) (hb : b.Exact) (hsource : b.source = a.source)
    (hle : a.pos ≤ b.pos) : b.pos - a.pos ≤ a.rest.length ∧ b = a.skip (b.pos - a.pos) := by
  have hlen := a.length_rest
  have hpos := hb.pos_le
  rw [hsource] at hpos
  have hn : b.pos - a.pos ≤ a.rest.length := by omega
  have hskip := ha.skip hn
  refine ⟨hn, Cursor.ext hsource (by rw [skip_pos]; omega) ?_⟩
  rw [hb.bytePos_eq, hskip.bytePos_eq, skip_source, skip_pos, hsource,
    Nat.add_sub_cancel' hle]

lemma bytePos_lt_skip_iff {n : Nat} (hn : n ≤ c.rest.length) :
    c.bytePos < (c.skip n).bytePos ↔ 0 < n := by
  rw [← progress_skip_iff hn]
  exact ⟨fun h => ⟨rfl, Nat.le_add_right _ _, h⟩, fun h => h.bytePos_lt⟩

/-- The cursors over a source that can be come by: they are placed inside it, and then moved. -/
inductive Reachable (source : Source) : Cursor → Prop
  | placed {pos : Int} {c : Cursor} (h : atOffset source pos = .ok c) : Reachable source c
  | moved {c d : Cursor} (hc : Reachable source c) (hmove : c.Move d) : Reachable source d

namespace Reachable

lemma start (source : Source) : (Cursor.start source).Reachable source :=
  .placed (show atOffset source 0 = _ by rw [atOffset, if_pos (by simp)]; rfl)

lemma reaches (hc : c.Reachable source) (h : c.Reaches d) : d.Reachable source := by
  induction h with
  | refl => exact hc
  | tail _ hmove ih => exact ih.moved hmove

lemma source_eq (h : c.Reachable source) : c.source = source := by
  induction h with
  | placed h =>
    rw [atOffset] at h
    split at h
    · cases h
      rfl
    · cases h
  | moved _ hmove ih => exact hmove.reaches.monotone.1.trans ih

lemma exact (h : c.Reachable source) : c.Exact := by
  induction h with
  | placed h => exact exact_of_atOffset h
  | moved _ hmove ih => exact ih.reaches hmove.reaches

lemma eq_skip (ha : a.Reachable source) (hb : b.Reachable source) (hle : a.pos ≤ b.pos) :
    b.pos - a.pos ≤ a.rest.length ∧ b = a.skip (b.pos - a.pos) :=
  ha.exact.eq_skip hb.exact (hb.source_eq.trans ha.source_eq.symm) hle

/-- Between the octet counts of two cursors are the octets of the text between them. -/
lemma octets_between (ha : a.Reachable source) (hb : b.Reachable source) (hle : a.pos ≤ b.pos) :
    ∃ t, b.textSince a = .ok t ∧
      (Text.utf8 source.text).extract a.bytePos b.bytePos = Text.utf8 t := by
  obtain ⟨-, hskip⟩ := ha.eq_skip hb hle
  have hoctets := ha.exact.octets_skip (b.pos - a.pos)
  rw [ha.source_eq, ← hskip] at hoctets
  refine ⟨_, ?_, hoctets⟩
  have htext := a.textSince_skip (b.pos - a.pos)
  rw [← hskip] at htext
  exact htext

/-- Cursors are in the same order by code points and by octets. -/
lemma pos_lt_iff (ha : a.Reachable source) (hb : b.Reachable source) :
    a.pos < b.pos ↔ a.bytePos < b.bytePos := by
  rcases Nat.le_total a.pos b.pos with hle | hle
  · obtain ⟨hn, hskip⟩ := ha.eq_skip hb hle
    have hlt := bytePos_lt_skip_iff hn
    rw [← hskip] at hlt
    omega
  · obtain ⟨-, hskip⟩ := hb.eq_skip ha hle
    have hbytes := congrArg bytePos hskip
    rw [skip_bytePos] at hbytes
    omega

end Reachable

end Cursor

/-! ## Tilings -/

/-- Ranges that cover everything from `low` to `high`, one right after the other, none empty. -/
inductive Tiles : Nat → List (Nat × Nat) → Nat → Prop
  | nil (n : Nat) : Tiles n [] n
  | cons {low mid high : Nat} {ranges : List (Nat × Nat)} (hlt : low < mid)
      (hrest : Tiles mid ranges high) : Tiles low ((low, mid) :: ranges) high

lemma Tiles.snoc {low mid high : Nat} {ranges : List (Nat × Nat)} (h : Tiles low ranges mid)
    (hlt : mid < high) : Tiles low (ranges ++ [(mid, high)]) high := by
  induction h with
  | nil n => exact .cons hlt (.nil high)
  | cons hfirst _ ih => exact .cons hfirst (ih hlt)

/-! ## Streams -/

namespace Stream

variable {stream : Stream} {t : Turn κ} {tokens : List (κ × Text)}
  {stages : List (Pull.Stage (Turn κ) (Item κ) Stream)}

/-- The range of octets that a pull has passed, if it gave an item. -/
def range? (g : Pull.Stage (Turn κ) (Item κ) Stream) : Option (Nat × Nat) :=
  g.result.item?.map fun _ => (g.before.session.cursor.bytePos, g.after.session.cursor.bytePos)

/-- The ranges of octets that the items of a course have passed. -/
def ranges (stages : List (Pull.Stage (Turn κ) (Item κ) Stream)) : List (Nat × Nat) :=
  stages.filterMap range?

/-- The items of a stream that has not failed cut what it has passed into texts, and the octets of
what it has passed into the octets of these texts. -/
structure Tiled (source : Source) (stages : List (Pull.Stage (Turn κ) (Item κ) Stream))
    (tokens : List (κ × Text)) (stream : Stream) : Prop where
  reachable : stream.session.cursor.Reachable source
  items_eq : Pull.itemsOf stages = tokens.map Lexer.sizedOf
  texts_eq : (tokens.map Prod.snd).flatten = source.text.take stream.session.cursor.pos
  tiles : Tiles 0 (ranges stages) stream.session.cursor.bytePos
  octets : List.Forall₂ (fun range token =>
    (Text.utf8 source.text).extract range.1 range.2 = Text.utf8 token.2) (ranges stages) tokens
  done_of_stop : Pull.stop ∈ stages.map Pull.Stage.result → stream.done = true
  pos_of_done : stream.done = true → stream.session.cursor.pos = source.text.length

lemma tiled_start {errorKind : ErrorKind κ} {limit : Limit} {trace : Trace}
    {convert : Conversion κ} (h : start source errorKind limit trace = .ok (convert, stream)) :
    Tiled source [] ([] : List (κ × Text)) stream := by
  obtain ⟨-, rfl⟩ := eq_of_start h
  exact
    { reachable := .start source
      items_eq := rfl
      texts_eq := rfl
      tiles := .nil 0
      octets := .nil
      done_of_stop := by simp
      pos_of_done := by simp }

lemma ranges_snoc (stages : List (Pull.Stage (Turn κ) (Item κ) Stream)) (t : Turn κ)
    (stream : Stream) :
    ranges (stages ++ [Pull.stage turn t stream]) =
      ranges stages ++ (range? (Pull.stage turn t stream)).toList := by
  rw [ranges, List.filterMap_append]
  cases h : range? (Pull.stage turn t stream) <;> simp [ranges, h]

namespace Tiled

/-- An item adds its piece. -/
lemma snoc_item (h : Tiled source stages tokens stream) {kind : κ} {n : Nat} {stream' : Stream}
    (hpos : 0 < n) (hn : n ≤ stream.session.cursor.rest.length)
    (hturn : stream.turn t = (.item (.sized kind n), stream'))
    (hcursor : stream'.session.cursor = stream.session.cursor.skip n)
    (hdone : stream.done = false) (hdone' : stream'.done = false) :
    Tiled source (stages ++ [Pull.stage turn t stream])
      (tokens ++ [(kind, stream.session.cursor.rest.take n)]) stream' := by
  have hrange : ranges (stages ++ [Pull.stage turn t stream]) = ranges stages ++
      [(stream.session.cursor.bytePos, (stream.session.cursor.skip n).bytePos)] := by
    rw [ranges_snoc]
    simp [range?, Pull.stage, hturn, Pull.item?, hcursor]
  have hoctets := h.reachable.exact.octets_skip n
  rw [h.reachable.source_eq] at hoctets
  refine
    { reachable := ?_
      items_eq := ?_
      texts_eq := ?_
      tiles := ?_
      octets := ?_
      done_of_stop := ?_
      pos_of_done := by simp [hdone'] }
  · rw [hcursor]
    exact h.reachable.reaches (Cursor.reaches_skip hn)
  · rw [Pull.itemsOf_snoc, h.items_eq, hturn]
    simp [Pull.item?, Lexer.sizedOf, hn]
  · have htake := stream.session.cursor.take_skip n
    rw [Cursor.skip_source, h.reachable.source_eq, ← h.texts_eq] at htake
    rw [hcursor, htake]
    simp
  · rw [hrange, hcursor]
    exact h.tiles.snoc ((Cursor.bytePos_lt_skip_iff hn).2 hpos)
  · rw [hrange]
    exact List.rel_append h.octets (.cons hoctets .nil)
  · intro hstop
    have hstop' : Pull.stop ∈ stages.map Pull.Stage.result := by
      rw [Pull.results_snoc, hturn] at hstop
      simpa using hstop
    exact absurd (h.done_of_stop hstop') (by simp [hdone])

/-- Stopping adds nothing. -/
lemma snoc_stop (h : Tiled source stages tokens stream) {stream' : Stream}
    (hturn : stream.turn t = (.stop, stream'))
    (hcursor : stream'.session.cursor = stream.session.cursor) (hdone : stream'.done = true)
    (hend : stream.session.cursor.pos = source.text.length) :
    Tiled source (stages ++ [Pull.stage turn t stream]) tokens stream' := by
  have hrange : ranges (stages ++ [Pull.stage turn t stream]) = ranges stages := by
    rw [ranges_snoc]
    simp [range?, Pull.stage, hturn, Pull.item?]
  exact
    { reachable := by rw [hcursor]; exact h.reachable
      items_eq := by rw [Pull.itemsOf_snoc, h.items_eq, hturn]; simp [Pull.item?]
      texts_eq := by rw [hcursor]; exact h.texts_eq
      tiles := by rw [hrange, hcursor]; exact h.tiles
      octets := by rw [hrange]; exact h.octets
      done_of_stop := fun _ => hdone
      pos_of_done := fun _ => by rw [hcursor]; exact hend }

/-- One pull that does not fail adds its piece, or nothing. -/
lemma turn (h : Tiled source stages tokens stream) (hmoves : t.classify.OnlyMoves)
    (hna : t.classify.NeverAttaches) (hok : ∀ f, (stream.turn t).1 ≠ .fault f) :
    ∃ tokens', Tiled source (stages ++ [Pull.stage turn t stream]) tokens' (stream.turn t).2 := by
  cases hdone : stream.done with
  | true =>
    have hturn := turn_of_done hdone t
    rw [hturn]
    exact ⟨_, h.snoc_stop hturn rfl hdone (h.pos_of_done hdone)⟩
  | false =>
    rcases turn_cases hdone t with ⟨item, s, hx, hturn⟩ | ⟨s, hx, hturn⟩ | ⟨f, s, -, hturn⟩
    · obtain ⟨kind, n, hpos, hn, hitem, hcursor⟩ := extract_eq_some hmoves hna hx
      rw [hitem, Item.ofKind_ofPiece kind hn] at hturn
      rw [hturn]
      exact ⟨_, h.snoc_item hpos hn hturn hcursor hdone hdone⟩
    · rcases extract_sized hna hx with ⟨hend, -, rfl⟩ | ⟨kind, n, hitem, -, -⟩
      · have hle := (Cursor.atEnd_iff _).1 hend
        have hpos := h.reachable.exact.pos_le
        rw [h.reachable.source_eq] at hle hpos
        rw [hturn]
        exact ⟨_, h.snoc_stop hturn rfl rfl (Nat.le_antisymm hpos hle)⟩
      · exact absurd hitem (by simp)
    · exact absurd (congrArg Prod.fst hturn) (hok _)

end Tiled

lemma tiled_course {errorKind : ErrorKind κ} {limit : Limit} {trace : Trace}
    {convert : Conversion κ} (hstart : start source errorKind limit trace = .ok (convert, stream))
    (turns : List (Turn κ))
    (hturns : ∀ t ∈ turns, t.classify.OnlyMoves ∧ t.classify.NeverAttaches)
    (hok : ∀ f, Pull.fault f ∉ (Pull.course turn turns stream).1.map Pull.Stage.result) :
    ∃ tokens, Tiled source (Pull.course turn turns stream).1 tokens
      (Pull.course turn turns stream).2 := by
  refine Pull.course_invariant (P := fun stages stream =>
    (∀ f, Pull.fault f ∉ stages.map Pull.Stage.result) →
      ∃ tokens, Tiled source stages tokens stream) ?_ ?_ hok
  · exact fun _ => ⟨[], tiled_start hstart⟩
  · intro t ht stages stream' ih hok
    simp only [Pull.results_snoc, List.mem_append, List.mem_singleton, not_or] at hok
    obtain ⟨hmoves, hna⟩ := hturns t ht
    obtain ⟨tokens, h⟩ := ih fun f => (hok f).1
    exact h.turn hmoves hna fun f => Ne.symm (hok f).2

end Stream

/-- **The octet counts of cursors are offsets into the octets of the source**, which are the bytes
of a string if the source is one.  Between the counts of two cursors over a source lie the octets
of the text between them, and the cursors are in the same order by code points and by octets.  So
the items of a stream that comes to its end without a failure cut the octets of the source into
ranges, each of which holds the octets of the text of one item. -/
theorem octets_between_cursors (source : Source) :
    (∀ s : String, source.text = Text.ofString s →
      Text.utf8 source.text = s.toByteArray.data.toList) ∧
    (∀ a b : Cursor, a.Reachable source → b.Reachable source →
      (a.pos < b.pos ↔ a.bytePos < b.bytePos) ∧
      (a.pos ≤ b.pos → ∃ t, b.textSince a = .ok t ∧
        (Text.utf8 source.text).extract a.bytePos b.bytePos = Text.utf8 t)) ∧
    ∀ {κ : Type} {errorKind : ErrorKind κ} {limit : Limit} {trace : Trace}
      {convert : Conversion κ} {stream : Stream},
      Stream.start source errorKind limit trace = .ok (convert, stream) →
      ∀ turns : List (Turn κ),
        (∀ t ∈ turns, t.classify.OnlyMoves ∧ t.classify.NeverAttaches) →
        Pull.stop ∈ (Pull.course Stream.turn turns stream).1.map Pull.Stage.result →
        (∀ f, Pull.fault f ∉ (Pull.course Stream.turn turns stream).1.map Pull.Stage.result) →
        ∃ tokens : List (κ × Text),
          Pull.itemsOf (Pull.course Stream.turn turns stream).1 = tokens.map Lexer.sizedOf ∧
          (tokens.map Prod.snd).flatten = source.text ∧
          Tiles 0 (Stream.ranges (Pull.course Stream.turn turns stream).1)
            (Text.utf8 source.text).length ∧
          List.Forall₂ (fun range token =>
            (Text.utf8 source.text).extract range.1 range.2 = Text.utf8 token.2)
            (Stream.ranges (Pull.course Stream.turn turns stream).1) tokens := by
  refine ⟨fun s hs => by rw [hs, Text.utf8_ofString],
    fun a b ha hb => ⟨ha.pos_lt_iff hb, ha.octets_between hb⟩, ?_⟩
  intro κ errorKind limit trace convert stream hstart turns hturns hstop hok
  obtain ⟨tokens, h⟩ := Stream.tiled_course hstart turns hturns hok
  -- the stream has stopped, so its cursor has passed the whole source
  have hend := h.pos_of_done (h.done_of_stop hstop)
  have htexts := h.texts_eq
  have hbytes := h.reachable.exact.bytePos_eq
  rw [h.reachable.source_eq] at hbytes
  rw [hend, List.take_length] at htexts hbytes
  refine ⟨tokens, h.items_eq, htexts, ?_, h.octets⟩
  rw [Text.length_utf8, ← hbytes]
  exact h.tiles

/-- A source with code points of all widths, one of which is a lone surrogate. -/
def mixed : Source :=
  ⟨0, [.ofChar 'a', .ofChar 'é', .ofChar '€', ⟨0xD800, Nat.le_of_ble_eq_true rfl⟩, .ofChar '😀']⟩

/-- A classifier that consumes `n` code points. -/
def taking (n : Nat) : Scan (Outcome Nat) := do
  let _ ← Scan.consume n
  pure (.kind n)

/-- Turns that consume two code points, two more, and one, and then come to the end. -/
def takingTurns : List (Turn Nat) :=
  [2, 2, 1, 1].map fun n => ⟨taking n, fun _ => .ok 0⟩

theorem octets_between_cursors_mixed :
    (∃ t, (Cursor.place mixed 4 9).textSince (Cursor.place mixed 1 1) = .ok t ∧
      (Text.utf8 mixed.text).extract 1 9 = Text.utf8 t) ∧
    ∃ convert stream, Stream.start mixed (.function fun _ => .ok 0) = .ok (convert, stream) ∧
      Stream.ranges (Pull.course Stream.turn takingTurns stream).1 = [(0, 3), (3, 9), (9, 13)] ∧
      ∃ tokens : List (Nat × Text), (tokens.map Prod.snd).flatten = mixed.text ∧
        Tiles 0 [(0, 3), (3, 9), (9, 13)] (Text.utf8 mixed.text).length ∧
        List.Forall₂ (fun range token =>
          (Text.utf8 mixed.text).extract range.1 range.2 = Text.utf8 token.2)
          [(0, 3), (3, 9), (9, 13)] tokens := by
  obtain ⟨-, hcursors, hstreams⟩ := octets_between_cursors mixed
  have hfirst : (Cursor.place mixed 1 1).Reachable mixed :=
    .placed (show Cursor.atOffset mixed 1 = _ from rfl)
  have hlast : (Cursor.place mixed 4 9).Reachable mixed :=
    .placed (show Cursor.atOffset mixed 4 = _ from rfl)
  have hturns : ∀ t ∈ takingTurns, t.classify.OnlyMoves ∧ t.classify.NeverAttaches := by
    intro t ht
    obtain ⟨n, -, rfl⟩ := List.mem_map.1 ht
    exact ⟨.bind (.consume n) fun _ => .pure _,
      Classifier.neverAttaches_bind fun _ => Classifier.neverAttaches_pure rfl⟩
  have hstart : Stream.start mixed (.function fun _ => .ok 0) = .ok (_, _) := rfl
  have hresults : (Pull.course Stream.turn takingTurns
      { session := (Session.start mixed).record (.started 5) }).1.map Pull.Stage.result =
        [.item (.sized 2 2), .item (.sized 2 2), .item (.sized 1 1), .stop] := rfl
  obtain ⟨tokens, -, htexts, htiles, hoctets⟩ := hstreams hstart takingTurns hturns
    (hresults ▸ by simp) (hresults ▸ by simp)
  exact ⟨(hcursors _ _ hfirst hlast).2 (by decide), _, _, hstart, rfl, tokens, htexts, htiles,
    hoctets⟩

end Lexeme
