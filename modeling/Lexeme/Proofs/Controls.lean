/-
# Control characters in formatted diagnostics

A formatter writes four control characters of a foreign text as escapes: the newline, the return,
the tab and the escape character.  The others stand for themselves, and among them are some that
break a line, as `0x85` does, or begin a sequence that drives a terminal, as `0x9B` does.

The main result, `controls_written_iff`, says of the layouts for readers, without colours, which
control characters come through: each of the others that a foreign text has before the cut, and none
besides the newlines between the lines.  By `controls_come_through` there are such ones in both
layouts.
-/
import Lexeme.Proofs.Layouts

namespace Lexeme

namespace Formatter

variable {f : Formatter} {d : Diagnostic} {c : CodePoint} {layout : Layout}

/-- Without colours, a severity is a plain word. -/
lemma severityMark_plain (hcolor : f.color = false) (d : Diagnostic) : (f.severityMark d).Plain := by
  rw [severityMark, hcolor]
  cases isWarning d <;> decide

/-- Besides the newlines between the lines, a control character is written only where a foreign
text has it. -/
lemma mem_render_iff (hcolor : f.color = false) (hlayout : layout = .rust ∨ layout = .simple)
    (hc : c.isControl = true) (hne : c ≠ .newline) :
    c ∈ f.render d layout ↔ isEscaped c = false ∧ ∃ t ∈ foreign d layout, f.Exposes t c := by
  have hreaders : layout ≠ .json := by
    rintro rfl
    simp at hlayout
  have hjoint : c ∉ [CodePoint.newline] := by
    rwa [List.mem_singleton]
  rw [render_eq_joined, Text.mem_joined_iff hjoint,
    exists_mem_lines_iff hc ((severityMark_plain hcolor d).not_mem hc) hreaders]
  simp only [mem_contents_iff hc]
  constructor
  · rintro ⟨t, ht, hself, hexposes⟩
    exact ⟨hself, t, ht, hexposes⟩
  · rintro ⟨hself, t, ht, hexposes⟩
    exact ⟨t, ht, hself, hexposes⟩

/-- **Which control characters come through.**  Let a formatter without colours write a diagnostic
in one of the layouts for readers.  There are as many newlines as it takes to join the lines.  Any
other control character is written exactly if it is not one of the four that are escaped and a
foreign text has it before the cut.  So the newlines are the only control characters exactly if
all that the foreign texts have before the cut are among the four. -/
theorem controls_written_iff (hcolor : f.color = false) (hf : f.layout = some layout)
    (hlayout : layout = .rust ∨ layout = .simple) :
    ∃ out, f.format d = some out ∧ (out.splitOn .newline).length = lineCount d layout ∧
      (∀ c : CodePoint, c.isControl = true → c ≠ .newline →
        (c ∈ out ↔ isEscaped c = false ∧ ∃ t ∈ foreign d layout, f.Exposes t c)) ∧
      ((∀ c ∈ out, c.isControl = true → c = .newline) ↔
        ∀ t ∈ foreign d layout, ∀ c : CodePoint, f.Exposes t c → c.isControl = true →
          isEscaped c = true) := by
  refine ⟨f.render d layout, format_of_layout hf d, ?_, ?_, ?_⟩
  · rw [splitOn_render, length_lines]
  · intro c hc hne
    exact mem_render_iff hcolor hlayout hc hne
  · constructor
    · intro hjoints t ht c hexposes hc
      by_contra hself
      rw [Bool.not_eq_true] at hself
      -- the newline is one of the four
      have hne : c ≠ .newline := by
        rintro rfl
        cases hself
      exact hne (hjoints c ((mem_render_iff hcolor hlayout hc hne).mpr ⟨hself, t, ht, hexposes⟩) hc)
    · intro hescaped c hmem hc
      by_contra hne
      obtain ⟨hself, t, ht, hexposes⟩ := (mem_render_iff hcolor hlayout hc hne).mp hmem
      rw [hescaped t ht c hexposes hc] at hself
      cases hself

/-- The bell rings behind an escaped newline, where nothing is cut off. -/
theorem controls_written_iff_bell :
    let f : Formatter := {}
    let bell : CodePoint := .ofChar '\x07'
    let d : Diagnostic :=
      { code := .noProgress, message := [], hint := Text.ofString "\n\x07" }
    f.color = false ∧ f.layout = some .rust ∧ bell.isControl = true ∧
      ∃ out, f.format d = some out ∧ (out.splitOn .newline).length = 2 ∧ bell ∈ out := by
  intro f bell d
  obtain ⟨out, hout, hlines, hwritten, -⟩ :=
    controls_written_iff (f := f) (d := d) rfl rfl (Or.inl rfl)
  have hexposes : f.Exposes (Text.ofString "\n\x07") bell :=
    ⟨[.newline], [], rfl, by decide⟩
  have hbell := (hwritten bell rfl (by decide)).mpr
    ⟨rfl, Text.ofString "\n\x07", by decide, hexposes⟩
  exact ⟨rfl, rfl, rfl, out, hout, hlines, hbell⟩

/-- **Control characters come through**, in both layouts for readers.  A message breaks the only line
of the one layout with the code `0x85`, and in the other a hint begins a sequence for the terminal
with the code `0x9B`. -/
theorem controls_come_through :
    let d : Diagnostic := { code := .unexpectedInput, message := Text.ofString "a\u0085b" }
    let e : Diagnostic :=
      { code := .unexpectedInput, message := [], hint := Text.ofString "\u009b2J" }
    let broken := Text.ofString "UNEXPECTED_INPUT: a\u0085b"
    let driving := Text.ofString "error[UNEXPECTED_INPUT]: \n  = help: \u009b2J"
    (({ layout := some .simple } : Formatter).format d = some broken ∧
      ∃ c ∈ broken, c.isControl = true ∧ c ≠ .newline) ∧
    ({ layout := some .rust } : Formatter).format e = some driving ∧
      ∃ c ∈ driving, c.isControl = true ∧ c ≠ .newline := by
  intro d e broken driving
  refine ⟨⟨rfl, .ofChar '\u0085', by decide, rfl, by decide⟩,
    rfl, .ofChar '\u009b', by decide, rfl, by decide⟩

end Formatter

end Lexeme
