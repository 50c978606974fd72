/-
# Lines and blocks of formatted diagnostics

A diagnostic is written in lines, and several diagnostics in blocks with a blank line between each
two.  Foreign texts stand in these lines, but they cannot break one: no line holds a newline, and no
line is empty.  So the lines can be found again by cutting at every newline, and the blocks by
cutting at every blank line.

* `rust_unforgeable`: in the layout of compilers a diagnostic has a line for its head, one for its
  place if it has one and one for its hint if that is not empty, and nothing that looks like one of
  these in a message or a hint is mistaken for it.
* `formatAll_splits`: cut at the blank lines, a report falls into its diagnostics, in any layout.
-/
import Lexeme.Proofs.Contents

namespace Lexeme

namespace Text

variable {separator part line t : Text} {parts lines : List Text} {c : CodePoint}

/-! ## Cutting at a separator -/

lemma mem_joined_iff (hc : c ∉ separator) :
    c ∈ joined separator parts ↔ ∃ part ∈ parts, c ∈ part := by
  cases parts with
  | nil => simp
  | cons part parts => simp [joined_cons, hc]

/-- The pieces of a text between the occurrences of a separator.  The occurrences are found from
left to right, and they do not overlap. -/
def split (separator : Text) : Text → List Text
  | [] => [[]]
  | c :: t =>
    if separator ≠ [] ∧ separator <+: c :: t then
      [] :: split separator ((c :: t).drop separator.length)
    else (split separator t).modifyHead (c :: ·)
termination_by t => t.length
decreasing_by
  all_goals simp_wf
  have hpos := List.length_pos_iff.mpr (‹separator ≠ [] ∧ _›).1
  omega

/-- Of three newlines the first two are taken for a blank line. -/
example : split (ofString "\n\n") (ofString "a\n\n\nb") = [ofString "a", ofString "\nb"] := by
  cbv

/-- No occurrence of the separator begins inside the part, not even one that ends in a separator
right behind the part. -/
def Apart (separator : Text) : Text → Prop
  | [] => True
  | c :: part => ¬ separator <+: c :: part ++ separator ∧ Apart separator part

lemma split_append (hne : separator ≠ []) (h : Apart separator part) (t : Text) :
    split separator (part ++ separator ++ t) = part :: split separator t := by
  induction part with
  | nil =>
    obtain ⟨x, separator, rfl⟩ := List.exists_cons_of_ne_nil hne
    rw [List.nil_append, List.cons_append, split,
      if_pos ⟨hne, List.prefix_append (x :: separator) t⟩, ← List.cons_append, List.drop_left]
  | cons c part ih =>
    have hnot : ¬ separator <+: c :: (part ++ separator ++ t) := by
      intro hoccurs
      -- the occurrence is over before `t` begins
      have hlength : separator.length ≤ (c :: part ++ separator).length := by
        simp only [List.length_append]
        omega
      exact h.1 (List.prefix_of_prefix_length_le hoccurs ⟨t, by simp⟩ hlength)
    rw [List.cons_append, List.cons_append, split, if_neg (fun hp => hnot hp.2), ih h.2]
    rfl

lemma split_of_apart (h : Apart separator part) : split separator part = [part] := by
  induction part with
  | nil => rw [split]
  | cons c part ih =>
    have hnot : ¬ separator <+: c :: part :=
      fun hoccurs => h.1 (hoccurs.trans (List.prefix_append _ _))
    rw [split, if_neg (fun hp => hnot hp.2), ih h.2]
    rfl

/-- Cutting undoes joining, if no part can be mistaken for a place where two are joined. -/
lemma split_joined (hne : separator ≠ []) (hparts : parts ≠ [])
    (h : ∀ part ∈ parts, Apart separator part) :
    split separator (joined separator parts) = parts := by
  induction parts with
  | nil => exact absurd rfl hparts
  | cons part parts ih =>
    have hpart := h part List.mem_cons_self
    cases parts with
    | nil => rw [joined_singleton, split_of_apart hpart]
    | cons next parts =>
      rw [joined_cons_cons, split_append hne hpart,
        ih (List.cons_ne_nil next parts) fun p hp => h p (List.mem_cons_of_mem part hp)]

/-! ## Blank lines -/

/-- The two newlines around a blank line. -/
def blankLine : Text := [.newline, .newline]

lemma apart_append (hline : .newline ∉ line) (h : Apart blankLine t) :
    Apart blankLine (line ++ t) := by
  induction line with
  | nil => exact h
  | cons c line ih =>
    rw [List.mem_cons, not_or] at hline
    refine ⟨fun hoccurs => hline.1 ?_, ih hline.2⟩
    exact (List.cons_prefix_cons.mp hoccurs).1

/-- There is no blank line in a text whose lines are not empty. -/
lemma apart_joined (h : ∀ line ∈ lines, line ≠ [] ∧ .newline ∉ line) :
    Apart blankLine (joined [.newline] lines) := by
  induction lines with
  | nil => trivial
  | cons line lines ih =>
    obtain ⟨-, hline⟩ := h line List.mem_cons_self
    cases lines with
    | nil =>
      rw [joined_singleton, ← List.append_nil line]
      exact apart_append hline trivial
    | cons next lines =>
      obtain ⟨hne, hnext⟩ := h next (by simp)
      obtain ⟨x, next, rfl⟩ := List.exists_cons_of_ne_nil hne
      rw [joined_cons_cons, List.append_assoc]
      refine apart_append hline ⟨fun hoccurs => ?_, ih fun l hl => h l (List.mem_cons_of_mem _ hl)⟩
      -- the newline that ends the line is followed by the first code point of the next one
      rw [joined_cons] at hoccurs
      obtain ⟨rfl, -⟩ := List.cons_prefix_cons.mp (List.cons_prefix_cons.mp hoccurs).2
      exact hnext List.mem_cons_self

end Text

/-! ## Numerals and objects on one line -/

namespace Numeral

lemma decimal_plain (n : Nat) : (decimal n).Plain := by
  intro c hmem
  have hdigit := isDigit_of_mem_decimal n c hmem
  simp only [CodePoint.isDigit, Bool.and_eq_true, decide_eq_true_eq] at hdigit
  simp only [CodePoint.isControl, Bool.or_eq_false_iff, Bool.and_eq_false_iff,
    decide_eq_false_iff_not]
  omega

lemma hexDigit_not_isControl (d : Nat) : (hexDigit d).isControl = false := by
  simp only [CodePoint.isControl, Bool.or_eq_false_iff, Bool.and_eq_false_iff,
    decide_eq_false_iff_not]
  unfold hexDigit
  split_ifs <;> dsimp only <;> omega

lemma hex_plain (places n : Nat) : (hex places n).Plain := by
  induction places generalizing n with
  | zero => exact fun _ hmem => absurd hmem List.not_mem_nil
  | succ places ih =>
    refine (ih (n / 16)).append fun c hmem => ?_
    rw [List.mem_singleton.mp hmem, hexDigit_not_isControl]

end Numeral

namespace Json

lemma newline_not_mem_escape (c : CodePoint) : .newline ∉ escape c := by
  unfold escape
  split_ifs with hquote hback hnl hcr htab hff hbs hlow
  · decide
  · decide
  · decide
  · decide
  · decide
  · decide
  · decide
  · rw [List.mem_append, not_or]
    exact ⟨by decide, (Numeral.hex_plain 4 c.val).not_mem rfl⟩
  · rw [List.mem_singleton]
    exact Ne.symm hnl

lemma newline_not_mem_string (t : Text) : .newline ∉ string t := by
  simp only [string, List.cons_append, List.mem_cons, List.mem_append, List.mem_flatMap, not_or,
    not_exists, not_and]
  exact ⟨by decide, fun c _ => newline_not_mem_escape c, by decide, List.not_mem_nil⟩

lemma newline_not_mem_field (name : String) (value : Value) : .newline ∉ field name value := by
  have hvalue : .newline ∉ value.render := by
    cases value with
    | string t => exact newline_not_mem_string t
    | number n => exact (Numeral.decimal_plain n).not_mem rfl
  simp only [field, List.mem_append, not_or]
  exact ⟨⟨newline_not_mem_string _, by decide⟩, hvalue⟩

lemma newline_not_mem_object (fields : List (String × Value)) : .newline ∉ object fields := by
  simp only [object, List.mem_append, not_or]
  refine ⟨⟨by decide, ?_⟩, by decide⟩
  rw [Text.mem_joined_iff (by decide)]
  rintro ⟨part, hpart, hmem⟩
  obtain ⟨⟨name, value⟩, -, rfl⟩ := List.mem_map.mp hpart
  exact newline_not_mem_field name value hmem

end Json

namespace Formatter

variable {f : Formatter} {d e : Diagnostic} {c : CodePoint} {layout : Layout}

/-! ## The lines of a diagnostic -/

/-- The line with the severity, the code and the message. -/
def headLine (f : Formatter) (d : Diagnostic) : Text :=
  f.severityMark d ++ Text.ofString "[" ++ d.code.name ++ Text.ofString "]: " ++
    f.contents d.message

/-- The line with the hint. -/
def helpLine (hint : Text) : Text :=
  Text.ofString "  = help: " ++ hint

lemma rustLines_eq (f : Formatter) (d : Diagnostic) :
    f.rustLines d =
      f.headLine d :: ((d.span.map placeLine).toList ++ ((f.hint? d).map helpLine).toList) :=
  rfl

/-- The lines in which a diagnostic is written. -/
def lines (f : Formatter) (d : Diagnostic) : Layout → List Text
  | .rust => f.rustLines d
  | .simple => [f.render d .simple]
  | .json => [f.render d .json]

lemma render_eq_joined (f : Formatter) (d : Diagnostic) (layout : Layout) :
    f.render d layout = Text.joined [.newline] (f.lines d layout) := by
  cases layout with
  | rust => rfl
  | simple => exact (Text.joined_singleton _ _).symm
  | json => exact (Text.joined_singleton _ _).symm

/-! ## What is foreign in the lines

All that a layout adds to the foreign texts is free of control characters, but for the colours. -/

/-- The foreign texts of a diagnostic that a layout writes by `contents`. -/
def foreign (d : Diagnostic) : Layout → List Text
  | .simple => [d.message]
  | .rust | .json => d.message :: d.hint.toList

lemma name_plain (code : Code) : code.name.Plain := by
  cases code <;> decide

lemma placeLine_plain (s : SourceSpan) : (placeLine s).Plain := by
  have hline : (Text.ofString "  --> line ").Plain := by decide
  have hcolumn : (Text.ofString ", column ").Plain := by decide
  exact ((hline.append (Numeral.decimal_plain _)).append hcolumn).append (Numeral.decimal_plain _)

lemma mem_headLine_iff (hc : c.isControl = true) (hmark : c ∉ f.severityMark d) :
    c ∈ f.headLine d ↔ c ∈ f.contents d.message := by
  have hopen : (Text.ofString "[").Plain := by decide
  have hclose : (Text.ofString "]: ").Plain := by decide
  simp only [headLine, List.mem_append, hmark, hopen.not_mem hc, (name_plain _).not_mem hc,
    hclose.not_mem hc, false_or]

lemma mem_helpLine_iff (hc : c.isControl = true) (hint : Text) : c ∈ helpLine hint ↔ c ∈ hint := by
  have hhelp : (Text.ofString "  = help: ").Plain := by decide
  simp only [helpLine, List.mem_append, hhelp.not_mem hc, false_or]

/-- Of an empty hint nothing is written, and nothing would be. -/
lemma exists_mem_hint?_iff (hc : c.isControl = true) :
    (∃ hint ∈ (f.hint? d).toList, c ∈ hint) ↔ ∃ t ∈ d.hint.toList, c ∈ f.contents t := by
  unfold hint?
  rcases d.hint with _ | _ | ⟨x, t⟩
  · simp
  · have hnone : c ∉ f.contents [] := by
      rw [mem_contents_iff hc]
      rintro ⟨-, before, after, ht, -⟩
      simp at ht
    simp [hnone]
  · simp

lemma exists_mem_lines_iff (hc : c.isControl = true) (hmark : c ∉ f.severityMark d)
    (hlayout : layout ≠ .json) :
    (∃ line ∈ f.lines d layout, c ∈ line) ↔ ∃ t ∈ foreign d layout, c ∈ f.contents t := by
  cases layout with
  | json => exact absurd rfl hlayout
  | simple =>
    have hcolon : (Text.ofString ": ").Plain := by decide
    simp only [lines, foreign, render, List.mem_singleton, exists_eq_left, List.mem_append,
      (name_plain _).not_mem hc, hcolon.not_mem hc, false_or]
  | rust =>
    have hhint : (∃ line ∈ ((f.hint? d).map helpLine).toList, c ∈ line) ↔
        ∃ t ∈ d.hint.toList, c ∈ f.contents t := by
      rw [← exists_mem_hint?_iff hc]
      simp [mem_helpLine_iff hc]
    have hplace : ¬ ∃ line ∈ (d.span.map placeLine).toList, c ∈ line := by
      simp [(placeLine_plain _).not_mem hc]
    simp only [lines, foreign, rustLines_eq, List.mem_cons, List.mem_append, or_and_right, exists_or,
      exists_eq_left, mem_headLine_iff hc hmark, hhint]
    rw [or_iff_right hplace]

/-! ## Finding the lines again -/

lemma newline_not_mem_lines (f : Formatter) (d : Diagnostic) (layout : Layout) :
    ∀ line ∈ f.lines d layout, .newline ∉ line := by
  intro line hline hmem
  by_cases hlayout : layout = .json
  · subst hlayout
    obtain rfl := List.mem_singleton.mp hline
    exact Json.newline_not_mem_object _ hmem
  · have hmark : .newline ∉ f.severityMark d := by
      unfold severityMark
      split <;> decide
    obtain ⟨t, -, ht⟩ := (exists_mem_lines_iff rfl hmark hlayout).mp ⟨line, hline, hmem⟩
    exact newline_not_mem_contents f t ht

lemma ne_nil_of_mem_lines (f : Formatter) (d : Diagnostic) (layout : Layout) :
    ∀ line ∈ f.lines d layout, line ≠ [] := by
  intro line hline
  cases layout with
  | rust =>
    simp only [lines, rustLines_eq, List.mem_cons, List.mem_append, Option.mem_toList,
      Option.map_eq_some_iff] at hline
    rcases hline with rfl | ⟨s, -, rfl⟩ | ⟨hint, -, rfl⟩
    · simp [headLine, Text.ofString]
    · simp [placeLine, Text.ofString]
    · simp [helpLine, Text.ofString]
  | simple =>
    obtain rfl := List.mem_singleton.mp hline
    simp [render, Text.ofString]
  | json =>
    obtain rfl := List.mem_singleton.mp hline
    simp [render, Json.object, Text.ofString]

/-- Cut at its newlines, a diagnostic falls into its lines. -/
lemma splitOn_render (f : Formatter) (d : Diagnostic) (layout : Layout) :
    (f.render d layout).splitOn .newline = f.lines d layout := by
  have hne : f.lines d layout ≠ [] := by
    cases layout <;> exact List.cons_ne_nil _ _
  rw [render_eq_joined]
  exact List.splitOn_intercalate .newline (newline_not_mem_lines f d layout) hne

/-- The number of lines of a diagnostic. -/
def lineCount (d : Diagnostic) : Layout → Nat
  | .rust => 1 + (if d.span.isSome then 1 else 0) + (if d.hint.getD [] ≠ [] then 1 else 0)
  | .simple | .json => 1

lemma length_lines (f : Formatter) (d : Diagnostic) (layout : Layout) :
    (f.lines d layout).length = lineCount d layout := by
  cases layout with
  | rust =>
    have hplace : (d.span.map placeLine).toList.length = if d.span.isSome then 1 else 0 := by
      rcases d.span with _ | s <;> rfl
    have hhelp : ((f.hint? d).map helpLine).toList.length =
        if d.hint.getD [] ≠ [] then 1 else 0 := by
      unfold hint?
      rcases d.hint with _ | _ | ⟨x, t⟩ <;> rfl
    rw [lines, rustLines_eq, List.length_cons, List.length_append, hplace, hhelp, lineCount]
    omega
  | simple => rfl
  | json => rfl

/-! ## Reading the lines -/

/-- The severity ends where its word ends. -/
lemma severityMark_inj {u v : Text} (h : f.severityMark d ++ u = f.severityMark e ++ v) :
    isWarning d = isWarning e ∧ u = v := by
  have hsame : isWarning d = isWarning e := by
    unfold severityMark at h
    -- the words differ in their first letters, and the colours in their second digits
    have hfirst := congrArg List.head? h
    have hdigit := congrArg (fun t => t[5]?) h
    revert hfirst hdigit
    cases f.color <;> cases isWarning d <;> cases isWarning e <;>
      simp [Text.ofString, CodePoint.ofChar]
  refine ⟨hsame, ?_⟩
  rw [severityMark, severityMark, hsame] at h
  exact List.append_cancel_left h

/-- The name of a code ends at the bracket. -/
lemma name_readable :
    Readable (fun code : Code => code.name ++ Text.ofString "]: ") fun _ => True := by
  intro a b u v _ _ h
  have name (code : Code) (t : Text) :
      (code.name ++ Text.ofString "]: " ++ t).takeWhile (· ≠ .ofChar ']') = code.name := by
    have hbracket : ∀ c ∈ code.name, decide (c ≠ .ofChar ']') = true := by
      cases code <;> decide
    rw [List.append_assoc, List.takeWhile_append_of_pos hbracket]
    exact List.append_nil _
  have hab : a = b := by
    apply Code.name_injective
    rw [← name a u, ← name b v, h]
  subst hab
  exact ⟨rfl, List.append_cancel_left h⟩

lemma headLine_inj : f.headLine d = f.headLine e ↔
    isWarning d = isWarning e ∧ d.code = e.code ∧
      f.contents d.message = f.contents e.message := by
  constructor
  · intro h
    simp only [headLine, List.append_assoc] at h
    obtain ⟨hseverity, hrest⟩ := severityMark_inj h
    have hcode := List.append_cancel_left hrest
    rw [← List.append_assoc, ← List.append_assoc] at hcode
    exact ⟨hseverity, name_readable trivial trivial hcode⟩
  · rintro ⟨hseverity, hcode, hmessage⟩
    rw [headLine, headLine, severityMark, severityMark, hseverity, hcode, hmessage]

/-- A line and a column can be read off the line that tells them. -/
lemma placeLine_inj {s t : SourceSpan} :
    placeLine s = placeLine t ↔ (s.line, s.column) = (t.line, t.column) := by
  constructor
  · intro h
    simp only [placeLine, List.append_assoc] at h
    have hcomma (u : Text) : Numeral.NoDigit (Text.ofString ", column " ++ u) := by
      intro c hc
      obtain rfl : CodePoint.ofChar ',' = c := Option.some.inj hc
      rfl
    obtain ⟨hline, hrest⟩ :=
      Numeral.decimal_readable (hcomma _) (hcomma _) (List.append_cancel_left h)
    rw [hline, Numeral.decimal_injective (List.append_cancel_left hrest)]
  · intro h
    obtain ⟨hline, hcolumn⟩ := Prod.mk.inj h
    rw [placeLine, placeLine, hline, hcolumn]

lemma placeLine_ne_helpLine (s : SourceSpan) (hint : Text) : placeLine s ≠ helpLine hint := by
  intro h
  have hthird : some (CodePoint.ofChar '-') = some (.ofChar '=') := congrArg (fun t => t[2]?) h
  exact absurd hthird (by decide)

lemma helpLine_inj {s t : Text} : helpLine s = helpLine t ↔ s = t :=
  List.append_right_inj _

/-- The lines for the place and for the hint can be told apart where only one of them is there. -/
lemma rustLines_inj : f.rustLines d = f.rustLines e ↔
    isWarning d = isWarning e ∧ d.code = e.code ∧ f.contents d.message = f.contents e.message ∧
      (d.span.map fun s => (s.line, s.column)) = (e.span.map fun s => (s.line, s.column)) ∧
      f.hint? d = f.hint? e := by
  have hoptional :
      (d.span.map placeLine).toList ++ ((f.hint? d).map helpLine).toList =
        (e.span.map placeLine).toList ++ ((f.hint? e).map helpLine).toList ↔
      (d.span.map fun s => (s.line, s.column)) = (e.span.map fun s => (s.line, s.column)) ∧
        f.hint? d = f.hint? e := by
    have hswap (s : SourceSpan) (hint : Text) := (placeLine_ne_helpLine s hint).symm
    rcases d.span with _ | s <;> rcases e.span with _ | t <;>
      rcases f.hint? d with _ | h <;> rcases f.hint? e with _ | k <;>
      simp [placeLine_inj, helpLine_inj, placeLine_ne_helpLine, hswap]
  rw [rustLines_eq, rustLines_eq, List.cons.injEq, headLine_inj, hoptional]
  simp only [and_assoc]

/-- **No foreign text forges a line.**  In the layout of compilers a diagnostic has one line, one
more if it has a place, and one more if it has a hint that is not empty.  Two diagnostics are
written alike exactly if both or neither count as warnings and they agree in code, in line and
column, and in message and hint as these are written. -/
theorem rust_unforgeable (hf : f.layout = some .rust) :
    (∃ out, f.format d = some out ∧ (out.splitOn .newline).length =
      1 + (if d.span.isSome then 1 else 0) + (if d.hint.getD [] ≠ [] then 1 else 0)) ∧
    (f.format d = f.format e ↔
      isWarning d = isWarning e ∧ d.code = e.code ∧ f.contents d.message = f.contents e.message ∧
        (d.span.map fun s => (s.line, s.column)) = (e.span.map fun s => (s.line, s.column)) ∧
        f.hint? d = f.hint? e) := by
  constructor
  · refine ⟨f.render d .rust, format_of_layout hf d, ?_⟩
    rw [splitOn_render, length_lines]
    rfl
  · rw [format_of_layout hf, format_of_layout hf, Option.some.injEq, ← rustLines_inj]
    constructor
    · intro h
      have hlines := congrArg (List.splitOn .newline) h
      rwa [splitOn_render, splitOn_render] at hlines
    · exact congrArg (Text.joined [.newline])

/-- A message that looks like two lines is one line, whatever colours and cuts there are.  Of a
severity only the word for warnings is told apart. -/
theorem rust_unforgeable_lookalike :
    let f : Formatter := { sanitize := true, color := true, maxContent := -1 }
    let forged : Diagnostic := { code := .noProgress, message := Text.ofString "a..\n  = help: b." }
    let fatal : Diagnostic := { forged with severity := Text.ofString "fatal" }
    let hinted : Diagnostic :=
      { code := .noProgress, message := Text.ofString "ab", hint := Text.ofString "bc" }
    f.layout = some .rust ∧
      (∃ out, f.format forged = some out ∧ (out.splitOn .newline).length = 1) ∧
      (f.format forged = f.format fatal ∧ forged ≠ fatal) ∧ f.format forged ≠ f.format hinted := by
  intro f forged fatal hinted
  have halike := (rust_unforgeable (f := f) (d := forged) (e := fatal) rfl).2
  refine ⟨rfl, (rust_unforgeable (e := fatal) rfl).1, ⟨halike.mpr (by decide), by decide⟩, ?_⟩
  intro h
  exact absurd ((rust_unforgeable rfl).2.mp h) (by decide)

/-- **A report falls into its diagnostics.**  In every layout a list of diagnostics that is not empty
can be written, and cutting the report at its blank lines gives each diagnostic as it is written on
its own. -/
theorem formatAll_splits {ds : List Diagnostic} (hf : f.layout = some layout) (hds : ds ≠ []) :
    ∃ out, f.formatAll? ds = some out ∧
      (Text.split Text.blankLine out).map some = ds.map f.format := by
  have hformat : f.format = fun d => some (f.render d layout) := funext (format_of_layout hf)
  have hall : ds.mapM f.format = some (ds.map (f.render · layout)) := by
    rw [hformat]
    exact List.mapM_pure
  refine ⟨Text.joined Text.blankLine (ds.map (f.render · layout)), ?_, ?_⟩
  · rw [formatAll?, hall]
    rfl
  · rw [Text.split_joined (by decide) (by simpa using hds)]
    · rw [List.map_map, hformat]
      rfl
    · intro part hpart
      obtain ⟨d, -, rfl⟩ := List.mem_map.mp hpart
      rw [render_eq_joined]
      exact Text.apart_joined fun line hline =>
        ⟨ne_nil_of_mem_lines f d layout line hline, newline_not_mem_lines f d layout line hline⟩

/-- Blank lines in a message and in a hint are not taken for the ones between two diagnostics. -/
theorem formatAll_splits_gapped :
    let f : Formatter := {}
    let ds : List Diagnostic :=
      [{ code := .noProgress, message := Text.ofString "a\n\nb" },
        { code := .bumpPastEnd, message := [], hint := Text.ofString "\n\n" }]
    ds ≠ [] ∧ f.layout = some .rust ∧ ∃ out, f.formatAll? ds = some out ∧
      (Text.split Text.blankLine out).map some = ds.map f.format := by
  intro f ds
  have hds : ds ≠ [] := List.cons_ne_nil _ _
  exact ⟨hds, rfl, formatAll_splits rfl hds⟩

end Formatter

end Lexeme
