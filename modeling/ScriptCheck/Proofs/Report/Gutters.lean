import ScriptCheck.Proofs.Report.Strokes

/-!
# The column of line numbers

The width of the column of line numbers is found once for a diagnostic, by the digits of the
greatest line number among its places. The numbers in the column come from the lines that are shown
above each of the places. None of them is greater, so that no number is wider than the column.

* `Row.LinesUp` — the gutter of a row is set in the column
* `gutters_line_up` — this is so for all the rows of a diagnostic
-/

namespace ScriptCheck

open Text

/-! ## Numbers in a column -/

/-- A smaller number is not wider. -/
theorem length_toString_le {m n : Nat} (hm : m ≠ 0) (h : m ≤ n) :
    (toString m).length ≤ (Nat.digits 10 n).length := by
  rw [length_toString hm]
  exact Nat.le_length_digits_le 10 m n h

theorem isDigit_of_mem_toString {n : Nat} {c : Char} (h : c ∈ (toString n).toList) :
    c.isDigit = true := by
  rw [Nat.toString_eq_repr, Nat.toList_repr] at h
  exact Nat.isDigit_of_mem_toDigits (by decide) (by decide) h

/-! ## Rows in a column -/

/-- The gutter of a row is in line with a column for numbers up to `last`: the number, if there is
one, stands at the right end of a field that takes all the columns, and no others. -/
structure Row.LinesUp (r : Row) (c : Canvas) (last : Nat) : Prop where
  number_le : ∀ n ∈ r.number, 1 ≤ n ∧ n ≤ last
  length_le : r.digits.length ≤ c.numberWidth
  spans_eq : r.spans c = ⟨some c.config.subtleStyle,
    blanks (c.numberWidth - r.digits.length) ++ r.digits ++ " " ++ c.config.gutter ++ " "⟩ :: r.body
  columns_eq : columnWidth (blanks (c.numberWidth - r.digits.length) ++ r.digits).toList =
    c.numberWidth

section

variable {r : Row} {c : Canvas} {last : Nat}

/-- What is written of a number are digits. -/
theorem Row.isDigit_of_mem_digits {x : Char} (h : x ∈ r.digits.toList) : x.isDigit = true := by
  unfold Row.digits at h
  cases hnumber : r.number with
  | none => simp [hnumber] at h
  | some n =>
    rw [hnumber] at h
    exact isDigit_of_mem_toString h

/-- In a column that is wide enough for the greatest number, the gutters of all numbers are in
line. -/
theorem Row.linesUp (hwidth : c.numberWidth = (Nat.digits 10 last).length)
    (hnumber : ∀ n ∈ r.number, 1 ≤ n ∧ n ≤ last) : r.LinesUp c last := by
  have hlength : r.digits.length ≤ c.numberWidth := by
    unfold Row.digits
    cases hn : r.number with
    | none => exact Nat.zero_le _
    | some n =>
      obtain ⟨hpos, hle⟩ := hnumber n hn
      rw [hwidth]
      exact length_toString_le (Nat.ne_of_gt hpos) hle
  refine ⟨hnumber, hlength, rfl, ?_⟩
  rw [blanks, String.toList_append, String.toList_ofList, columnWidth_eq_length fun x hx => ?_]
  · rw [List.length_append, List.length_replicate, String.length_toList]
    exact Nat.sub_add_cancel hlength
  · rcases List.mem_append.1 hx with hblank | hdigit
    · exact .inl (List.eq_of_mem_replicate hblank)
    · exact .inr (Row.isDigit_of_mem_digits hdigit)

end

namespace Diagnostic

variable {d : Diagnostic} {f : SourceFile} {config : Config} {r : Row}

theorem numberWidth_canvas (d : Diagnostic) (f : SourceFile) (config : Config) :
    (d.canvas f config).numberWidth = (Nat.digits 10 (d.lastLine f)).length :=
  length_toString (Nat.ne_of_gt (d.lastLine_pos f))

/-- A row without a number is in line with all others. -/
theorem linesUp_bare (d : Diagnostic) (f : SourceFile) (config : Config) :
    Row.bare.LinesUp (d.canvas f config) (d.lastLine f) :=
  Row.linesUp (d.numberWidth_canvas f config) nofun

/-- **All the rows of a diagnostic are in line.** -/
theorem linesUp_of_mem_rows (hr : r ∈ d.rows f config) :
    r.LinesUp (d.canvas f config) (d.lastLine f) := by
  refine Row.linesUp (d.numberWidth_canvas f config) fun n hn => ?_
  obtain ⟨p, hp, text, htext, -⟩ := exists_of_mem_rows hr hn
  obtain ⟨i, cs, hle, rfl, -⟩ := SourceFile.exists_of_mem_excerpt htext
  have hlast := lastLine_le_iff.1 (Nat.le_refl (d.lastLine f)) p hp
  omega

/-- The arrow is behind the column of line numbers. -/
theorem exists_text_location (d : Diagnostic) (c : Canvas) :
    ∃ rest, (d.location c).text = blanks c.numberWidth ++ c.config.arrow ++ rest := by
  simp only [location, String.append_assoc]
  exact ⟨_, rfl⟩

end Diagnostic

/-- **All gutters of a diagnostic are in line. The column of line numbers is as wide as the greatest
line number among its places has digits; before the sign of every gutter, in the snippets of the
diagnostic and of all its labels, is a field of exactly this width, with the number of the line, if
it has one, at its right end; and so far is the arrow before the place to the right. The same is so
for all the rows that are there when drawing breaks off.** -/
theorem gutters_line_up (d : Diagnostic) (f : SourceFile) (config : Config) :
    ∃ last width, (∃ p ∈ d.places, last = f.feedsBefore p + 1) ∧
      (∀ p ∈ d.places, f.feedsBefore p + 1 ≤ last) ∧
      width = (Nat.digits 10 last).length ∧
      let c : Canvas := ⟨config, f, width⟩
      (∃ rest, (d.location c).text = blanks width ++ config.arrow ++ rest) ∧
      (∀ spans, d.render f config = .ok spans →
        spans = d.header config ++ [d.location c] ++ (d.rows f config).flatMap (Row.spans c) ++
            [Canvas.plain "\n"] ∧
          ∀ r ∈ d.rows f config, r.LinesUp c last) ∧
      (f.size < 2 ^ 64 → ∃ rows : List Row,
        (∀ r ∈ rows, (r ∈ d.rows f config ∨ r = Row.bare) ∧ r.LinesUp c last) ∧
        ((Sketch.diagnostic d f config).Draws (d.header config ++ [d.location c] ++
            rows.flatMap (Row.spans c) ++ [Canvas.plain "\n"]) ∨
          ∃ e style, (Sketch.diagnostic d f config).Breaks e
            (d.header config ++ [d.location c] ++ rows.flatMap (Row.spans c)) style)) := by
  refine ⟨d.lastLine f, (d.canvas f config).numberWidth, d.exists_lastLine f,
    Diagnostic.lastLine_le_iff.1 (Nat.le_refl _), d.numberWidth_canvas f config,
    d.exists_text_location (d.canvas f config), fun spans hspans => ?_, fun hsize => ?_⟩
  · exact ⟨(Diagnostic.render_eq_ok_iff.1 hspans).2, fun r hr => Diagnostic.linesUp_of_mem_rows hr⟩
  · have hwidth := numberWidth_le hsize d config
    by_cases hfits : d.MarkersFit f
    · exact ⟨d.rows f config, fun r hr => ⟨.inl hr, Diagnostic.linesUp_of_mem_rows hr⟩,
        .inl (Sketch.draws_diagnostic hwidth hfits)⟩
    · obtain ⟨p, hp, rows, style, hlimit, hrows, hbreaks, hrender⟩ :=
        exists_breaks config hwidth hfits
      refine ⟨rows, fun r hr => ⟨hrows r hr, ?_⟩, .inr ⟨_, style, hbreaks⟩⟩
      rcases hrows r hr with hmem | rfl
      · exact Diagnostic.linesUp_of_mem_rows hmem
      · exact d.linesUp_bare f config

/-- With a label on line 10, the column is two digits wide for a diagnostic on line 1, too. -/
theorem gutters_line_up_ten_lines :
    let d : Diagnostic := ⟨.grammatical, 0, "m", [⟨18, "l"⟩]⟩
    let f := SourceFile.ofText "main" "1\n2\n3\n4\n5\n6\n7\n8\n9\n10" none
    let c : Canvas := ⟨.standard, f, 2⟩
    ∃ spans, d.render f .standard = .ok spans ∧ f.size < 2 ^ 64 ∧
      spans = d.header .standard ++ [d.location c] ++
        (d.rows f .standard).flatMap (Row.spans c) ++ [Canvas.plain "\n"] ∧
      (∀ r ∈ d.rows f .standard, r.LinesUp c 10) ∧
      ∃ rows : List Row, (∀ r ∈ rows, r.LinesUp c 10) ∧
        ((Sketch.diagnostic d f .standard).Draws (d.header .standard ++ [d.location c] ++
            rows.flatMap (Row.spans c) ++ [Canvas.plain "\n"]) ∨
          ∃ e style, (Sketch.diagnostic d f .standard).Breaks e
            (d.header .standard ++ [d.location c] ++ rows.flatMap (Row.spans c)) style) := by
  intro d f c
  have hrender := Diagnostic.render_eq_ok (d := d) (f := f)
    (show ∀ p ∈ d.places, f.columnsBefore p ≤ markerLimit by decide) .standard
  have hsize : f.size < 2 ^ 64 := by decide
  obtain ⟨last, width, ⟨p, hp, hlast⟩, hle, hwidth, -, hspans, hsketch⟩ :=
    gutters_line_up d f .standard
  have hten : last = 10 := Nat.le_antisymm
    (hlast ▸ (show ∀ p ∈ d.places, f.feedsBefore p + 1 ≤ 10 by decide) p hp)
    (hle 18 (by decide))
  obtain rfl : width = 2 := by simp [hwidth, hten]
  obtain ⟨heq, hrows⟩ := hspans _ hrender
  obtain ⟨rows, hlines, hdrawn⟩ := hsketch hsize
  rw [hten] at hrows
  exact ⟨_, hrender, hsize, heq, hrows, rows, fun r hr => hten ▸ (hlines r hr).2, hdrawn⟩

end ScriptCheck
