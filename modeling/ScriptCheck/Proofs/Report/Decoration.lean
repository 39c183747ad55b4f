import ScriptCheck.Proofs.Report.Gutters
import ScriptCheck.Proofs.Report.Terminal

/-!
# Styles are decoration

What is written for a terminal with colours holds control sequences in front of spans and behind
them. A terminal does not show these; it goes on in the style that they switch on. Nothing else
about a drawing depends on whether there are colours: without its control sequences it is the
drawing for a terminal without colours, and each character is shown in the style of its span. No
style is left on where a span without one is written, or when the drawing has come to its end.

This is so as long as no escape character is in what is drawn. A terminal could not tell it from
those that begin the control sequences.

A style may say that what was on before it stays on. Nothing is on before any style of a drawing,
so this makes no difference there.

* `items_writeSpans` — the characters and the control sequences of spans
* `Decorates` — what colours add to a text, and what a terminal shows of it
* `Stroke.next`, `Paints.foldlM_next` — each style is switched off before the next one
* `NoEscape` — no escape character is in what is drawn
* `colors_decorate` — what colours do to the drawing of a diagnostic
-/

namespace ScriptCheck

open Text

/-! ## Spans -/

/-- No escape character is in a text. -/
def EscapeFree (s : String) : Prop := escapeChar ∉ s.toList

instance (s : String) : Decidable (EscapeFree s) :=
  inferInstanceAs (Decidable (escapeChar ∉ s.toList))

@[simp] theorem escapeFree_append {s t : String} :
    EscapeFree (s ++ t) ↔ EscapeFree s ∧ EscapeFree t := by
  simp [EscapeFree]

/-- What a terminal receives of a span. -/
def Span.items (s : Span) : List Item :=
  match s.style with
  | some style => style.items ++ s.text.toList.map .char ++ [.sequence ['0']]
  | none => s.text.toList.map .char

/-- What is shown of a span. -/
def Span.cells (s : Span) : List Cell := paint ((s.style.map Style.appearance).getD .plain) s.text

section

variable {spans : List Span} {span : Span}

theorem items_colored (h : EscapeFree span.text) (ds : List Char) :
    items (span.colored.toList ++ ds) = span.items ++ items ds := by
  obtain ⟨style, text⟩ := span
  cases style with
  | none => exact items_append h ds
  | some style =>
    have hreset : resetSequence.toList = sequenceChars ['0'] := by decide
    rw [Span.colored, String.toList_append, String.toList_append, List.append_assoc,
      List.append_assoc, items_sequence, items_append h, hreset,
      items_sequenceChars rfl]
    simp [Span.items]

/-- **The characters and the control sequences of spans are those of each of them.** -/
theorem items_writeSpans (h : ∀ span ∈ spans, EscapeFree span.text) (ds : List Char) :
    items ((writeSpans true spans).toList ++ ds) = spans.flatMap Span.items ++ items ds := by
  induction spans with
  | nil => rfl
  | cons span spans ih =>
    obtain ⟨hspan, hspans⟩ := List.forall_mem_cons.1 h
    rw [writeSpans_cons, if_pos rfl, String.toList_append, List.append_assoc,
      items_colored hspan, ih hspans, List.flatMap_cons, List.append_assoc]

/-- The characters of a span are its text. -/
theorem filterMap_items (span : Span) : span.items.filterMap Item.char? = span.text.toList := by
  obtain ⟨style, text⟩ := span
  cases style with
  | none => exact filterMap_map_char _
  | some style =>
    rw [Span.items, List.filterMap_append, List.filterMap_append, filterMap_map_char, Style.items,
      filterMap_map_sequence]
    exact List.append_nil _

/-- A span is shown in its style when no style is on before it. -/
theorem look_items (span : Span) : look .plain span.items = span.cells := by
  obtain ⟨style, text⟩ := span
  cases style with
  | none => exact look_map_char .plain _
  | some style =>
    rw [Span.items, look_append, look_append, lookBehind_items, look_map_char, Style.items,
      look_map_sequence, List.nil_append]
    exact List.append_nil _

/-- No style is on behind a span. -/
theorem lookBehind_span (span : Span) : lookBehind .plain span.items = .plain := by
  obtain ⟨style, text⟩ := span
  cases style with
  | none => exact lookBehind_map_char .plain _
  | some style =>
    rw [Span.items, lookBehind_append]
    rfl

/-- No style is on behind spans. -/
theorem lookBehind_spans (spans : List Span) :
    lookBehind .plain (spans.flatMap Span.items) = .plain := by
  induction spans with
  | nil => rfl
  | cons span spans ih => rw [List.flatMap_cons, lookBehind_append, lookBehind_span, ih]

/-- Each of the spans is shown in its style. -/
theorem look_spans (spans : List Span) :
    look .plain (spans.flatMap Span.items) = spans.flatMap Span.cells := by
  induction spans with
  | nil => rfl
  | cons span spans ih =>
    rw [List.flatMap_cons, look_append, lookBehind_span, look_items, ih, List.flatMap_cons]

theorem filterMap_spans (spans : List Span) :
    (spans.flatMap Span.items).filterMap Item.char? = (writeSpans false spans).toList := by
  induction spans with
  | nil => rfl
  | cons span spans ih =>
    rw [List.flatMap_cons, List.filterMap_append, filterMap_items, ih, writeSpans_cons,
      String.toList_append]
    rfl

end

/-- What is written for a terminal with colours is decorated by control sequences: without them it
is what is written for a terminal without colours. The terminal shows what there is to be seen, and
text looks some way behind it. -/
structure Decorates (colored uncolored : String) (cells : List Cell) (behind : Appearance) :
    Prop where
  withoutSequences_eq : withoutSequences colored = uncolored
  look_eq : look .plain (items colored.toList) = cells
  lookBehind_eq : lookBehind .plain (items colored.toList) = behind

section

variable {spans : List Span}

/-- Control sequences behind the spans only change the style that is on. -/
theorem decorates_of_items {colored : String} (ps : List (List Char))
    (h : items colored.toList = spans.flatMap Span.items ++ ps.map .sequence) :
    Decorates colored (writeSpans false spans) (spans.flatMap Span.cells)
      (lookBehind .plain (ps.map .sequence)) := by
  refine ⟨?_, ?_, ?_⟩
  · rw [withoutSequences, h, List.filterMap_append, filterMap_spans, filterMap_map_sequence,
      List.append_nil, String.ofList_toList]
  · rw [h, look_append, look_spans, look_map_sequence, List.append_nil]
  · rw [h, lookBehind_append, lookBehind_spans]

/-- **Spans are decorated by their styles.** -/
theorem decorates_writeSpans (h : ∀ span ∈ spans, EscapeFree span.text) :
    Decorates (writeSpans true spans) (writeSpans false spans) (spans.flatMap Span.cells)
      .plain := by
  have hitems := items_writeSpans h []
  rw [List.append_nil] at hitems
  exact decorates_of_items [] hitems

/-- **So they are when another style is switched on behind them.** -/
theorem decorates_append_sequence (h : ∀ span ∈ spans, EscapeFree span.text) (style : Style) :
    Decorates (writeSpans true spans ++ style.sequence) (writeSpans false spans)
      (spans.flatMap Span.cells) style.appearance := by
  have hstyle := items_sequence style []
  have hitems := items_writeSpans h style.sequence.toList
  have hdecorates := @decorates_of_items spans (writeSpans true spans ++ style.sequence)
    style.parameters
  rw [← Style.items, lookBehind_items] at hdecorates
  rw [List.append_nil] at hstyle
  rw [← String.toList_append, hstyle] at hitems
  exact hdecorates (hitems.trans (congrArg _ (List.append_nil _)))

end

/-! ## One style after the other -/

/-- The style that is on behind a stroke. A style can only be switched on when none is on, and
switched off when one is. -/
def Stroke.next (on : Option Style) : Stroke → Option (Option Style)
  | .switchOn style => if on.isNone then some (some style) else none
  | .write _ => some on
  | .switchOff => if on.isSome then some none else none

theorem foldlM_next_write (on : Option Style) (texts : List String) (strokes : List Stroke) :
    (texts.map Stroke.write ++ strokes).foldlM Stroke.next on = strokes.foldlM Stroke.next on := by
  induction texts with
  | nil => rfl
  | cons text texts ih => exact ih

/-- **When spans are painted, each style is switched off before the next one is switched on, and
none is left on.** -/
theorem Paints.foldlM_next {strokes : List Stroke} {spans : List Span} (h : Paints strokes spans) :
    strokes.foldlM Stroke.next none = some none := by
  induction h with
  | nil => rfl
  | plain _ ih => exact (foldlM_next_write _ _ _).trans ih
  | styled _ ih => exact (foldlM_next_write _ _ _).trans ih

/-! ## Diagnostics -/

/-- No escape character is in what is drawn for a diagnostic. -/
structure NoEscape (d : Diagnostic) (f : SourceFile) (config : Config) : Prop where
  text : EscapeFree f.text
  name : EscapeFree f.name
  path : ∀ path ∈ f.path, EscapeFree path
  message : EscapeFree d.message
  labels : ∀ l ∈ d.labels, EscapeFree l.message
  gutter : EscapeFree config.gutter
  arrow : EscapeFree config.arrow
  underline : EscapeFree config.underline
  labelUnderline : EscapeFree config.labelUnderline

/-- What a terminal shows of a diagnostic with some rows: the kind of the diagnostic in one style,
its place and the gutters in another one, and each of the rows. -/
def Diagnostic.cells (d : Diagnostic) (c : Canvas) (rows : List Row) : List Cell :=
  paint c.config.errorStyle.appearance ("error[" ++ d.stage.describe ++ "]:") ++
    paint .plain (" " ++ d.message ++ "\n") ++
    paint c.config.subtleStyle.appearance (d.location c).text ++
    rows.flatMap fun r =>
      paint c.config.subtleStyle.appearance (c.gutter r.digits).text ++ r.body.flatMap Span.cells

section

variable {d : Diagnostic} {f : SourceFile} {config : Config}

theorem escapeFree_of_isDigit {s : String} (h : ∀ c ∈ s.toList, c.isDigit = true) :
    EscapeFree s :=
  fun hmem => absurd (h _ hmem) (by decide)

@[simp] theorem escapeFree_repr (n : Nat) : EscapeFree n.repr :=
  escapeFree_of_isDigit fun _ => isDigit_of_mem_toString

@[simp] theorem escapeFree_blanks (n : Nat) : EscapeFree (blanks n) := by
  rw [EscapeFree, blanks, String.toList_ofList]
  exact fun hmem => absurd (List.eq_of_mem_replicate hmem) (by decide)

theorem escapeFree_alignRight {s : String} (h : EscapeFree s) (width : Nat) :
    EscapeFree (alignRight width s) :=
  escapeFree_append.2 ⟨escapeFree_blanks _, h⟩

theorem escapeFree_expandTabs {cs : List Char} (h : escapeChar ∉ cs) :
    escapeChar ∉ expandTabs cs := by
  intro hmem
  obtain ⟨c, hc, hin⟩ := List.mem_flatMap.1 hmem
  split at hin
  · exact absurd hin (by decide)
  · rw [List.mem_singleton] at hin
    exact h (hin ▸ hc)

/-- What is shown of a line has no escape character that the text has not. -/
theorem escapeFree_of_mem_excerpt {above index number : Nat} {text : String}
    (h : EscapeFree f.text) (htext : (number, text) ∈ f.excerpt above index) : EscapeFree text := by
  obtain ⟨i, cs, -, -, hcs, rfl⟩ := SourceFile.exists_of_mem_excerpt htext
  rw [← f.lines_toList.map_chars, List.getElem?_map, Option.map_eq_some_iff] at hcs
  obtain ⟨line, hline, rfl⟩ := hcs
  rw [EscapeFree, String.toList_ofList]
  refine escapeFree_expandTabs fun hmem => h ?_
  exact f.lines_toList.chars_subset line (List.mem_of_getElem? hline)
    (withoutLast_subset '\r' line.chars hmem)

namespace NoEscape

theorem of_mem_header (h : NoEscape d f config) :
    ∀ span ∈ d.header config, EscapeFree span.text := by
  have hstage : EscapeFree d.stage.describe := by
    cases d.stage <;> decide
  simp +decide [Diagnostic.header, Canvas.plain, hstage, h.message]

theorem location (h : NoEscape d f config) : EscapeFree (d.location (d.canvas f config)).text := by
  unfold Diagnostic.location Diagnostic.canvas
  cases hpath : f.path with
  | none => simp +decide [h.arrow, h.name]
  | some path => simp +decide [h.arrow, h.name, h.path path hpath]

/-- No escape character is in a gutter. -/
theorem gutter_text (h : NoEscape d f config) (r : Row) :
    EscapeFree ((d.canvas f config).gutter r.digits).text := by
  have hdigits : EscapeFree r.digits := escapeFree_of_isDigit fun _ => Row.isDigit_of_mem_digits
  simp +decide [Canvas.gutter, escapeFree_alignRight hdigits, Diagnostic.canvas, h.gutter]

theorem of_mem_marks (h : NoEscape d f config) {pos : Nat} {marker : Marker}
    (hmark : (pos, marker) ∈ d.marks config) :
    EscapeFree marker.sign ∧ EscapeFree marker.text := by
  rcases List.mem_cons.1 hmark with heq | hlabel
  · obtain ⟨rfl, rfl⟩ := Prod.mk.inj heq
    exact ⟨h.underline, List.not_mem_nil⟩
  · obtain ⟨l, hl, heq⟩ := List.mem_map.1 hlabel
    obtain ⟨rfl, rfl⟩ := Prod.mk.inj heq
    exact ⟨h.labelUnderline, escapeFree_append.2 ⟨by decide, h.labels l hl⟩⟩

/-- No escape character is behind a gutter. -/
theorem of_mem_body (h : NoEscape d f config) {r : Row} (hr : r ∈ d.rows f config) :
    ∀ span ∈ r.body, EscapeFree span.text := by
  obtain ⟨pos, marker, hmark, hmem⟩ := Diagnostic.mem_rows.1 hr
  rcases Canvas.mem_rows.1 hmem with rfl | ⟨number, text, htext, rfl⟩ | rfl
  · simp +decide
  · simp +decide [Canvas.plain, escapeFree_of_mem_excerpt h.text htext]
  · simp +decide [Canvas.plain, Canvas.markerRow, h.of_mem_marks hmark]

/-- No escape character is in a drawing. -/
theorem of_mem_drawing (h : NoEscape d f config) {rows : List Row}
    (hrows : ∀ r ∈ rows, r ∈ d.rows f config ∨ r = Row.bare) :
    ∀ span ∈ d.header config ++ [d.location (d.canvas f config)] ++
      rows.flatMap (Row.spans (d.canvas f config)), EscapeFree span.text := by
  intro span hspan
  rcases List.mem_append.1 hspan with htop | hrow
  · rcases List.mem_append.1 htop with hheader | hlocation
    · exact h.of_mem_header span hheader
    · exact List.mem_singleton.1 hlocation ▸ h.location
  · obtain ⟨r, hr, hmem⟩ := List.mem_flatMap.1 hrow
    rcases List.mem_cons.1 hmem with rfl | hbody
    · exact h.gutter_text r
    · rcases hrows r hr with hr | rfl
      · exact h.of_mem_body hr span hbody
      · contradiction

end NoEscape

/-- What is shown of the spans of a diagnostic. -/
theorem Diagnostic.flatMap_cells (d : Diagnostic) (f : SourceFile) (config : Config)
    (rows : List Row) :
    (d.header config ++ [d.location (d.canvas f config)] ++
      rows.flatMap (Row.spans (d.canvas f config))).flatMap Span.cells =
        d.cells (d.canvas f config) rows := by
  rw [List.flatMap_append, List.flatMap_append, List.flatMap_assoc, Diagnostic.cells]
  simp [canvas, header, Row.spans, Span.cells, Canvas.plain, Canvas.gutter, location]

/-- The spans of a diagnostic are decorated by their styles. -/
theorem NoEscape.decorates (h : NoEscape d f config) {spans : List Span}
    (hspans : spans = d.header config ++ [d.location (d.canvas f config)] ++
      (d.rows f config).flatMap (Row.spans (d.canvas f config)) ++ [Canvas.plain "\n"]) :
    Decorates (writeSpans true spans) (writeSpans false spans)
      (d.cells (d.canvas f config) (d.rows f config) ++ paint .plain "\n") .plain := by
  have hescape : ∀ span ∈ spans, EscapeFree span.text := by
    rw [hspans]
    refine List.forall_mem_append.2 ⟨h.of_mem_drawing fun r hr => .inl hr, ?_⟩
    exact List.forall_mem_singleton.2 (by decide)
  have hcells : spans.flatMap Span.cells =
      d.cells (d.canvas f config) (d.rows f config) ++ paint .plain "\n" := by
    rw [hspans, List.flatMap_append, d.flatMap_cells f config]
    rfl
  exact hcells ▸ decorates_writeSpans hescape

/-- So is what has been drawn of a diagnostic when a style has just been switched on. -/
theorem NoEscape.decorates_switchOn (h : NoEscape d f config) {rows : List Row}
    {strokes : List Stroke} (hrows : ∀ r ∈ rows, r ∈ d.rows f config ∨ r = Row.bare)
    (hpaints : Paints strokes (d.header config ++ [d.location (d.canvas f config)] ++
      rows.flatMap (Row.spans (d.canvas f config)))) (style : Style) :
    Decorates (writeStrokes true (strokes ++ [.switchOn style]))
      (writeStrokes false (strokes ++ [.switchOn style])) (d.cells (d.canvas f config) rows)
      style.appearance := by
  have hon : writeStrokes true [.switchOn style] = style.sequence := by
    simp [writeStrokes, Stroke.text]
  have hoff : writeStrokes false [.switchOn style] = "" := rfl
  rw [writeStrokes_append, writeStrokes_append, hpaints.writeStrokes_eq, hpaints.writeStrokes_eq,
    hon, hoff, String.append_empty, ← d.flatMap_cells f config]
  exact decorates_append_sequence (h.of_mem_drawing hrows) style

/-- **Colours are decoration. Without its control sequences, what is written for a terminal with
colours is what is written for one without. The kind of the diagnostic, its place, the gutters and
the markers are shown in their styles, the message and the lines of the source in no style, and no
style is left on. Stroke by stroke, each style is switched off before the next one is switched on.
When drawing breaks off, this is so for what has been drawn, and only the style of the marker that
does not fit is still on.** -/
theorem colors_decorate (h : NoEscape d f config) :
    let c := d.canvas f config
    (∀ r ∈ d.rows f config, ∀ n ∈ r.number, ∃ p ∈ d.places, ∃ text,
      (n, text) ∈ f.excerpt config.contextSize (f.feedsBefore p) ∧
        r.body.flatMap Span.cells = paint .plain (text ++ "\n")) ∧
    (∀ spans, d.render f config = .ok spans →
      Decorates (writeSpans true spans) (writeSpans false spans)
        (d.cells c (d.rows f config) ++ paint .plain "\n") .plain) ∧
    (f.size < 2 ^ 64 →
      let x := Sketch.diagnostic d f config
      (∃ spans, d.render f config = .ok spans ∧
        (∀ color, writeStrokes color x.strokes = writeSpans color spans) ∧
        x.strokes.foldlM Stroke.next none = some none) ∨
      ∃ e strokes style, x.result = .error e ∧ x.strokes = strokes ++ [.switchOn style] ∧
        strokes.foldlM Stroke.next none = some none ∧
        ∃ rows : List Row, (∀ r ∈ rows, r ∈ d.rows f config ∨ r = Row.bare) ∧
          Decorates (writeStrokes true x.strokes) (writeStrokes false x.strokes) (d.cells c rows)
            style.appearance) := by
  refine ⟨fun r hr n hn => ?_, fun spans hrender => ?_, fun hsize => ?_⟩
  · obtain ⟨p, hp, text, htext, hbody⟩ := Diagnostic.exists_of_mem_rows hr hn
    refine ⟨p, hp, text, htext, ?_⟩
    rw [hbody]
    exact List.append_nil _
  · exact h.decorates (Diagnostic.render_eq_ok_iff.1 hrender).2
  · have hwidth := numberWidth_le hsize d config
    by_cases hfits : d.MarkersFit f
    · have hpaints := (Sketch.draws_diagnostic hwidth hfits).2
      exact .inl ⟨_, Diagnostic.render_eq_ok hfits config, hpaints.writeStrokes_eq,
        hpaints.foldlM_next⟩
    · obtain ⟨p, hp, rows, style, hlimit, hrows, ⟨hresult, strokes, hstrokes, hpaints⟩, hfails⟩ :=
        exists_breaks config hwidth hfits
      refine .inr ⟨_, strokes, style, hresult, hstrokes, hpaints.foldlM_next, rows, hrows, ?_⟩
      rw [hstrokes]
      exact h.decorates_switchOn hrows hpaints style

/-- Colours are decoration where a diagnostic has a label above it, its source has a path, and its
style leaves on what was on before. -/
theorem colors_decorate_label :
    let d : Diagnostic := ⟨.binding, 10, "m", [⟨4, "l"⟩]⟩
    let f := SourceFile.ofText "main" "var\tx\nvar x" (some "main.txt")
    let config : Config := { Config.standard with
      errorStyle :=
        { foreground := some (.rgb 255 0 7), background := some (.named .cyan), underline := true,
          intense := true, reset := false }
      labelStyle := { foreground := some (.palette 200), strikethrough := true } }
    let x := Sketch.diagnostic d f config
    NoEscape d f config ∧ f.size < 2 ^ 64 ∧ ∃ spans, d.render f config = .ok spans ∧
      Decorates (writeSpans true spans) (writeSpans false spans)
        (d.cells (d.canvas f config) (d.rows f config) ++ paint .plain "\n") .plain ∧
      (∀ color, writeStrokes color x.strokes = writeSpans color spans) ∧
      x.strokes.foldlM Stroke.next none = some none := by
  intro d f config x
  have hescape : NoEscape d f config := by
    constructor <;> decide
  have hsize : f.size < 2 ^ 64 := by decide
  have hfits : d.MarkersFit f := show ∀ p ∈ d.places, f.columnsBefore p ≤ markerLimit by decide
  obtain ⟨-, hspans, hstrokes⟩ := colors_decorate hescape
  rcases hstrokes hsize with ⟨spans, hrender, hwritten, hclosed⟩ | ⟨e, _, _, herror, -⟩
  · exact ⟨hescape, hsize, spans, hrender, hspans spans hrender, hwritten, hclosed⟩
  · rw [(Sketch.draws_diagnostic (numberWidth_le hsize d config) hfits).1] at herror
    contradiction

end

end ScriptCheck
