import Mathlib.Tactic.IntervalCases
import ScriptCheck.Proofs.OnLine
import ScriptCheck.Proofs.SourceFile
import ScriptCheck.Report.Render

/-!
# Markers and the room that there is for them

A marker stands below its character because there are as many blanks before it as the line has
columns up to the character. Only so many blanks fit, and this is all that can go wrong: a
diagnostic is drawn, wherever its places are, exactly if its markers fit, and if not, drawing fails
at the first marker that does not.

* `SourceFile.columnsBefore` — the columns before a byte offset, by the text alone
* `SourceFile.shownBefore_eq` — this is the text that is measured for a marker
* `Diagnostic.MarkersFit` — no marker of a diagnostic is too far to the right
* `Diagnostic.exists_render`, `Diagnostic.render_eq_error` — what becomes of a diagnostic whose
  markers fit, and of one whose markers do not
* `exists_not_markersFit` — there are scripts with such diagnostics
-/

namespace ScriptCheck

open Text

/-! ## Offsets inside a character -/

section

variable {cs before after : List Char} {c : Char} {p : Nat}

/-- A byte offset is between two characters of a text or inside one. -/
theorem exists_cut (h : p ≤ byteSize cs) :
    (∃ before after, cs = before ++ after ∧ p = byteSize before) ∨
      ∃ before c after, cs = before ++ c :: after ∧ byteSize before < p ∧
        p < byteSize before + c.utf8Size := by
  induction cs generalizing p with
  | nil => exact .inl ⟨[], [], rfl, Nat.le_zero.1 h⟩
  | cons c cs ih =>
    rw [byteSize_cons] at h
    by_cases hzero : p = 0
    · exact .inl ⟨[], c :: cs, rfl, hzero⟩
    by_cases hinside : p < c.utf8Size
    · exact .inr ⟨[], c, cs, rfl, by simp; omega, by simpa using hinside⟩
    have hrest : p - c.utf8Size ≤ byteSize cs := by omega
    rcases ih hrest with ⟨before, after, rfl, hp⟩ | ⟨before, d, after, rfl, hstart, hend⟩
    · exact .inl ⟨c :: before, after, rfl, by rw [byteSize_cons]; omega⟩
    · refine .inr ⟨c :: before, d, after, rfl, ?_, ?_⟩ <;> rw [byteSize_cons] <;> omega

theorem takeBytesFrom_inside (taken cs after : List Char) (hstart : byteSize cs < p)
    (hend : p < byteSize cs + c.utf8Size) : takeBytesFrom taken (cs ++ c :: after) p = none := by
  obtain ⟨n, rfl⟩ : ∃ n, p = n + 1 := ⟨p - 1, by omega⟩
  induction cs generalizing taken n with
  | nil =>
    rw [byteSize_nil, Nat.zero_add] at hend
    rw [List.nil_append, takeBytesFrom, if_neg (by omega)]
  | cons d cs ih =>
    rw [byteSize_cons] at hstart hend
    obtain ⟨m, hm⟩ : ∃ m, n + 1 - d.utf8Size = m + 1 := ⟨n - d.utf8Size, by omega⟩
    rw [List.cons_append, takeBytesFrom, if_pos (by omega), hm]
    exact ih (d :: taken) m (by omega) (by omega)

/-- There is no room for an offset inside a line feed. -/
theorem ne_lineFeed_of_inside {start : Nat} (hstart : start < p) (hend : p < start + c.utf8Size) :
    c ≠ '\n' := by
  rintro rfl
  have hfeed : ('\n' : Char).utf8Size = 1 := rfl
  omega

/-- Nothing is taken up to an offset inside a character. -/
theorem takeBytes?_inside (hstart : byteSize before < p) (hend : p < byteSize before + c.utf8Size) :
    takeBytes? (before ++ c :: after) p = none :=
  takeBytesFrom_inside [] before after hstart hend

end

/-! ## Columns -/

namespace SourceFile

variable {f : SourceFile} {before after : List Char} {c : Char} {p : Nat}

/-- The columns before a byte offset on its line, tabulators expanded. There are none if the offset
lies inside a character, and an offset behind the text is taken for its end. -/
def columnsBefore (f : SourceFile) (pos : Nat) : Nat :=
  columnWidth (expandTabs (lineSoFar ((takeBytes? f.text.toList (f.clamp pos)).getD [])))

/-- What is between two offsets on a line is on that line. -/
theorem lineIndex?_between {start stop index : Nat} (hstart : f.lineIndex? start = some index)
    (hstop : f.lineIndex? stop = some index) (hle : start ≤ p) (hge : p ≤ stop) :
    f.lineIndex? p = some index := by
  have hmono {i j : Nat} (hij : i ≤ j) :
      f.lines.countP (·.start ≤ i) ≤ f.lines.countP (·.start ≤ j) := by
    rw [← Array.countP_toList, ← Array.countP_toList]
    refine List.countP_mono_left fun l _ hl => ?_
    exact decide_eq_true (Nat.le_trans (of_decide_eq_true hl) hij)
  have hlow := hmono hle
  have hhigh := hmono hge
  unfold lineIndex? at hstart hstop ⊢
  split at hstart
  · contradiction
  split at hstop
  · contradiction
  rw [if_neg (by omega)]
  rw [Option.some.injEq] at hstart hstop ⊢
  omega

/-- An offset inside a character is on the line of the character. -/
theorem lineIndex?_inside (htext : f.text.toList = before ++ c :: after)
    (hstart : byteSize before < p) (hend : p < byteSize before + c.utf8Size) :
    f.lineIndex? p = some (before.count '\n') := by
  have htext' : f.text.toList = (before ++ [c]) ++ after := by rw [htext]; simp
  have hcount : (before ++ [c]).count '\n' = before.count '\n' := by
    simp [List.count_append, ne_lineFeed_of_inside hstart hend]
  obtain ⟨-, -, -, -, -, hindex⟩ := exists_line_of_cut htext
  obtain ⟨-, -, -, -, -, hindex'⟩ := exists_line_of_cut htext'
  rw [hcount, byteSize_append, byteSize_cons, byteSize_nil, Nat.add_zero] at hindex'
  exact lineIndex?_between hindex hindex' (by omega) (by omega)

/-- **What is measured for a marker is the text from the last line feed on, also where the offset of
the marker lies inside a character: then there is no such text.** -/
theorem shownBefore_eq (h : p ≤ f.size) :
    f.shownBefore ((f.lineIndex? p).getD 0) p =
      expandTabs (lineSoFar ((takeBytes? f.text.toList p).getD [])) := by
  have hsize : p ≤ byteSize f.text.toList := by rwa [byteSize_toList]
  rcases exists_cut hsize with ⟨before, after, htext, rfl⟩ | ⟨before, c, after, htext, hstart, hend⟩
  · obtain ⟨head, tail, hbefore, htail, hline, hindex⟩ := exists_line_of_cut htext
    have hsplit : byteSize before - byteSize head = byteSize tail := by
      rw [hbefore, byteSize_append, Nat.add_sub_cancel_left]
    rw [hindex, Option.getD_some, shownBefore, hline, htext, takeBytes?_append, Option.getD_some,
      ← htail]
    dsimp only
    rw [hsplit, takeBytes?_append]
    rfl
  · obtain ⟨head, tail, hbefore, -, hline, -⟩ := exists_line_of_cut htext
    have hrest : restOfLine (c :: after) = c :: restOfLine after :=
      List.takeWhile_cons_of_pos (decide_eq_true (ne_lineFeed_of_inside hstart hend))
    have hsplit : byteSize before = byteSize head + byteSize tail := by
      rw [hbefore, byteSize_append]
    rw [lineIndex?_inside htext hstart hend, Option.getD_some, shownBefore, hline, hrest, htext,
      takeBytes?_inside hstart hend]
    dsimp only
    rw [takeBytes?_inside (by omega) (by omega)]
    rfl

end SourceFile

/-! ## Drawing -/

/-- A snippet is drawn if its marker fits. -/
theorem Canvas.exists_snippet {canvas : Canvas} {p : Nat} (marker : Marker)
    (h : canvas.source.columnsBefore p ≤ markerLimit) :
    ∃ spans, canvas.snippet p marker = .ok spans := by
  have hclamp : canvas.source.clamp p ≤ canvas.source.size := Nat.min_le_right _ _
  unfold SourceFile.columnsBefore at h
  rw [Canvas.snippet, SourceFile.shownBefore_eq hclamp, if_neg (Nat.not_lt.2 h)]
  exact ⟨_, rfl⟩

/-- A snippet is not drawn if its marker does not fit. -/
theorem Canvas.snippet_eq_error {canvas : Canvas} {p : Nat} (marker : Marker)
    (h : markerLimit < canvas.source.columnsBefore p) :
    canvas.snippet p marker = .error (.markerTooFar (canvas.source.columnsBefore p)) := by
  have hclamp : canvas.source.clamp p ≤ canvas.source.size := Nat.min_le_right _ _
  unfold SourceFile.columnsBefore at h ⊢
  rw [Canvas.snippet, SourceFile.shownBefore_eq hclamp, if_pos h]

namespace Diagnostic

variable {d : Diagnostic} {f : SourceFile} {p : Nat}

/-- Whether there is room for the markers of a diagnostic and of its labels. -/
def MarkersFit (d : Diagnostic) (f : SourceFile) : Prop :=
  ∀ p ∈ d.places, f.columnsBefore p ≤ markerLimit

instance : Decidable (d.MarkersFit f) := inferInstanceAs (Decidable (∀ p ∈ d.places, _))

/-- What a diagnostic is drawn on. -/
def canvas (d : Diagnostic) (f : SourceFile) (config : Config) : Canvas :=
  ⟨config, f, (toString (d.lastLine f)).length⟩

/-- The snippet of the source for a diagnostic itself. -/
def primary (d : Diagnostic) (f : SourceFile) (config : Config) : Except RenderFault (List Span) :=
  (d.canvas f config).snippet d.pos ⟨config.errorStyle, config.underline, ""⟩

/-- The snippet of the source for a label of a diagnostic. -/
def secondary (d : Diagnostic) (f : SourceFile) (config : Config) (l : Label) :
    Except RenderFault (List Span) :=
  (d.canvas f config).snippet l.pos ⟨config.labelStyle, config.labelUnderline, " " ++ l.message⟩

theorem render_eq (d : Diagnostic) (f : SourceFile) (config : Config) :
    d.render f config = do
      let primary ← d.primary f config
      let secondary ← d.labels.mapM (d.secondary f config)
      return d.header config ++ [d.location (d.canvas f config)] ++ primary ++
        secondary.flatten ++ [Canvas.plain "\n"] := rfl

/-- **A diagnostic whose markers fit is drawn.** -/
theorem exists_render (h : d.MarkersFit f) (config : Config) :
    ∃ spans, d.render f config = .ok spans := by
  obtain ⟨hpos, hlabels⟩ := List.forall_mem_cons.1 h
  obtain ⟨primary, hprimary⟩ : ∃ spans, d.primary f config = .ok spans :=
    Canvas.exists_snippet _ hpos
  have hdrawn : ∀ l ∈ d.labels, ∃ spans, d.secondary f config l = .ok spans := fun l hl =>
    Canvas.exists_snippet _ (hlabels l.pos (List.mem_map_of_mem hl))
  obtain ⟨secondary, hsecondary⟩ := exists_mapM_eq_ok hdrawn
  rw [render_eq, hprimary, hsecondary]
  exact ⟨_, rfl⟩

/-- **Drawing fails at the first marker for which there is no room.** -/
theorem render_eq_error {front back : List Nat} (hplaces : d.places = front ++ p :: back)
    (hfront : ∀ q ∈ front, f.columnsBefore q ≤ markerLimit)
    (hp : markerLimit < f.columnsBefore p) (config : Config) :
    d.render f config = .error (.markerTooFar (f.columnsBefore p)) := by
  rw [render_eq]
  cases front with
  | nil =>
    obtain ⟨rfl, -⟩ := List.cons.inj hplaces
    have hprimary : d.primary f config = .error (.markerTooFar (f.columnsBefore d.pos)) :=
      Canvas.snippet_eq_error _ hp
    rw [hprimary]
    rfl
  | cons q front =>
    obtain ⟨rfl, hlabels⟩ := List.cons.inj hplaces
    obtain ⟨hpos, hfront⟩ := List.forall_mem_cons.1 hfront
    obtain ⟨primary, hprimary⟩ : ∃ spans, d.primary f config = .ok spans :=
      Canvas.exists_snippet _ hpos
    obtain ⟨ls, ms, hls, rfl, hms⟩ := List.map_eq_append_iff.1 hlabels
    obtain ⟨l, ms, rfl, rfl, -⟩ := List.map_eq_cons_iff.1 hms
    have hsecondary : d.labels.mapM (d.secondary f config) =
        .error (.markerTooFar (f.columnsBefore l.pos)) := by
      rw [hls]
      exact mapM_eq_error
        (fun m hm => Canvas.exists_snippet _ (hfront m.pos (List.mem_map_of_mem hm)))
        (Canvas.snippet_eq_error _ hp)
    rw [hprimary, hsecondary]
    rfl

/-- A diagnostic whose markers do not all fit has a first one that does not. -/
theorem exists_render_eq_error (h : ¬ d.MarkersFit f) :
    ∃ p ∈ d.places, markerLimit < f.columnsBefore p ∧
      ∀ config, d.render f config = .error (.markerTooFar (f.columnsBefore p)) := by
  obtain ⟨front, p, back, hplaces, hfront, hp⟩ := exists_first_not h
  have hp : markerLimit < f.columnsBefore p := Nat.lt_of_not_le hp
  refine ⟨p, ?_, hp, render_eq_error hplaces hfront hp⟩
  rw [hplaces]
  exact List.mem_append_right front List.mem_cons_self

end Diagnostic

/-! ## A script whose diagnostic has no room -/

/-- A script with a character that is no part of the language behind so many blanks. -/
def signBehind (n : Nat) : String := String.ofList (List.replicate n ' ' ++ ['%'])

section

variable {n : Nat}

theorem lexemes_signBehind (hn : n ≠ 0) :
    lexemes (signBehind n).toList = [.blanks (List.replicate n ' '), .unknown '%'] := by
  rw [signBehind, String.toList_ofList, lexemes_eq_iff]
  have hblanks : (Lexeme.blanks (List.replicate n ' ')).WellFormed := by
    refine ⟨by simpa using hn, fun c hc => ?_⟩
    rw [List.eq_of_mem_replicate hc]
    decide
  have hsign : (Lexeme.unknown '%').WellFormed :=
    ⟨by decide, by decide, by decide, by decide, by decide⟩
  have hstops : (Lexeme.blanks (List.replicate n ' ')).takes '%' = false := by
    show isInlineBlank '%' = false
    decide
  exact ⟨by simp [Lexeme.raw], hblanks, Lexeme.stops_cons hstops [], hsign, Lexeme.stops_nil _,
    trivial⟩

theorem byteSize_blanks (n : Nat) : byteSize (List.replicate n ' ') = n := by
  induction n with
  | zero => rfl
  | succ n ih =>
    have hblank : (' ' : Char).utf8Size = 1 := rfl
    rw [List.replicate_succ, byteSize_cons, ih, hblank, Nat.add_comm]

/-- The only diagnostic of such a script is at the character. -/
theorem diagnostics_signBehind (hn : n ≠ 0) :
    (compile (signBehind n)).diagnostics =
      [LexError.toDiagnostic ⟨.unexpectedChar '%', n⟩] := by
  have hscan : scan (signBehind n) =
      [⟨0, .blanks (List.replicate n ' ')⟩, ⟨n, .unknown '%'⟩] := by
    rw [scan, lexemes_signBehind hn, placeLexemes_cons, placeLexemes_cons, placeLexemes_nil,
      Lexeme.raw, byteSize_blanks, Nat.zero_add]
  have hsignificant : significantTokens (scan (signBehind n)) = [] := by
    rw [hscan]
    rfl
  rw [compile, parse, hsignificant, readStatements_nil, hscan]
  rfl

/-- Blanks and digits take one column each. -/
theorem columnWidth_eq_length {cs : List Char} (h : ∀ c ∈ cs, c = ' ' ∨ c.isDigit = true) :
    columnWidth cs = cs.length := by
  have hmeasure : cs.foldr measureChar (0, .nothing) = (cs.length, .nothing) := by
    induction cs with
    | nil => rfl
    | cons c cs ih =>
      obtain ⟨hc, hcs⟩ := List.forall_mem_cons.1 h
      rw [List.foldr_cons, ih hcs, List.length_cons]
      rcases hc with rfl | hdigit
      · rfl
      · obtain ⟨hlow, hhigh⟩ := toNat_of_isDigit hdigit
        have hchar : c = Char.ofNat c.toNat := c.ofNat_toNat.symm
        generalize c.toNat = n at hlow hhigh hchar
        subst hchar
        interval_cases n <;> rfl
  rw [columnWidth, hmeasure]

theorem columnWidth_blanks (n : Nat) : columnWidth (List.replicate n ' ') = n := by
  rw [columnWidth_eq_length fun c hc => .inl (List.eq_of_mem_replicate hc), List.length_replicate]

theorem columnsBefore_signBehind {f : SourceFile} (htext : f.text = signBehind n) :
    f.columnsBefore n = n := by
  have hchars : f.text.toList = List.replicate n ' ' ++ ['%'] := by
    rw [htext, signBehind, String.toList_ofList]
  have hclamp : f.clamp n = n := by
    refine Nat.min_eq_left ?_
    rw [SourceFile.size, ← byteSize_toList, hchars, byteSize_append, byteSize_blanks]
    exact Nat.le_add_right n _
  have htaken : takeBytes? (List.replicate n ' ' ++ ['%']) n = some (List.replicate n ' ') := by
    have htaken := takeBytes?_append (List.replicate n ' ') ['%']
    rwa [byteSize_blanks] at htaken
  have hfeed : '\n' ∉ List.replicate n ' ' := fun h =>
    absurd (List.eq_of_mem_replicate h) (by decide)
  have hexpand : expandTabs (List.replicate n ' ') = List.replicate n ' ' := by
    rw [expandTabs, List.flatMap_replicate]
    simp
  rw [SourceFile.columnsBefore, hclamp, hchars, htaken, Option.getD_some,
    lineSoFar_of_not_mem hfeed, hexpand, columnWidth_blanks]

/-- **Behind too many blanks there is no room for a marker.** -/
theorem exists_not_markersFit {f : SourceFile} (htext : f.text = signBehind n)
    (hn : markerLimit < n) :
    ∃ d ∈ (compile f.text).diagnostics, ¬ d.MarkersFit f := by
  refine ⟨LexError.toDiagnostic ⟨.unexpectedChar '%', n⟩, ?_, fun hfit => ?_⟩
  · rw [htext, diagnostics_signBehind (by omega)]
    exact List.mem_cons_self
  · have hle := hfit n List.mem_cons_self
    rw [columnsBefore_signBehind htext] at hle
    omega

end

end ScriptCheck
