import ScriptCheck.Proofs.OnLine
import ScriptCheck.Proofs.SourceFile

/-!
# The lines of a file and the line ends of a script

The table of a file begins a new line behind a line feed only. A script has more ends of lines: a
carriage return alone and the two separators end a statement as well, and the file goes on in the
same line. Where a token begins, and at the end, the table therefore counts those line ends of the
script that a line feed is part of.

* `lineEndsBefore` — the line ends of a script that are complete at a byte offset
* `exists_front_of_mem_bounds` — in front of a token, and in front of the end, are whole lexemes
* `count_lineFeed_flatMap` — lexemes have as many line feeds as tokens that break a line
* `lineColumn_counts_lineEnds` — the line at which a token begins
* `lineColumn_behind_carriageReturn` — behind a carriage return alone there is no new line
-/

namespace ScriptCheck

open Text

/-- Whether the token is an end of a line in the table of a file too: a line feed, or a carriage
return and a line feed. -/
def Token.BreaksLine (t : Token) : Prop := t.text = "\n" ∨ t.text = "\r\n"

instance (t : Token) : Decidable t.BreaksLine := inferInstanceAs (Decidable (_ ∨ _))

/-- The line ends of a script that end at a byte offset, or before. -/
def lineEndsBefore (source : String) (p : Nat) : List Token :=
  (tokens source).filter fun t => t.kind = .newline ∧ t.pos + t.text.utf8ByteSize ≤ p

/-- The byte offsets at which the tokens of a script begin, and that of its end. -/
def tokenBounds (source : String) : List Nat :=
  (tokens source).map Token.pos ++ [source.utf8ByteSize]

/-! ## Line feeds in lexemes -/

/-- A lexeme has one line feed if its token breaks a line, and else none. -/
theorem count_lineFeed_raw {m : PlacedLexeme} (h : m.lexeme.WellFormed) :
    m.lexeme.raw.count '\n' = if m.token.kind = .newline ∧ m.token.BreaksLine then 1 else 0 := by
  obtain ⟨pos, l⟩ := m
  by_cases hkind : l.kind = .newline
  · cases l with
    | lineEnd e => cases e <;> rfl
    | word letters =>
      rw [Lexeme.kind] at hkind
      split at hkind <;> contradiction
    | _ => contradiction
  · have hnot : '\n' ∉ l.raw := fun hmem => by
      have hline := Lexeme.isLineEnd_of_mem_raw h hkind _ hmem
      contradiction
    rw [if_neg fun hc => hkind hc.1]
    exact List.count_eq_zero.2 hnot

/-- A row of lexemes has as many line feeds as tokens that break a line. -/
theorem count_lineFeed_flatMap (pos : Nat) {ls : List Lexeme} (h : ∀ l ∈ ls, l.WellFormed) :
    (ls.flatMap Lexeme.raw).count '\n' =
      (((placeLexemes pos ls).map PlacedLexeme.token).filter (·.kind = .newline)).countP
        (·.BreaksLine) := by
  induction ls generalizing pos with
  | nil => rfl
  | cons l ls ih =>
    have hl : (⟨pos, l⟩ : PlacedLexeme).lexeme.WellFormed := h l List.mem_cons_self
    have hls := ih (pos + byteSize l.raw) fun m hm => h m (List.mem_cons_of_mem l hm)
    rw [List.flatMap_cons, List.count_append, count_lineFeed_raw hl, hls, placeLexemes_cons,
      List.map_cons]
    by_cases hkind : (⟨pos, l⟩ : PlacedLexeme).token.kind = .newline
    · by_cases hbreaks : (⟨pos, l⟩ : PlacedLexeme).token.BreaksLine
      · simp [hkind, hbreaks, Nat.add_comm]
      · simp [hkind, hbreaks]
    · simp [hkind]

/-! ## The line ends in front of a token -/

section

variable {source : String} {p : Nat} {front back : List Lexeme}

/-- In front of a token, and in front of the end, are whole lexemes. -/
theorem exists_front_of_mem_bounds (hp : p ∈ tokenBounds source) :
    ∃ front back, lexemes source.toList = front ++ back ∧
      p = byteSize (front.flatMap Lexeme.raw) := by
  rcases List.mem_append.1 hp with hp | hp
  · obtain ⟨t, ht, rfl⟩ := List.mem_map.1 hp
    obtain ⟨m, hm, rfl⟩ := List.mem_map.1 ht
    obtain ⟨front, back, -, hlexemes, hpos⟩ := exists_append_of_mem_scan hm
    exact ⟨front, m.lexeme :: back, hlexemes, hpos⟩
  · refine ⟨lexemes source.toList, [], (List.append_nil _).symm, ?_⟩
    rw [flatMap_raw_lexemes, byteSize_toList]
    exact List.mem_singleton.1 hp

theorem size_text_of_newline {m : PlacedLexeme} (h : m.token.kind = .newline) :
    m.token.text.utf8ByteSize = byteSize m.lexeme.raw := by
  rw [← byteSize_toList, toList_text_of_kind_ne (by simp [h])]

/-- The line ends before the end of a row of lexemes are those of the row. -/
theorem lineEndsBefore_front (h : lexemes source.toList = front ++ back) :
    lineEndsBefore source (byteSize (front.flatMap Lexeme.raw)) =
      ((placeLexemes 0 front).map PlacedLexeme.token).filter (·.kind = .newline) := by
  have hwf := (apart_lexemes source.toList).wellFormed
  rw [h] at hwf
  rw [lineEndsBefore, tokens, scan, h, placeLexemes_append, List.map_append, List.filter_append,
    Nat.zero_add]
  have hfront : ∀ m ∈ placeLexemes 0 front, m.token.kind = .newline →
      m.token.pos + m.token.text.utf8ByteSize ≤ byteSize (front.flatMap Lexeme.raw) := by
    intro m hm hkind
    have hend := (end_of_mem_placeLexemes hm).2
    rw [size_text_of_newline hkind]
    show m.pos + _ ≤ _
    omega
  have hback : ∀ m ∈ placeLexemes (byteSize (front.flatMap Lexeme.raw)) back,
      m.token.kind = .newline →
      ¬ m.token.pos + m.token.text.utf8ByteSize ≤ byteSize (front.flatMap Lexeme.raw) := by
    intro m hm hkind
    have hstart := (end_of_mem_placeLexemes hm).1
    have hmem := lexeme_mem_of_mem_placeLexemes hm
    have hsize := byteSize_pos (hwf _ (List.mem_append_right front hmem)).raw_ne_nil
    rw [size_text_of_newline hkind]
    show ¬ m.pos + _ ≤ _
    omega
  have hnone : ((placeLexemes (byteSize (front.flatMap Lexeme.raw)) back).map
      PlacedLexeme.token).filter (fun t => t.kind = .newline ∧
        t.pos + t.text.utf8ByteSize ≤ byteSize (front.flatMap Lexeme.raw)) = [] := by
    rw [List.filter_eq_nil_iff]
    intro t ht hnew
    obtain ⟨m, hm, rfl⟩ := List.mem_map.1 ht
    obtain ⟨hkind, hend⟩ := of_decide_eq_true hnew
    exact hback m hm hkind hend
  rw [hnone, List.append_nil]
  refine List.filter_congr fun t ht => ?_
  obtain ⟨m, hm, rfl⟩ := List.mem_map.1 ht
  rw [decide_eq_decide]
  exact ⟨And.left, fun hkind => ⟨hkind, hfront m hm hkind⟩⟩

end

/-! ## Lines -/

/-- At the start of a token, and at the end, the table of a file counts the line ends that break a
line. -/
theorem exists_lineColumn_of_mem_bounds {f : SourceFile} {p : Nat}
    (hp : p ∈ tokenBounds f.text) :
    ∃ column,
      f.lineColumn? p = some (1 + (lineEndsBefore f.text p).countP (·.BreaksLine), column) := by
  obtain ⟨front, back, hlexemes, rfl⟩ := exists_front_of_mem_bounds hp
  have hwf := (apart_lexemes f.text.toList).wellFormed
  have htext := flatMap_raw_lexemes f.text.toList
  rw [hlexemes] at hwf
  rw [hlexemes, List.flatMap_append] at htext
  obtain ⟨head, tail, -, -, hline, hindex⟩ := SourceFile.exists_line_of_cut htext.symm
  have hcount := count_lineFeed_flatMap 0 fun l hl => hwf l (List.mem_append_left back hl)
  rw [lineEndsBefore_front hlexemes, ← hcount, Nat.add_comm]
  refine ⟨byteSize (front.flatMap Lexeme.raw) - byteSize head + 1, ?_⟩
  simp [SourceFile.lineColumn?, hindex, SourceFile.lineStart?_of_getElem? hline]

/-- **At the start of a token, and at the end, the line of a file is one more than there are line
ends before it that a line feed is part of. So files and scripts count the same lines there exactly
if no carriage return alone and no separator is among these line ends.** -/
theorem lineColumn_counts_lineEnds (f : SourceFile) (p : Nat) (hp : p ∈ tokenBounds f.text) :
    ∃ line column, f.lineColumn? p = some (line, column) ∧
      line = 1 + (lineEndsBefore f.text p).countP (·.BreaksLine) ∧
      (line = 1 + (lineEndsBefore f.text p).length ↔
        ∀ t ∈ lineEndsBefore f.text p, t.BreaksLine) := by
  obtain ⟨column, hplace⟩ := exists_lineColumn_of_mem_bounds hp
  refine ⟨_, column, hplace, rfl, ?_⟩
  rw [Nat.add_left_cancel_iff, List.countP_eq_length]
  simp only [decide_eq_true_eq]

/-- Of two line ends of a script, only the first is one of the file. -/
theorem lineColumn_behind_separator :
    7 ∈ tokenBounds "a\r\nb\u2028c" ∧ (lineEndsBefore "a\r\nb\u2028c" 7).length = 2 ∧
      ∃ column,
        (SourceFile.ofText "main" "a\r\nb\u2028c" none).lineColumn? 7 = some (2, column) := by
  have hmem : 7 ∈ tokenBounds "a\r\nb\u2028c" := by decide +kernel
  obtain ⟨line, column, hplace, rfl, -⟩ :=
    lineColumn_counts_lineEnds (.ofText "main" "a\r\nb\u2028c" none) 7 hmem
  have hcount : (lineEndsBefore "a\r\nb\u2028c" 7).countP (·.BreaksLine) = 1 := by decide +kernel
  refine ⟨hmem, by decide +kernel, column, ?_⟩
  rw [hplace]
  show some (1 + (lineEndsBefore "a\r\nb\u2028c" 7).countP (·.BreaksLine), column) = _
  rw [hcount]

/-- Behind a carriage return alone, a script goes on in a new line and its file does not. -/
theorem lineColumn_behind_carriageReturn :
    ¬ ∀ p ∈ tokenBounds "\r", ∃ column,
      (SourceFile.ofText "main" "\r" none).lineColumn? p =
        some (1 + (lineEndsBefore "\r" p).length, column) := by
  have hplace : (SourceFile.ofText "main" "\r" none).lineColumn? 1 = some (1, 2) := by decide
  have hcount : (lineEndsBefore "\r" 1).length = 1 := by decide +kernel
  intro h
  obtain ⟨column, hline⟩ := h 1 (by decide +kernel)
  rw [hplace, hcount] at hline
  simp at hline

end ScriptCheck
