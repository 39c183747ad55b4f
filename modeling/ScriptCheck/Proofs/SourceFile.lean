import Mathlib.Data.List.Basic
import Mathlib.Data.List.DropRight
import ScriptCheck.Proofs.Token.Tokenization
import ScriptCheck.SourceFile

/-!
# Lines and columns

Wherever a text is cut between two characters, the table of its lines says which line that is: as
many lines are before it as there are line feeds before the cut, and the line goes back to the last
one of these and on to the next one.

* `Lines` — the lines of a text
* `lines_ofText` — the table of a text has its lines
* `CutIn`, `Lines.exists_cutIn` — every cut lies in one of the lines
* `SourceFile.exists_line_of_cut` — the table finds the line of a cut
-/

namespace ScriptCheck

open Text

/-! ## The lines of a text -/

/-- The lines of a text whose first byte has an offset. A line feed stands behind each but the
last one. -/
inductive Lines : Nat → List Char → List Line → Prop
  | last {start : Nat} {cs : List Char} (hcs : '\n' ∉ cs) : Lines start cs [⟨start, cs⟩]
  | cons {start : Nat} {cs rest : List Char} {lines : List Line} (hcs : '\n' ∉ cs)
      (hrest : Lines (start + byteSize cs + 1) rest lines) :
      Lines start (cs ++ '\n' :: rest) (⟨start, cs⟩ :: lines)

/-- What was found so far only stands in front, and what was read of the current line is its
beginning. -/
theorem lines_splitFrom (lines : List Line) {start pos : Nat} {read cs : List Char}
    (hread : '\n' ∉ read) (hpos : pos = start + byteSize read.reverse) :
    ∃ more, Line.splitFrom lines start pos read cs = lines.reverse ++ more ∧
      Lines start (read.reverse ++ cs) more := by
  induction cs generalizing lines start pos read with
  | nil =>
    refine ⟨[⟨start, read.reverse⟩], by simp [Line.splitFrom], ?_⟩
    rw [List.append_nil]
    exact .last (by simpa using hread)
  | cons c cs ih =>
    rw [Line.splitFrom]
    by_cases hc : c = '\n'
    · subst hc
      rw [if_pos rfl]
      obtain ⟨more, hmore, hlines⟩ :=
        @ih (⟨start, read.reverse⟩ :: lines) (pos + 1) (pos + 1) [] nofun rfl
      refine ⟨⟨start, read.reverse⟩ :: more, by simp [hmore], .cons (by simpa using hread) ?_⟩
      rw [← hpos]
      exact hlines
    · rw [if_neg hc]
      have hread' : '\n' ∉ c :: read := by
        rw [List.mem_cons, not_or]
        exact ⟨Ne.symm hc, hread⟩
      have hpos' : pos + c.utf8Size = start + byteSize (c :: read).reverse := by
        simp [hpos, Nat.add_assoc]
      obtain ⟨more, hmore, hlines⟩ := ih lines hread' hpos'
      refine ⟨more, hmore, ?_⟩
      simpa using hlines

/-- **The table of a text has its lines.** -/
theorem lines_ofText (text : String) : Lines 0 text.toList (Line.ofText text).toList := by
  obtain ⟨more, hmore, hlines⟩ := @lines_splitFrom [] 0 0 [] text.toList (by simp) rfl
  rw [Line.ofText, hmore]
  exact hlines

theorem byteSize_append_lineFeed (cs rest : List Char) :
    byteSize (cs ++ '\n' :: rest) = byteSize cs + 1 + byteSize rest := by
  have hfeed : ('\n' : Char).utf8Size = 1 := rfl
  rw [byteSize_append, byteSize_cons, hfeed, Nat.add_assoc]

/-- What is left of the line that a text begins in. -/
def restOfLine (cs : List Char) : List Char := cs.takeWhile (· ≠ '\n')

@[simp] theorem restOfLine_lineFeed (cs : List Char) : restOfLine ('\n' :: cs) = [] := rfl

theorem restOfLine_of_not_mem {cs : List Char} (h : '\n' ∉ cs) : restOfLine cs = cs := by
  refine List.takeWhile_eq_self_iff.2 fun c hc => decide_eq_true fun heq => ?_
  exact h (heq ▸ hc)

theorem restOfLine_append {cs : List Char} (h : '\n' ∉ cs) (rest : List Char) :
    restOfLine (cs ++ '\n' :: rest) = cs := by
  refine takeWhile_front (fun c hc => decide_eq_true fun heq => ?_) (by simp)
  exact h (heq ▸ hc)

/-- What there is so far of the line that a text ends in. -/
def lineSoFar (cs : List Char) : List Char := cs.rtakeWhile (· ≠ '\n')

theorem lineSoFar_of_not_mem {cs : List Char} (h : '\n' ∉ cs) : lineSoFar cs = cs := by
  refine List.rtakeWhile_eq_self_iff.2 fun c hc => decide_eq_true fun heq => ?_
  exact h (heq ▸ hc)

theorem lineSoFar_append (cs rest : List Char) :
    lineSoFar (cs ++ '\n' :: rest) = lineSoFar rest := by
  have hreverse : (cs ++ '\n' :: rest).reverse = rest.reverse ++ '\n' :: cs.reverse := by simp
  unfold lineSoFar List.rtakeWhile
  rw [hreverse, List.takeWhile_append]
  split
  · next hall =>
    rw [(List.takeWhile_prefix _).eq_of_length hall]
    simp
  · rfl

/-- How a cut of a text lies among the lines: the line of the cut goes back to the end of the
`head` before it; the lines in front of it begin before the cut, and those behind it do not. -/
structure CutIn (start : Nat) (before after head tail : List Char) (lines front back : List Line) :
    Prop where
  before_eq : before = head ++ tail
  tail_eq : tail = lineSoFar before
  lines_eq : lines = front ++ ⟨start + byteSize head, tail ++ restOfLine after⟩ :: back
  length_eq : front.length = before.count '\n'
  le_cut : ∀ l ∈ front, l.start ≤ start + byteSize before
  cut_lt : ∀ l ∈ back, start + byteSize before < l.start

section

variable {start : Nat} {cs rest before after head tail : List Char} {lines front back : List Line}

/-- A cut in the first line. -/
theorem CutIn.here (hbefore : '\n' ∉ before)
    (hback : ∀ l ∈ back, start + byteSize before < l.start) :
    CutIn start before after [] before (⟨start, before ++ restOfLine after⟩ :: back) [] back :=
  ⟨rfl, (lineSoFar_of_not_mem hbefore).symm, rfl, (List.count_eq_zero.2 hbefore).symm, nofun,
    hback⟩

/-- A cut in a later line. -/
theorem CutIn.below (hcs : '\n' ∉ cs)
    (h : CutIn (start + byteSize cs + 1) before after head tail lines front back) :
    CutIn start (cs ++ '\n' :: before) after (cs ++ '\n' :: head) tail (⟨start, cs⟩ :: lines)
      (⟨start, cs⟩ :: front) back := by
  have hsize (ds : List Char) :
      start + byteSize (cs ++ '\n' :: ds) = start + byteSize cs + 1 + byteSize ds := by
    rw [byteSize_append_lineFeed, ← Nat.add_assoc, ← Nat.add_assoc]
  obtain ⟨rfl, htail, rfl, hlength, hfront, hback⟩ := h
  refine ⟨by simp, htail.trans (lineSoFar_append cs _).symm, by rw [hsize]; rfl, ?_, ?_, ?_⟩
  · rw [List.count_append, List.count_eq_zero.2 hcs, List.count_cons_self, List.length_cons,
      hlength, Nat.zero_add]
  · rw [hsize]
    intro l hl
    rcases List.mem_cons.1 hl with rfl | hl
    · show start ≤ _
      omega
    · exact hfront l hl
  · rw [hsize]
    exact hback

/-- The line of a cut is found by the number of line feeds before it. -/
theorem CutIn.getElem? (h : CutIn start before after head tail lines front back) :
    lines[before.count '\n']? = some ⟨start + byteSize head, tail ++ restOfLine after⟩ := by
  rw [h.lines_eq, ← h.length_eq, List.getElem?_append_right (Nat.le_refl _)]
  simp

/-- The lines that start before a cut are those in front of its line, and its line. -/
theorem CutIn.countP_start (h : CutIn start before after head tail lines front back) :
    lines.countP (·.start ≤ start + byteSize before) = before.count '\n' + 1 := by
  have hfront : front.countP (·.start ≤ start + byteSize before) = front.length :=
    List.countP_eq_length.2 fun l hl => decide_eq_true (h.le_cut l hl)
  have hback : back.countP (·.start ≤ start + byteSize before) = 0 :=
    List.countP_eq_zero.2 fun l hl => by simpa using h.cut_lt l hl
  have hhead : byteSize head ≤ byteSize before := by
    rw [h.before_eq, byteSize_append]
    omega
  rw [h.lines_eq, List.countP_append, List.countP_cons, hfront, hback, h.length_eq]
  simp [hhead]

theorem Lines.start_le (h : Lines start cs lines) : ∀ l ∈ lines, start ≤ l.start := by
  induction h with
  | last _ => simp
  | @cons start cs rest lines _ _ ih =>
    intro l hl
    rcases List.mem_cons.1 hl with rfl | hl
    · exact Nat.le_refl _
    · have := ih l hl
      omega

/-- **Every cut lies in one of the lines.** -/
theorem Lines.exists_cutIn (h : Lines start (before ++ after) lines) :
    ∃ head tail front back, CutIn start before after head tail lines front back := by
  generalize hcs : before ++ after = cs at h
  induction h generalizing before with
  | @last start cs hnot =>
    rw [← hcs, List.mem_append, not_or] at hnot
    have hline : cs = before ++ restOfLine after := by rw [restOfLine_of_not_mem hnot.2, hcs]
    rw [hline]
    exact ⟨_, _, _, _, .here hnot.1 nofun⟩
  | @cons start cs rest lines hnot hrest ih =>
    have hbehind : ∀ l ∈ lines, start + byteSize cs < l.start := hrest.start_le
    rcases List.append_eq_append_iff.1 hcs with ⟨mid, rfl, rfl⟩ | ⟨mid, rfl, hmid⟩
    · -- the first line goes on behind the cut
      rw [List.mem_append, not_or] at hnot
      have hline : before ++ mid = before ++ restOfLine (mid ++ '\n' :: rest) := by
        rw [restOfLine_append hnot.2]
      rw [hline]
      refine ⟨_, _, _, _, .here hnot.1 fun l hl => ?_⟩
      have := hbehind l hl
      rw [byteSize_append] at this
      omega
    · cases mid with
      | nil =>
        -- the first line ends at the cut
        obtain rfl : '\n' :: rest = after := hmid
        have hcut : CutIn start cs ('\n' :: rest) [] cs
            (⟨start, cs ++ restOfLine ('\n' :: rest)⟩ :: lines) [] lines := .here hnot hbehind
        rw [restOfLine_lineFeed, List.append_nil] at hcut
        rw [List.append_nil]
        exact ⟨_, _, _, _, hcut⟩
      | cons c mid =>
        obtain ⟨hc, hrest⟩ := List.cons.inj hmid
        obtain ⟨head, tail, front, back, hcut⟩ := ih hrest.symm
        rw [← hc]
        exact ⟨_, _, _, _, hcut.below hnot⟩

end

/-! ## Files -/

namespace SourceFile

variable {f : SourceFile} {before after : List Char} {line : Line} {index : Nat}

theorem lineStart?_of_getElem? (h : f.lines[index]? = some line) :
    f.lineStart? index = some line.start := by
  rw [lineStart?, h]
  rfl

theorem lineText?_of_getElem? (h : f.lines[index]? = some line) :
    f.lineText? index = some line.shown := by
  rw [lineText?, h]
  rfl

theorem lines_toList (f : SourceFile) : Lines 0 f.text.toList f.lines.toList := by
  rw [f.lines_eq]
  exact lines_ofText f.text

theorem byteSize_le_size (h : f.text.toList = before ++ after) : byteSize before ≤ f.size := by
  rw [size, ← byteSize_toList, h, byteSize_append]
  omega

/-- **The table of a file finds the line of a cut: its index counts the line feeds before the cut,
and it starts behind the last one of these.** -/
theorem exists_line_of_cut (h : f.text.toList = before ++ after) :
    ∃ head tail, before = head ++ tail ∧ tail = lineSoFar before ∧
      f.lines[before.count '\n']? = some ⟨byteSize head, tail ++ restOfLine after⟩ ∧
      f.lineIndex? (byteSize before) = some (before.count '\n') := by
  have hlines := f.lines_toList
  rw [h] at hlines
  obtain ⟨head, tail, front, back, hcut⟩ := hlines.exists_cutIn
  have hcount := hcut.countP_start
  have hline := hcut.getElem?
  rw [Nat.zero_add, Array.countP_toList] at hcount
  rw [Nat.zero_add, Array.getElem?_toList] at hline
  refine ⟨head, tail, hcut.before_eq, hcut.tail_eq, hline, ?_⟩
  rw [lineIndex?, if_neg (Nat.not_lt_of_le (byteSize_le_size h)), hcount, Nat.add_sub_cancel]

-- the first line is three bytes long: two of its letter, and the line feed
example : (ofText "main" "é\nx" none).lineColumn? 3 = some (2, 1) := by rfl

end SourceFile

end ScriptCheck
