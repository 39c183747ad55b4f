import ScriptCheck.Proofs.Token.Munch

/-!
# Where lexemes stand

The lexemes of a script stand one behind the other, each on bytes of its own, and so do their
errors.

* `end_of_mem_placeLexemes`, `pairwise_end_placeLexemes` — the bytes of a lexeme
* `Lexeme.exists_backslash` — where the errors of a lexeme are in it
* `exists_append_of_mem_scan` — a script is cut in front of a lexeme and behind it
* `pairwise_pos_scan`, `pairwise_pos_end` — the lexemes of a script stand in order, and behind them
  is the end of the input
-/

namespace ScriptCheck

open Text

variable {pos : Nat} {ls : List Lexeme} {m : PlacedLexeme}

theorem placeLexemes_append (pos : Nat) (ls ms : List Lexeme) :
    placeLexemes pos (ls ++ ms) =
      placeLexemes pos ls ++ placeLexemes (pos + byteSize (ls.flatMap Lexeme.raw)) ms := by
  induction ls generalizing pos with
  | nil => rfl
  | cons l ls ih =>
    rw [List.cons_append, placeLexemes_cons, placeLexemes_cons, ih, List.flatMap_cons,
      byteSize_append, Nat.add_assoc, List.cons_append]

theorem map_lexeme_placeLexemes (pos : Nat) (ls : List Lexeme) :
    (placeLexemes pos ls).map PlacedLexeme.lexeme = ls := by
  induction ls generalizing pos with
  | nil => rfl
  | cons l ls ih => rw [placeLexemes_cons, List.map_cons, ih]

theorem lexeme_mem_of_mem_placeLexemes (hm : m ∈ placeLexemes pos ls) : m.lexeme ∈ ls := by
  rw [← map_lexeme_placeLexemes pos ls]
  exact List.mem_map_of_mem hm

theorem byteSize_pos {cs : List Char} (h : cs ≠ []) : 0 < byteSize cs := by
  obtain ⟨c, cs, rfl⟩ := List.exists_cons_of_ne_nil h
  have := c.utf8Size_pos
  rw [byteSize_cons]
  omega

/-- A token that is no string has the text that its lexeme covers. -/
theorem toList_text_of_kind_ne (h : m.token.kind ≠ .string) :
    m.token.text.toList = m.lexeme.raw := by
  obtain ⟨pos, l⟩ := m
  show (String.ofList l.text).toList = l.raw
  rw [String.toList_ofList]
  cases l with
  | string => exact absurd rfl h
  | _ => rfl

/-- In front of a lexeme are the bytes of those before it. -/
theorem exists_append_of_mem_placeLexemes (hm : m ∈ placeLexemes pos ls) :
    ∃ front back, ls = front ++ m.lexeme :: back ∧
      m.pos = pos + byteSize (front.flatMap Lexeme.raw) := by
  induction ls generalizing pos with
  | nil => simp at hm
  | cons l ls ih =>
    rw [placeLexemes_cons] at hm
    rcases List.mem_cons.1 hm with rfl | hm
    · exact ⟨[], ls, rfl, rfl⟩
    · obtain ⟨front, back, hls, hpos⟩ := ih hm
      refine ⟨l :: front, back, by rw [hls, List.cons_append], ?_⟩
      rw [hpos, List.flatMap_cons, byteSize_append, Nat.add_assoc]

/-- A lexeme stands within the bytes that a row of lexemes takes. -/
theorem end_of_mem_placeLexemes (hm : m ∈ placeLexemes pos ls) :
    pos ≤ m.pos ∧ m.pos + byteSize m.lexeme.raw ≤ pos + byteSize (ls.flatMap Lexeme.raw) := by
  induction ls generalizing pos with
  | nil => simp at hm
  | cons l ls ih =>
    rw [placeLexemes_cons] at hm
    rw [List.flatMap_cons, byteSize_append]
    rcases List.mem_cons.1 hm with rfl | hm
    · constructor <;> dsimp only <;> omega
    · have := ih hm
      omega

/-- A lexeme ends where the next one starts, or before. -/
theorem pairwise_end_placeLexemes (pos : Nat) (ls : List Lexeme) :
    (placeLexemes pos ls).Pairwise fun l m => l.pos + byteSize l.lexeme.raw ≤ m.pos := by
  induction ls generalizing pos with
  | nil => exact .nil
  | cons l ls ih =>
    rw [placeLexemes_cons, List.pairwise_cons]
    exact ⟨fun m hm => (end_of_mem_placeLexemes hm).1, ih _⟩

theorem pos_of_mem_placeLexemes (hls : ∀ l ∈ ls, l.raw ≠ []) (hm : m ∈ placeLexemes pos ls) :
    pos ≤ m.pos ∧ m.pos < pos + byteSize (ls.flatMap Lexeme.raw) := by
  have hend := end_of_mem_placeLexemes hm
  have hpos := byteSize_pos (hls _ (lexeme_mem_of_mem_placeLexemes hm))
  omega

/-! ## Errors -/

section

variable {es : List StringElement} {l : Lexeme} {e : LexError}

/-- An error in the body of a string is at a backslash. -/
theorem StringElement.exists_backslash (he : e ∈ errors pos es) :
    ∃ front back, es.flatMap raw = front ++ '\\' :: back ∧ e.pos = pos + byteSize front := by
  induction es generalizing pos with
  | nil => contradiction
  | cons x es ih =>
    rw [errors, List.mem_append, Option.mem_toList] at he
    rcases he with he | he
    · cases x with
      | unknown c =>
        obtain rfl := Option.some.inj he
        exact ⟨[], c :: es.flatMap raw, rfl, rfl⟩
      | _ => contradiction
    · obtain ⟨front, back, hraw, hpos⟩ := ih he
      refine ⟨x.raw ++ front, back, ?_, ?_⟩
      · rw [List.flatMap_cons, hraw, List.append_assoc]
      · rw [hpos, byteSize_append, Nat.add_assoc]

/-- An error of a lexeme is where the lexeme begins, or at a backslash in it. -/
theorem Lexeme.exists_backslash (he : e ∈ l.errors pos) :
    e.pos = pos ∨
      ∃ front back, l.raw = front ++ '\\' :: back ∧ e.pos = pos + byteSize front := by
  cases l with
  | string quote body closed =>
    rw [errors, List.mem_append] at he
    rcases he with he | he
    · obtain ⟨front, back, hraw, hpos⟩ := StringElement.exists_backslash he
      refine .inr ⟨quote :: front, back ++ if closed then [quote] else [], ?_, ?_⟩
      · simp [raw, hraw]
      · rw [hpos, byteSize_cons, Nat.add_assoc]
    · cases closed with
      | true => contradiction
      | false => exact .inl (List.mem_singleton.1 he ▸ rfl)
  | unknown c => exact .inl (List.mem_singleton.1 he ▸ rfl)
  | _ => contradiction

theorem Lexeme.raw_ne_nil_of_mem_errors (he : e ∈ l.errors pos) : l.raw ≠ [] := by
  cases l with
  | string | unknown => simp [raw]
  | _ => contradiction

/-- An error stands within the bytes of its lexeme. -/
theorem pos_of_mem_errors_lexeme (he : e ∈ l.errors pos) :
    pos ≤ e.pos ∧ e.pos < pos + byteSize l.raw := by
  rcases Lexeme.exists_backslash he with hpos | ⟨front, back, hraw, hpos⟩
  · have := byteSize_pos (Lexeme.raw_ne_nil_of_mem_errors he)
    omega
  · have := byteSize_pos (List.cons_ne_nil '\\' back)
    rw [hpos, hraw, byteSize_append]
    omega

end

/-! ## Scripts -/

variable {source : String}

theorem wellFormed_of_mem_scan (h : m ∈ scan source) : m.lexeme.WellFormed :=
  (apart_lexemes source.toList).wellFormed _ (lexeme_mem_of_mem_placeLexemes h)

/-- A script is cut in front of a lexeme and behind it. -/
theorem exists_append_of_mem_scan (h : m ∈ scan source) :
    ∃ front back, source.toList =
        front.flatMap Lexeme.raw ++ m.lexeme.raw ++ back.flatMap Lexeme.raw ∧
      lexemes source.toList = front ++ m.lexeme :: back ∧
      m.pos = byteSize (front.flatMap Lexeme.raw) := by
  obtain ⟨front, back, hls, hpos⟩ := exists_append_of_mem_placeLexemes h
  have hraw := flatMap_raw_lexemes source.toList
  rw [hls, List.flatMap_append, List.flatMap_cons, ← List.append_assoc] at hraw
  exact ⟨front, back, hraw.symm, hls, by rw [hpos, Nat.zero_add]⟩

/-- A lexeme of a text is as long as it can be in front of the others. -/
theorem stops_of_lexemes_eq {cs : List Char} {l : Lexeme} {front back : List Lexeme}
    (h : lexemes cs = front ++ l :: back) : l.Stops (back.flatMap Lexeme.raw) := by
  have hapart := apart_lexemes cs
  rw [h, Apart.append_iff] at hapart
  simpa using hapart.2.2.1

theorem byteSize_raw_pos (h : m ∈ scan source) : 0 < byteSize m.lexeme.raw :=
  byteSize_pos (wellFormed_of_mem_scan h).raw_ne_nil

theorem end_le_of_mem_scan (h : m ∈ scan source) :
    m.pos + byteSize m.lexeme.raw ≤ source.utf8ByteSize := by
  have hend := (end_of_mem_placeLexemes h).2
  rwa [flatMap_raw_lexemes, byteSize_toList, Nat.zero_add] at hend

theorem pos_of_mem_scan (h : m ∈ scan source) : m.pos < source.utf8ByteSize :=
  Nat.lt_of_lt_of_le (Nat.lt_add_of_pos_right (byteSize_raw_pos h)) (end_le_of_mem_scan h)

/-- **The lexemes of a script stand in order.** -/
theorem pairwise_pos_scan (source : String) : (scan source).Pairwise (·.pos < ·.pos) := by
  refine (pairwise_end_placeLexemes 0 (lexemes source.toList)).imp_of_mem fun hl _ hend => ?_
  have hpos := byteSize_raw_pos hl
  omega

/-- So do its tokens. -/
theorem pairwise_pos_tokens (source : String) : (tokens source).Pairwise (·.pos < ·.pos) := by
  rw [tokens, List.pairwise_map]
  exact pairwise_pos_scan source

theorem pos_of_mem_tokens {t : Token} (h : t ∈ tokens source) : t.pos < source.utf8ByteSize := by
  obtain ⟨m, hm, rfl⟩ := List.mem_map.1 h
  exact pos_of_mem_scan hm

/-- Behind them is the end of the input. -/
theorem pairwise_pos_end (source : String) :
    ((tokens source).map Token.pos ++ [source.utf8ByteSize]).Pairwise (· < ·) := by
  rw [List.pairwise_append, List.pairwise_map]
  refine ⟨pairwise_pos_tokens source, List.pairwise_singleton _ _, ?_⟩
  intro p hp q hq
  obtain ⟨t, ht, rfl⟩ := List.mem_map.1 hp
  rw [List.mem_singleton.1 hq]
  exact pos_of_mem_tokens ht

end ScriptCheck
