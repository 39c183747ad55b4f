import ScriptCheck.Proofs.Binding.Occurrences

/-!
# No diagnostic is inside the end of a line

A line feed ends a line of a source file, and a carriage return before it belongs to that end; a
carriage return at the end of the text is not shown either. Lexemes know more ends of lines than
that. Still, no diagnostic and no label is behind a part of what is not shown of a line: a carriage
return and the line feed behind it are one lexeme, and where a text ends with a carriage return,
reading has come to a terminator.

* `OnLine` — a byte offset is a place on a line as it is shown
* `onLine_of_mem_scan`, `onLine_of_mem_errors`, `onLine_end` — the starts of lexemes, the errors
  inside them, the end of the input
* `onLine_of_mem_diagnostics` — all the places of all diagnostics
-/

namespace ScriptCheck

open Text

/-- Whether a text can be cut at a byte offset so that no end of a line is cut off from its line: if
the part in front ends with a carriage return, a character follows that is no line feed. -/
def OnLine (cs : List Char) (pos : Nat) : Prop :=
  ∃ before after, cs = before ++ after ∧ pos = byteSize before ∧
    (before.getLast? = some '\r' → ∃ c ∈ after.head?, c ≠ '\n')

theorem OnLine.of_ne {before after : List Char} {c : Char} (hc : c ≠ '\n') :
    OnLine (before ++ c :: after) (byteSize before) :=
  ⟨before, c :: after, rfl, rfl, fun _ => ⟨c, rfl, hc⟩⟩

/-! ## Where lines end in lexemes -/

theorem StringElement.isLineEnd_of_mem_raw {quote : Char} {e : StringElement} (h : e.Fits quote) :
    ∀ c ∈ e.raw, isLineEnd c = false := by
  have hbackslash : isLineEnd '\\' = false := rfl
  cases e with
  | plain c => simpa [raw] using h.1
  | escape e => simp [raw, hbackslash, e.isLineEnd_letter]
  | unknown c => simp [raw, hbackslash, h.2]
  | trailing => exact h.elim

theorem StringBody.isLineEnd_of_mem_raw {quote : Char} {es : List StringElement} {closed : Bool}
    (h : StringBody.WellFormed quote es closed) :
    ∀ c ∈ es.flatMap StringElement.raw, isLineEnd c = false := by
  obtain ⟨fitting, hfits, hes⟩ := h
  have hraw : ∀ c ∈ fitting.flatMap StringElement.raw, isLineEnd c = false := by
    intro c hc
    obtain ⟨e, he, hc⟩ := List.mem_flatMap.1 hc
    exact StringElement.isLineEnd_of_mem_raw (hfits e he) c hc
  rcases hes with rfl | ⟨-, rfl⟩
  · exact hraw
  · intro c hc
    rw [List.flatMap_append, List.mem_append] at hc
    rcases hc with hc | hc
    · exact hraw c hc
    · obtain rfl : c = '\\' := by simpa [StringElement.raw] using hc
      rfl

/-- Only a line end has characters that end a line. -/
theorem Lexeme.isLineEnd_of_mem_raw {l : Lexeme} (h : l.WellFormed) (hkind : l.kind ≠ .newline) :
    ∀ c ∈ l.raw, isLineEnd c = false := by
  cases l with
  | lineEnd e => exact absurd rfl hkind
  | blanks cs => exact fun c hc => isLineEnd_of_isInlineBlank (h.2 c hc)
  | equals | colon | semicolon => simp [raw, isLineEnd]
  | string quote body closed =>
    obtain ⟨hquote, hbody⟩ := h
    have hq : isLineEnd quote = false := isLineEnd_of_isBlank (isBlank_of_isQuote hquote)
    intro c hc
    rw [raw, List.cons_append, List.mem_cons, List.mem_append] at hc
    rcases hc with rfl | hc | hc
    · exact hq
    · exact StringBody.isLineEnd_of_mem_raw hbody c hc
    · cases closed with
      | true => exact List.mem_singleton.1 hc ▸ hq
      | false => contradiction
  | number ds => exact fun c hc => isLineEnd_of_isBlank (isBlank_of_isDigit (h.2 c hc))
  | word cs =>
    obtain ⟨c, cs, rfl, hc, hcs⟩ := h
    intro d hd
    refine isLineEnd_of_isBlank ?_
    rcases List.mem_cons.1 hd with rfl | hd
    · exact isBlank_of_isWordStart hc
    · have hpart := hcs d hd
      rw [isWordPart_eq, Bool.or_eq_true] at hpart
      rcases hpart with hpart | hpart
      · exact isBlank_of_isWordStart hpart
      · exact isBlank_of_isDigit hpart
  | unknown c =>
    intro d hd
    obtain rfl := List.mem_singleton.1 hd
    exact isLineEnd_of_isBlank h.1

theorem Lexeme.eq_carriageReturn {l : Lexeme} (h : l.WellFormed)
    (hlast : l.raw.getLast? = some '\r') : l = .lineEnd .carriageReturn := by
  by_cases hkind : l.kind = .newline
  · -- of the line ends, all others end with another character
    cases l with
    | lineEnd e => cases e <;> simp_all [raw, LineEnd.raw]
    | word letters =>
      rw [kind] at hkind
      split at hkind <;> contradiction
    | _ => contradiction
  · have hline := isLineEnd_of_mem_raw h hkind _ (List.mem_of_getLast? hlast)
    contradiction

/-- Where a row of lexemes ends with a carriage return, that is its last lexeme, and no line feed
stands behind it. -/
theorem Apart.exists_carriageReturn {behind : List Char} {ls : List Lexeme} (h : Apart behind ls)
    (hlast : (ls.flatMap Lexeme.raw).getLast? = some '\r') :
    (∃ init, ls = init ++ [.lineEnd .carriageReturn]) ∧ ∀ c ∈ behind.head?, c ≠ '\n' := by
  rcases List.eq_nil_or_concat ls with rfl | ⟨init, l, rfl⟩
  · contradiction
  · rw [List.concat_eq_append, Apart.append_iff] at h
    obtain ⟨-, hwf, hstops, -⟩ := h
    have hraw : l.raw.getLast? = some '\r' := by
      rw [List.concat_eq_append, List.flatMap_append, List.flatMap_singleton,
        List.getLast?_append_of_ne_nil _ hwf.raw_ne_nil] at hlast
      exact hlast
    obtain rfl := Lexeme.eq_carriageReturn hwf hraw
    refine ⟨⟨init, List.concat_eq_append⟩, fun c hc => ?_⟩
    have htakes : Lexeme.takes (.lineEnd .carriageReturn) c = false := hstops c hc
    simpa [Lexeme.takes] using htakes

/-! ## Lexemes, their errors and the end of the input -/

section

variable {source : String} {m : PlacedLexeme} {t : Token} {e : LexError}

/-- A lexeme begins on a line. -/
theorem onLine_of_mem_scan (h : m ∈ scan source) : OnLine source.toList m.pos := by
  obtain ⟨front, back, hsource, hlexemes, hpos⟩ := exists_append_of_mem_scan h
  have hwf := wellFormed_of_mem_scan h
  refine ⟨front.flatMap Lexeme.raw, m.lexeme.raw ++ back.flatMap Lexeme.raw, ?_, hpos, ?_⟩
  · rw [hsource, List.append_assoc]
  · intro hlast
    -- a line feed behind a carriage return would have been taken by the lexeme of that one
    have hapart := apart_lexemes source.toList
    rw [hlexemes, Apart.append_iff] at hapart
    obtain ⟨-, hne⟩ := hapart.1.exists_carriageReturn hlast
    obtain ⟨c, cs, hc⟩ := List.exists_cons_of_ne_nil hwf.raw_ne_nil
    rw [hc, List.cons_append]
    refine ⟨c, rfl, hne c ?_⟩
    simp [hc]

theorem onLine_of_mem_tokens (h : t ∈ tokens source) : OnLine source.toList t.pos := by
  obtain ⟨m, hm, rfl⟩ := List.mem_map.1 h
  exact onLine_of_mem_scan hm

/-- The end of a text is on a line if no carriage return is the last character. -/
theorem onLine_end (h : source.toList.getLast? ≠ some '\r') :
    OnLine source.toList source.utf8ByteSize :=
  ⟨source.toList, [], (List.append_nil _).symm, (byteSize_toList source).symm,
    fun hlast => absurd hlast h⟩

/-- A text whose last character is a carriage return ends with a terminator. -/
theorem ended_of_getLast? (h : source.toList.getLast? = some '\r') : Ended (tokens source) := by
  rw [← flatMap_raw_lexemes source.toList] at h
  obtain ⟨⟨init, hlexemes⟩, -⟩ := (apart_lexemes source.toList).exists_carriageReturn h
  intro t ht
  rw [tokens, scan, hlexemes, placeLexemes_append, placeLexemes_cons, placeLexemes_nil,
    List.map_append, List.map_singleton, List.getLast?_concat] at ht
  obtain rfl := Option.some.inj ht
  rfl

/-- Reading finds no error at the end of such a text. -/
theorem getLast?_of_mem_readErrors {e : ParseError} (he : e ∈ readErrors source)
    (hpos : e.pos = source.utf8ByteSize) : source.toList.getLast? ≠ some '\r' := by
  intro hlast
  -- all errors are at tokens, and these begin before the end
  have hlt : ∀ t ∈ significantTokens (scan source), t.pos < source.utf8ByteSize := fun t ht =>
    pos_of_mem_tokens (List.mem_filter.1 ht).1
  have hended : Ended (significantTokens (scan source)) := (ended_of_getLast? hlast).filter
  have hmem := (errors_sublist_of_ended hended hlt).subset (List.mem_map_of_mem he)
  obtain ⟨t, ht, hpos'⟩ := List.mem_map.1 hmem
  have := hlt t ht
  omega

/-- The errors of a lexeme are on a line. -/
theorem onLine_of_mem_errors (hm : m ∈ scan source) (he : e ∈ m.errors) :
    OnLine source.toList e.pos := by
  rcases Lexeme.exists_backslash he with hpos | ⟨inner, rest, hraw, hpos⟩
  · rw [hpos]
    exact onLine_of_mem_scan hm
  · obtain ⟨front, back, hsource, -, hmpos⟩ := exists_append_of_mem_scan hm
    rw [hpos, hmpos, ← byteSize_append, hsource, hraw, ← List.append_assoc, List.append_assoc,
      List.cons_append]
    exact .of_ne (by decide)

end

/-! ## Diagnostics -/

/-- The places of a diagnostic: its own and those of its labels. -/
def Diagnostic.places (d : Diagnostic) : List Nat := d.pos :: d.labels.map Label.pos

section

variable {source : String} {d : Diagnostic}

theorem onLine_of_mem_readErrors {e : ParseError} (he : e ∈ readErrors source) :
    OnLine source.toList e.pos := by
  have hmem := (readErrors_sublist source).subset (List.mem_map_of_mem he)
  rcases List.mem_append.1 hmem with hmem | hmem
  · obtain ⟨m, hm, hpos⟩ := List.mem_map.1 hmem
    rw [← hpos]
    exact onLine_of_mem_scan hm
  · have hpos := List.mem_singleton.1 hmem
    rw [hpos]
    exact onLine_end (getLast?_of_mem_readErrors he hpos)

theorem onLine_of_mem_parse (hd : d ∈ (parse source).diagnostics) :
    ∀ p ∈ d.places, OnLine source.toList p := by
  rw [diagnostics_parse] at hd
  intro p hp
  rcases List.mem_append.1 hd with hd | hd
  · obtain ⟨m, hm, hd⟩ := List.mem_flatMap.1 hd
    rcases mem_reports.1 hd with ⟨e, he, rfl⟩ | ⟨e, he, -, rfl⟩
    · rw [List.mem_singleton.1 hp]
      exact onLine_of_mem_errors hm he
    · rw [List.mem_singleton.1 hp]
      exact onLine_of_mem_readErrors he
  · obtain ⟨e, he, rfl⟩ := List.mem_map.1 hd
    rw [List.mem_singleton.1 hp]
    exact onLine_of_mem_readErrors (List.mem_filter.1 he).1

/-- **Every diagnostic of a script and every label of it is on a line.** -/
theorem onLine_of_mem_diagnostics (hd : d ∈ (compile source).diagnostics) :
    ∀ p ∈ d.places, OnLine source.toList p := by
  rcases List.mem_append.1 hd with hd | hd
  · exact onLine_of_mem_parse hd
  · obtain ⟨e, he, rfl⟩ := List.mem_map.1 hd
    obtain ⟨id, hclash⟩ := exists_clashAt he
    obtain ⟨hagain, i, -, hfirst⟩ := hclash.declaredAt
    have hplaces : e.toDiagnostic.places = [e.pos, e.first] := rfl
    rw [hplaces]
    simp only [List.mem_cons, List.not_mem_nil, or_false, forall_eq_or_imp, forall_eq]
    exact ⟨onLine_of_mem_tokens hagain.written, onLine_of_mem_tokens hfirst.written⟩

end

end ScriptCheck
