import ScriptCheck.Proofs.Binding.Relocate
import ScriptCheck.Proofs.Concat
import ScriptCheck.Proofs.Diagnostics

/-!
# Spelling does not matter

Blanks and unknown characters between tokens, the quotes and the escapes of strings, and the
characters of a line end are only spelling. Two scripts that differ in nothing else are read alike:
what is at a token of one script is at the same token of the other one.

* `meanings` — what the tokens of a script say to a reader
* `places` — where a statement or an error can be
* `alike_of_meaning` — tokens that say the same are alike, wherever they are
* `compile_of_meanings_eq` — scripts whose tokens say the same
-/

namespace ScriptCheck

/-! ## What tokens say -/

instance (kind : TokenKind) : Decidable kind.KeepsText :=
  match kind with
  | .identifier | .number | .string => isTrue trivial
  | .keyword _ | .equals | .colon | .semicolon | .newline | .whitespace | .unknown | .beginning
  | .ending => isFalse id

/-- What a token says to a reader: its kind, and its text if that gets into the tree. -/
def Token.meaning (t : Token) : TokenKind × Option String :=
  (t.kind, if t.kind.KeepsText then some t.text else none)

/-- What the tokens of a script say, trivia left out. -/
def meanings (source : String) : List (TokenKind × Option String) :=
  (significantTokens (scan source)).map Token.meaning

/-- Where a statement or an error of reading can be: at the tokens that are no trivia, and at the
end. -/
def places (source : String) : List Nat :=
  (significantTokens (scan source)).map Token.pos ++ [source.utf8ByteSize]

section

variable {f : Nat → Nat} {t u : Token} {ts us : List Token} {source : String}

theorem Token.alike_of_meaning (hmeaning : u.meaning = t.meaning) (hpos : u.pos = f t.pos) :
    t.Alike f u := by
  have hkind : u.kind = t.kind := congrArg Prod.fst hmeaning
  refine ⟨hkind, hpos, fun hkeeps => ?_⟩
  have htext := congrArg Prod.snd hmeaning
  rw [meaning, meaning, hkind, if_pos hkeeps, if_pos hkeeps] at htext
  exact Option.some.inj htext

/-- Tokens that say the same are alike, wherever they are. -/
theorem alike_of_meaning (hmeaning : us.map Token.meaning = ts.map Token.meaning)
    (hpos : us.map Token.pos = (ts.map Token.pos).map f) :
    List.Forall₂ (Token.Alike f) ts us := by
  induction ts generalizing us with
  | nil =>
    rw [List.map_eq_nil_iff.1 hmeaning]
    exact .nil
  | cons t ts ih =>
    obtain ⟨u, us, rfl, hu, hus⟩ := List.map_eq_cons_iff.1 hmeaning
    obtain ⟨hposu, hposus⟩ := List.cons.inj hpos
    exact .cons (Token.alike_of_meaning hu hposu) (ih hus hposus)

/-! ## Where things can be -/

theorem pairwise_places (source : String) : (places source).Pairwise (· < ·) := by
  have hsub : ((significantTokens (scan source)).map Token.pos).Sublist
      ((tokens source).map Token.pos) := List.filter_sublist.map Token.pos
  exact (pairwise_pos_end source).sublist (hsub.append_right [source.utf8ByteSize])

/-- The errors of reading are at places of the script, in their order. -/
theorem sublist_places (source : String) :
    ((readErrors source).map ParseError.pos).Sublist (places source) :=
  errors_sublist source.utf8ByteSize (significantTokens (scan source))

/-- The places of one script can be moved to those of another one that has as many. -/
theorem exists_move {source source' : String} (h : meanings source' = meanings source) :
    ∃ move : Nat → Nat, places source' = (places source).map move := by
  have hnodup : (places source).Nodup := (pairwise_places source).imp Nat.ne_of_lt
  have hlength := congrArg List.length h
  rw [meanings, meanings, List.length_map, List.length_map] at hlength
  have hplaces : (places source).length = (places source').length := by simp [places, hlength]
  obtain ⟨move, hmove⟩ := exists_map_eq hnodup hplaces
  exact ⟨move, hmove.symm⟩

end

/-! ## Scripts -/

section

variable {source source' : String} {move : Nat → Nat}

/-- Scripts whose tokens say the same are read alike. -/
theorem readStatements_of_meanings_eq (h : meanings source' = meanings source)
    (hmove : places source' = (places source).map move) :
    readStatements source'.utf8ByteSize (significantTokens (scan source')) =
      (readStatements source.utf8ByteSize (significantTokens (scan source))).relocate move := by
  -- tokens are moved to tokens, and the end to the end
  rw [places, places, List.map_append, List.map_singleton] at hmove
  obtain ⟨hpos, hend⟩ := List.append_inj' hmove rfl
  obtain ⟨hend, -⟩ := List.cons.inj hend
  rw [hend]
  exact readStatements_alike (alike_of_meaning h hpos) source.utf8ByteSize

end

/-- **Two scripts whose tokens say the same have the same places, one for one. Moved from place to
place, the statements of one are those of the other one, and so are its errors of reading, each of
which is at one of the places, and its clashes. The names are bound to the same symbols.** -/
theorem compile_of_meanings_eq {source source' : String} (h : meanings source' = meanings source) :
    ∃ move : Nat → Nat,
      places source' = (places source).map move ∧
      (parse source').module.statements.toList =
        (parse source).module.statements.toList.map (·.relocate move) ∧
      (parse source').diagnostics.filter (·.stage = .grammatical) =
        ((parse source).diagnostics.filter (·.stage = .grammatical)).map (·.relocate move) ∧
      (∀ d ∈ (parse source).diagnostics.filter (·.stage = .grammatical), d.pos ∈ places source) ∧
      (compile source').module.locals = (compile source).module.locals ∧
      (compile source').clashes = (compile source).clashes.map (·.relocate move) := by
  obtain ⟨move, hmove⟩ := exists_move h
  have hread := readStatements_of_meanings_eq h hmove
  have hstatements : (parse source').module.statements =
      .ofList ((readStatements source.utf8ByteSize
        (significantTokens (scan source))).statements.map (·.relocate move)) :=
    congrArg (Numbered.ofList ∘ Reading.statements) hread
  obtain ⟨htable, hclashes⟩ := bind_relocate move
    (readStatements source.utf8ByteSize (significantTokens (scan source))).statements
  refine ⟨move, hmove, ?_, ?_, ?_, ?_, ?_⟩
  · rw [hstatements, parse, Numbered.toList_ofList, Numbered.toList_ofList]
  · have herrors : readErrors source' = (readErrors source).map (·.relocate move) :=
      congrArg Reading.errors hread
    rw [filter_grammatical_parse, filter_grammatical_parse, herrors, List.map_map, List.map_map]
    rfl
  · intro d hd
    rw [filter_grammatical_parse] at hd
    obtain ⟨e, he, rfl⟩ := List.mem_map.1 hd
    exact (sublist_places source).subset (List.mem_map_of_mem he)
  · show (bind (parse source').module.statements).table = _
    rw [hstatements]
    exact htable
  · show (bind (parse source').module.statements).clashes = _
    rw [hstatements]
    exact hclashes

/-- A quote between other quotes, with blanks, an unknown character and another line end. -/
theorem compile_respelled :
    meanings "x = \"\\\"\"#\n" = meanings "x='\"'\r\n" ∧
      ∃ move : Nat → Nat,
        places "x = \"\\\"\"#\n" = (places "x='\"'\r\n").map move ∧
        (parse "x = \"\\\"\"#\n").module.statements.toList =
          (parse "x='\"'\r\n").module.statements.toList.map (·.relocate move) := by
  have hword : (Lexeme.word ['x']).WellFormed := ⟨'x', [], rfl, rfl, by simp⟩
  have hblank : (Lexeme.blanks [' ']).WellFormed := ⟨by simp, by simp; decide⟩
  have hplain : (Lexeme.string '\'' [.plain '"'] true).WellFormed :=
    ⟨.inr rfl, [.plain '"'], by simp [StringElement.Fits]; decide, .inl rfl⟩
  have hescape : (Lexeme.string '"' [.escape .doubleQuote] true).WellFormed :=
    ⟨.inl rfl, [.escape .doubleQuote], by simp [StringElement.Fits], .inl rfl⟩
  have hunknown : (Lexeme.unknown '#').WellFormed := by
    refine ⟨?_, rfl, ?_, rfl, rfl⟩ <;> decide
  have hfirst : lexemes "x='\"'\r\n".toList =
      [.word ['x'], .equals, .string '\'' [.plain '"'] true, .lineEnd .carriageReturnLineFeed] :=
    lexemes_eq_iff.2 ⟨rfl, hword, Lexeme.stops_cons rfl _, trivial, Lexeme.stops_cons rfl _, hplain,
      Lexeme.stops_cons rfl _, trivial, Lexeme.stops_nil _, trivial⟩
  have hsecond : lexemes "x = \"\\\"\"#\n".toList =
      [.word ['x'], .blanks [' '], .equals, .blanks [' '], .string '"' [.escape .doubleQuote] true,
        .unknown '#', .lineEnd .lineFeed] :=
    lexemes_eq_iff.2 ⟨rfl, hword, Lexeme.stops_cons rfl _, hblank, Lexeme.stops_cons rfl _, trivial,
      Lexeme.stops_cons rfl _, hblank, Lexeme.stops_cons rfl _, hescape, Lexeme.stops_cons rfl _,
      hunknown, Lexeme.stops_cons rfl _, trivial, Lexeme.stops_nil _, trivial⟩
  have hmeanings : meanings "x = \"\\\"\"#\n" = meanings "x='\"'\r\n" := by
    rw [meanings, meanings, scan, scan, hfirst, hsecond]
    decide
  obtain ⟨move, hmove, hstatements, -⟩ := compile_of_meanings_eq hmeanings
  exact ⟨hmeanings, move, hmove, hstatements⟩

end ScriptCheck
