import ScriptCheck.Proofs.Report
import ScriptCheck.Proofs.Token.Place
import ScriptCheck.Proofs.Tree.Reading

/-!
# The diagnostics of a script

What is reported of a script is reported lexeme by lexeme. Every lexeme has its own bytes, with all
of its errors in them, and an error of reading is at the first one of them.

* `readErrors` — the errors of reading a script
* `diagnostics_parse` — the diagnostics of a script, lexeme by lexeme
* `eq_of_covers` — no byte belongs to two lexemes
-/

namespace ScriptCheck

open Text

/-! ## Errors of reading -/

/-- The errors of reading a script. -/
def readErrors (source : String) : List ParseError :=
  (readStatements source.utf8ByteSize (significantTokens (scan source))).errors

/-- The errors of reading are at the lexemes, in their order and at most one at each, and the last
of them may be at the end of the input. -/
theorem readErrors_sublist (source : String) :
    ((readErrors source).map ParseError.pos).Sublist
      ((scan source).map PlacedLexeme.pos ++ [source.utf8ByteSize]) := by
  refine (errors_sublist source.utf8ByteSize (significantTokens (scan source))).trans ?_
  have htokens : ((significantTokens (scan source)).map Token.pos).Sublist
      (((scan source).map PlacedLexeme.token).map Token.pos) := List.filter_sublist.map Token.pos
  rw [List.map_map] at htokens
  exact htokens.append_right _

theorem pairwise_pos_readErrors (source : String) :
    (readErrors source).Pairwise (·.pos < ·.pos) := by
  have hplaces := pairwise_pos_end source
  rw [tokens, List.map_map] at hplaces
  exact List.pairwise_map.1 (hplaces.sublist (readErrors_sublist source))

/-- **The diagnostics of a script are what is reported at its lexemes, in their order, and then what
is at the end of the input.** -/
theorem diagnostics_parse (source : String) :
    (parse source).diagnostics =
      (scan source).flatMap (PlacedLexeme.reports (readErrors source)) ++
        ((readErrors source).filter (·.pos = source.utf8ByteSize)).map ParseError.toDiagnostic :=
  reportByToken_eq_flatMap (pairwise_pos_scan source) (fun _ hl => pos_of_mem_scan hl)
    (readErrors_sublist source)

/-- The errors of reading are the diagnostics of their stage. -/
theorem filter_grammatical_parse (source : String) :
    (parse source).diagnostics.filter (·.stage = .grammatical) =
      (readErrors source).map ParseError.toDiagnostic :=
  filter_grammatical_reportByToken _ _

/-! ## The bytes of lexemes -/

/-- Whether a byte offset is one of the bytes of a lexeme. -/
def PlacedLexeme.Covers (l : PlacedLexeme) (pos : Nat) : Prop :=
  l.pos ≤ pos ∧ pos < l.pos + byteSize l.lexeme.raw

variable {source : String} {l m : PlacedLexeme} {pos : Nat} {es : List ParseError} {d : Diagnostic}

/-- **No byte belongs to two lexemes.** -/
theorem eq_of_covers (hl : l ∈ scan source) (hm : m ∈ scan source) (hlpos : l.Covers pos)
    (hmpos : m.Covers pos) : l = m := by
  have hends := pairwise_end_placeLexemes 0 (lexemes source.toList)
  have hdisjoint {x y : PlacedLexeme} (hxy : x.pos + byteSize x.lexeme.raw ≤ y.pos)
      (hx : x.Covers pos) (hy : y.Covers pos) : x = y := by
    have := hx.2
    have := hy.1
    omega
  exact List.Pairwise.forall_of_forall_of_flip (fun _ _ _ _ => rfl)
    (hends.imp fun hxy hx hy => hdisjoint hxy hx hy)
    (hends.imp fun hxy hy hx => (hdisjoint hxy hx hy).symm) hl hm hlpos hmpos

/-- What is reported at a lexeme is at its bytes. -/
theorem covers_of_mem_reports (hl : l ∈ scan source) (hd : d ∈ l.reports es) : l.Covers d.pos := by
  rcases mem_reports.1 hd with ⟨e, he, rfl⟩ | ⟨e, -, hpos, rfl⟩
  · exact pos_of_mem_errors_lexeme he
  · have hsize := byteSize_raw_pos hl
    show l.pos ≤ e.pos ∧ e.pos < _
    omega

/-! ## Two diagnostics -/

section

variable {R : Diagnostic → Diagnostic → Prop}

/-- No two errors of reading are at one place. -/
theorem pairwise_readErrors_at (source : String) (pos : Nat) :
    (((readErrors source).filter (·.pos = pos)).map ParseError.toDiagnostic).Pairwise R := by
  rw [List.pairwise_map]
  refine ((pairwise_pos_readErrors source).filter _).imp_of_mem fun he hf hlt => ?_
  have hepos := (List.mem_filter.1 he).2
  have hfpos := (List.mem_filter.1 hf).2
  simp only [decide_eq_true_eq] at hepos hfpos
  omega

/-- Whether two diagnostics of a lexeme are always related is a matter of its own errors, and of
the one of reading at its token. -/
theorem pairwise_reports_iff :
    (l.reports (readErrors source)).Pairwise R ↔
      (l.errors.map LexError.toDiagnostic).Pairwise R ∧
        ∀ e ∈ l.errors, ∀ f ∈ readErrors source, f.pos = l.pos →
          R e.toDiagnostic f.toDiagnostic := by
  rw [PlacedLexeme.reports, List.pairwise_append]
  constructor
  · rintro ⟨hlexical, -, hboth⟩
    refine ⟨hlexical, fun e he f hf hpos => ?_⟩
    exact hboth _ (List.mem_map_of_mem he) _
      (List.mem_map_of_mem (List.mem_filter.2 ⟨hf, by simpa using hpos⟩))
  · rintro ⟨hlexical, hboth⟩
    refine ⟨hlexical, pairwise_readErrors_at source l.pos, ?_⟩
    rintro d hd d' hd'
    obtain ⟨e, he, rfl⟩ := List.mem_map.1 hd
    obtain ⟨f, hf, rfl⟩ := List.mem_map.1 hd'
    obtain ⟨hf, hpos⟩ := List.mem_filter.1 hf
    exact hboth e he f hf (by simpa using hpos)

/-- **Where diagnostics of different lexemes are always related, it only remains to relate those of
one lexeme.** -/
theorem pairwise_diagnostics_iff
    (hlexemes : ∀ l ∈ scan source, ∀ m ∈ scan source, l.pos < m.pos →
      ∀ d ∈ l.reports (readErrors source), ∀ d' ∈ m.reports (readErrors source), R d d')
    (hend : ∀ l ∈ scan source, ∀ d ∈ l.reports (readErrors source), ∀ f ∈ readErrors source,
      f.pos = source.utf8ByteSize → R d f.toDiagnostic) :
    (parse source).diagnostics.Pairwise R ↔
      ∀ l ∈ scan source, (l.reports (readErrors source)).Pairwise R := by
  rw [diagnostics_parse, List.pairwise_append, List.pairwise_flatMap]
  constructor
  · exact fun h => h.1.1
  · intro h
    refine ⟨⟨h, (pairwise_pos_scan source).imp_of_mem (hlexemes _ · _ · ·)⟩,
      pairwise_readErrors_at source _, ?_⟩
    rintro d hd d' hd'
    obtain ⟨l, hl, hd⟩ := List.mem_flatMap.1 hd
    obtain ⟨f, hf, rfl⟩ := List.mem_map.1 hd'
    obtain ⟨hf, hpos⟩ := List.mem_filter.1 hf
    exact hend l hl d hd f hf (by simpa using hpos)

end

end ScriptCheck
