import ScriptCheck.Proofs.Binding.Clashes
import ScriptCheck.Proofs.Diagnostics
import ScriptCheck.Proofs.Walk.Agreement

/-!
# Whose a diagnostic is

Every diagnostic of a script belongs to one token: the one that is being scanned when it is found,
or the one at which reading finds it. The diagnostics come in the order of these tokens.

* `Owns` — the token of a diagnostic
* `Owns.unique` — a diagnostic has only one
* `parse_diagnostics_by_token` — the diagnostics of a script, token by token
-/

namespace ScriptCheck

/-- Whether a diagnostic belongs to a token of a script. -/
inductive Owns (source : String) : Token → Diagnostic → Prop
  /-- What is found by the step that comes to the token. -/
  | lexical {n : Nat} {e : LexError} (he : e ∈ (Cursor.fresh source n).pending) :
      Owns source (Cursor.fresh source n).current e.toDiagnostic
  /-- What is wrong at the place of the token, or of the end of the input. -/
  | grammatical {t : Token} {d : Diagnostic} (ht : t ∈ tokens source ++ [endingToken source])
      (hstage : d.stage = .grammatical) (hpos : d.pos = t.pos) : Owns source t d

/-- Whether one diagnostic comes before another one by their tokens. At one token, what is found
while scanning it comes first. -/
def Precedes (source : String) (d d' : Diagnostic) : Prop :=
  ∀ t t', Owns source t d → Owns source t' d' → t.pos < t'.pos ∨ t = t' ∧ d.stage = .lexical

variable {source : String} {l : PlacedLexeme} {t t' : Token} {d d' : Diagnostic}

/-! ## The token of a diagnostic -/

theorem pairwise_pos_tokens_ending (source : String) :
    (tokens source ++ [endingToken source]).Pairwise (·.pos < ·.pos) := by
  rw [← List.pairwise_map, List.map_append]
  exact pairwise_pos_end source

/-- No two tokens are at one place. -/
theorem eq_of_pos_eq (ht : t ∈ tokens source ++ [endingToken source])
    (ht' : t' ∈ tokens source ++ [endingToken source]) (hpos : t.pos = t'.pos) : t = t' := by
  have hsorted := pairwise_pos_tokens_ending source
  have hforward : (tokens source ++ [endingToken source]).Pairwise
      fun t t' => t.pos = t'.pos → t = t' :=
    hsorted.imp fun hlt heq => absurd heq (Nat.ne_of_lt hlt)
  have hback : (tokens source ++ [endingToken source]).Pairwise
      (flip fun t t' => t.pos = t'.pos → t = t') :=
    hsorted.imp fun hlt heq => absurd heq (Nat.ne_of_gt hlt)
  exact hforward.forall_of_forall_of_flip (fun _ _ _ => rfl) hback ht ht' hpos

/-- **A diagnostic belongs to one token.** -/
theorem Owns.unique (h : Owns source t d) (h' : Owns source t' d) : t = t' := by
  cases h with
  | @lexical n e he =>
    obtain ⟨l, hl, hcurrent, hel⟩ := Cursor.exists_lexeme_of_mem_pending he
    generalize hd : e.toDiagnostic = d at h'
    cases h' with
    | @lexical n' e' he' =>
      obtain ⟨l', hl', hcurrent', hel'⟩ := Cursor.exists_lexeme_of_mem_pending he'
      have hpos : e.pos = e'.pos := congrArg Diagnostic.pos hd
      have hcovers : l'.Covers e.pos := hpos ▸ pos_of_mem_errors_lexeme hel'
      rw [hcurrent, hcurrent', eq_of_covers hl hl' (pos_of_mem_errors_lexeme hel) hcovers]
    | grammatical _ hstage _ =>
      rw [← hd] at hstage
      contradiction
  | grammatical ht hstage hpos =>
    cases h' with
    | lexical _ => contradiction
    | grammatical ht' _ hpos' => exact eq_of_pos_eq ht ht' (hpos.symm.trans hpos')

/-- What is reported at a lexeme belongs to its token. -/
theorem owns_of_mem_reports {es : List ParseError} (hl : l ∈ scan source) (hd : d ∈ l.reports es) :
    Owns source l.token d := by
  rcases mem_reports.1 hd with ⟨e, he, rfl⟩ | ⟨e, -, hpos, rfl⟩
  · obtain ⟨n, hn⟩ := List.mem_iff_getElem?.1 hl
    obtain ⟨hcurrent, hpending⟩ := Cursor.fresh_of_getElem? hn
    rw [← hpending] at he
    rw [← hcurrent]
    exact .lexical he
  · exact .grammatical (List.mem_append_left _ (List.mem_map_of_mem hl)) rfl hpos

theorem owns_ending {e : ParseError} (hpos : e.pos = source.utf8ByteSize) :
    Owns source (endingToken source) e.toDiagnostic :=
  .grammatical (List.mem_append_right _ (List.mem_singleton_self _)) rfl hpos

/-- Every diagnostic of a script belongs to a token. -/
theorem exists_owns (hd : d ∈ (parse source).diagnostics) : ∃ t, Owns source t d := by
  rw [diagnostics_parse] at hd
  rcases List.mem_append.1 hd with hd | hd
  · obtain ⟨l, hl, hd⟩ := List.mem_flatMap.1 hd
    exact ⟨l.token, owns_of_mem_reports hl hd⟩
  · obtain ⟨e, he, rfl⟩ := List.mem_map.1 hd
    exact ⟨_, owns_ending (by simpa using (List.mem_filter.1 he).2)⟩

/-! ## The order of diagnostics -/

theorem Owns.precedes (h : Owns source t d) (h' : Owns source t' d')
    (hbefore : t.pos < t'.pos ∨ t = t' ∧ d.stage = .lexical) : Precedes source d d' := by
  intro u u' hu hu'
  rwa [hu.unique h, hu'.unique h']

/-- **The diagnostics of a script come in the order of their tokens.** -/
theorem pairwise_precedes (source : String) :
    (parse source).diagnostics.Pairwise (Precedes source) := by
  rw [pairwise_diagnostics_iff]
  · intro l hl
    rw [pairwise_reports_iff, List.pairwise_map]
    have howns : ∀ e ∈ l.errors, Owns source l.token e.toDiagnostic := fun e he =>
      owns_of_mem_reports hl (mem_reports.2 (.inl ⟨e, he, rfl⟩) : _ ∈ l.reports [])
    refine ⟨List.pairwise_of_forall_mem_list fun e he f hf => ?_, fun e he f hf hpos => ?_⟩
    · exact (howns e he).precedes (howns f hf) (.inr ⟨rfl, rfl⟩)
    · have hf := owns_of_mem_reports hl (mem_reports.2 (.inr ⟨f, hf, hpos, rfl⟩))
      exact (howns e he).precedes hf (.inr ⟨rfl, rfl⟩)
  · intro l hl m hm hlt d hd d' hd'
    exact (owns_of_mem_reports hl hd).precedes (owns_of_mem_reports hm hd') (.inl hlt)
  · intro l hl d hd f _ hpos
    exact (owns_of_mem_reports hl hd).precedes (owns_ending hpos) (.inl (pos_of_mem_scan hl))

/-- No diagnostic of reading a script is one of a clash. -/
theorem stage_ne_binding (hd : d ∈ (parse source).diagnostics) : d.stage ≠ .binding := by
  obtain ⟨t, ht⟩ := exists_owns hd
  cases ht with
  | lexical _ => exact nofun
  | grammatical _ hstage _ => simp [hstage]

/-- **Reading a script in one walk, with the errors of every step reported at once, gives the same
as reading its tokens. The errors of the tokens are all there, in the order in which a cursor finds
them on its way to the end. Every diagnostic belongs to one token, and they come in the order of
these; at one token, what is found while scanning it comes first. Clashes come last, in the order of
the declarations.** -/
theorem parse_diagnostics_by_token (source : String) :
    walkScript source = parse source ∧
    (∃ n, ((Cursor.start source).skip n).atEnd = true) ∧
    (∀ n, ((Cursor.start source).skip n).atEnd = true →
      (parse source).diagnostics.filter (·.stage = .lexical) =
        ((Cursor.start source).skip n).pending.map LexError.toDiagnostic) ∧
    (∀ d ∈ (parse source).diagnostics, ∃! t, Owns source t d) ∧
    (parse source).diagnostics.Pairwise (Precedes source) ∧
    (compile source).diagnostics =
      (parse source).diagnostics ++ (compile source).clashes.map BindError.toDiagnostic ∧
    (∀ d ∈ (parse source).diagnostics, d.stage ≠ .binding) ∧
    ∃ ids : List StmtId, ids.Pairwise (·.index < ·.index) ∧
      (∀ id, id ∈ ids ↔ (parse source).module.Repeats id) ∧
      List.Forall₂ (parse source).module.ClashAt ids (compile source).clashes := by
  refine ⟨walkScript_eq source, Cursor.exists_atEnd source, fun n hn => ?_, fun d hd => ?_,
    pairwise_precedes source, rfl, fun d => stage_ne_binding,
    forall₂_clashes_bind (parse source).module⟩
  · rw [Cursor.pending_of_atEnd hn, lexErrors]
    exact filter_lexical_reportByToken _ _
  · obtain ⟨t, ht⟩ := exists_owns hd
    exact ⟨t, ht, fun t' ht' => ht'.unique ht⟩

end ScriptCheck
