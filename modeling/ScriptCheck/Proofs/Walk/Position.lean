import ScriptCheck.Proofs.Token.Place
import ScriptCheck.Proofs.Tree.Segment
import ScriptCheck.Proofs.Walk.Reader

/-!
# Where a walker is

In each place of its way, a walker has reported what the lexemes up to the current one have to
report, and the errors of reading so far. A move goes on by one lexeme, and an error that is
reported comes behind all of that.

* `Walker.At` — where a walker is, and what it has reported
* `Walker.Ready` — a walker with which a phrase can be read
* `Walker.OnToken` — the tokens that are left for a walker
-/

namespace ScriptCheck

theorem significantTokens_cons (l : PlacedLexeme) (ls : List PlacedLexeme) :
    significantTokens (l :: ls) =
      if l.token.kind.isTrivia then significantTokens ls else l.token :: significantTokens ls := by
  rw [significantTokens, List.map_cons, List.filter_cons]
  cases l.token.kind.isTrivia <;> rfl

theorem ParseFault.pos_at (fault : ParseFault) (t : Token) : (fault.at t).pos = t.pos := by
  unfold ParseFault.at
  split <;> rfl

/-! ## Where a walker is -/

/-- Where a walker is in a script: behind the lexemes `before` and on the first one of `rest`, or at
the end if there is none. It has reported the lexemes up to there and the errors `es` of reading. -/
structure Walker.At (source : String) (before rest : List PlacedLexeme) (es : List ParseError)
    (w : Walker) : Prop where
  scan_eq : scan source = before ++ rest
  token : w.token = (rest.map PlacedLexeme.token).headD (endingToken source)
  ahead : w.cursor.ahead = rest.tail
  inputEnd : w.cursor.inputEnd = source.utf8ByteSize
  pending : w.cursor.pending = []
  reports : w.reports = reportByToken (before ++ rest.take 1) es

/-- Whether all errors of reading that a walker has reported are behind it. -/
def Walker.Ready (source : String) (rest : List PlacedLexeme) (es : List ParseError) (w : Walker) :
    Prop :=
  ∃ before, w.At source before rest es ∧
    (es.map ParseError.pos).Sublist (before.map PlacedLexeme.pos)

namespace Walker

variable {source : String} {before rest ls : List PlacedLexeme} {l : PlacedLexeme}
  {es : List ParseError} {e : ParseError} {w : Walker}

/-- A move comes to the next lexeme or to the end of the input, and reports the errors of the
lexeme. -/
theorem advance_spec (h : w.atEnd = false) (hpending : w.cursor.pending = []) :
    w.advance.token =
        (w.cursor.ahead.map PlacedLexeme.token).headD ⟨.ending, w.cursor.inputEnd, ""⟩ ∧
      w.advance.cursor.ahead = w.cursor.ahead.tail ∧
      w.advance.cursor.inputEnd = w.cursor.inputEnd ∧
      w.advance.cursor.pending = [] ∧
      w.advance.reports =
        w.reports ++ ((w.cursor.ahead.take 1).flatMap PlacedLexeme.errors).map
          LexError.toDiagnostic := by
  rw [advance_of_not_atEnd h]
  cases hahead : w.cursor.ahead with
  | nil =>
    rw [Cursor.next_of_ahead_nil hahead]
    refine ⟨rfl, hahead, rfl, rfl, ?_⟩
    have hnext : Cursor.pending { w.cursor with
        current := ⟨.ending, w.cursor.inputEnd, ""⟩ } = [] := hpending
    rw [hnext]
    simp [reports]
  | cons l ls =>
    obtain ⟨hcurrent, hls, hnext, hinputEnd⟩ := Cursor.next_of_ahead hahead
    rw [hpending, List.nil_append] at hnext
    refine ⟨hcurrent, hls, hinputEnd, rfl, ?_⟩
    rw [hnext]
    simp [reports]

/-- A walker starts on the first lexeme. -/
theorem ready_start (source : String) : (start source).Ready source (scan source) [] := by
  obtain ⟨htoken, hahead, hinputEnd, hpending, hreports⟩ :=
    @advance_spec ⟨Cursor.start source, []⟩ rfl rfl
  refine ⟨[], ⟨rfl, ?_, hahead, ?_, hpending, ?_⟩, List.Sublist.refl _⟩
  · rw [Cursor.ahead_start, Cursor.inputEnd_start] at htoken
    exact htoken
  · rw [start, hinputEnd, Cursor.inputEnd_start]
  · rw [Cursor.ahead_start] at hreports
    rw [start, hreports, List.nil_append, reportByToken_lexemes]
    rfl

namespace At

theorem atEnd_eq_true (h : w.At source before [] es) : w.atEnd = true := by
  rw [atEnd_iff, h.token]
  rfl

theorem atEnd_eq_false (h : w.At source before (l :: ls) es) : w.atEnd = false := by
  refine atEnd_of_kind ?_
  rw [h.token]
  exact l.lexeme.kind_ne_ending

/-- A place that lies ahead is none of those behind. -/
theorem pos_token_ne (h : w.At source before rest es) : ∀ m ∈ before, w.token.pos ≠ m.pos := by
  intro m hm
  have hm' : m ∈ scan source := by
    rw [h.scan_eq]
    exact List.mem_append_left _ hm
  rw [h.token]
  cases rest with
  | nil => exact Nat.ne_of_gt (pos_of_mem_scan hm')
  | cons l ls =>
    have hsorted := pairwise_pos_scan source
    rw [h.scan_eq, List.pairwise_append] at hsorted
    exact Nat.ne_of_gt (hsorted.2.2 m hm l List.mem_cons_self)

/-- **A move goes on by one lexeme.** -/
theorem advance (h : w.At source before (l :: ls) es)
    (hes : (es.map ParseError.pos).Sublist ((before ++ [l]).map PlacedLexeme.pos)) :
    w.advance.Ready source ls es := by
  obtain ⟨htoken, hahead, hinputEnd, hpending, hreports⟩ := advance_spec h.atEnd_eq_false h.pending
  rw [h.ahead, List.tail_cons] at htoken hahead hreports
  refine ⟨before ++ [l], ⟨by simp [h.scan_eq], ?_, hahead, ?_, hpending, ?_⟩, hes⟩
  · rw [htoken, h.inputEnd]
    rfl
  · rw [hinputEnd, h.inputEnd]
  · have happend := @reportByToken_append (before ++ [l]) es [] hes (by simp) (ls.take 1)
    rw [List.append_nil, reportByToken_lexemes] at happend
    rw [hreports, h.reports, happend]
    rfl

/-- **An error of reading is reported behind what there was to report up to the current token.** -/
theorem report (h : w.At source before rest es)
    (hes : (es.map ParseError.pos).Sublist (before.map PlacedLexeme.pos))
    (he : e.pos = w.token.pos) : (w.report e).At source before rest (es ++ [e]) := by
  refine ⟨h.scan_eq, h.token, h.ahead, h.inputEnd, h.pending, ?_⟩
  have hne : ∀ e' ∈ [e], ∀ m ∈ before, e'.pos ≠ m.pos := by
    intro e' he' m hm
    rw [List.mem_singleton.1 he', he]
    exact h.pos_token_ne m hm
  have hwithout := @reportByToken_append before es [] hes (by simp) (rest.take 1)
  rw [List.append_nil] at hwithout
  -- what the current lexeme has to report comes first, and there is no lexeme behind it yet
  have hhere : reportByToken (rest.take 1) [e] =
      reportByToken (rest.take 1) [] ++ [e.toDiagnostic] := by
    cases rest with
    | nil => simp
    | cons l ls =>
      have hl : e.pos = l.pos := by
        rw [he, h.token]
        rfl
      rw [List.take_succ_cons, List.take_zero, reportByToken_here hl, reportByToken_nil,
        reportByToken_lexemes]
      simp
  have hreports : (w.report e).reports = w.reports ++ [e.toDiagnostic] := List.reverse_cons
  rw [hreports, h.reports, hwithout, reportByToken_append hes hne, hhere, List.append_assoc]

end At

theorem Ready.token (h : w.Ready source (l :: ls) es) : w.token = l.token := by
  obtain ⟨before, hat, -⟩ := h
  exact hat.token

theorem Ready.token_of_nil (h : w.Ready source [] es) : w.token = endingToken source := by
  obtain ⟨before, hat, -⟩ := h
  exact hat.token

theorem Ready.advance (h : w.Ready source (l :: ls) es) : w.advance.Ready source ls es := by
  obtain ⟨before, hat, hes⟩ := h
  refine hat.advance (hes.trans ?_)
  rw [List.map_append]
  exact List.sublist_append_left _ _

/-- Whether a walker is on the first of the tokens that are left, trivia not counted. -/
inductive OnToken (source : String) (es : List ParseError) (w : Walker) : List Token → Prop
  | ending (h : w.Ready source [] es) : OnToken source es w []
  | token {l : PlacedLexeme} {ls : List PlacedLexeme} (h : w.Ready source (l :: ls) es)
      (hl : l.token.kind.isTrivia = false) :
      OnToken source es w (l.token :: significantTokens ls)

/-- **Once trivia are skipped, a walker is on the first of the tokens that are left.** -/
theorem Ready.skipTrivia (h : w.Ready source rest es) :
    w.skipTrivia.OnToken source es (significantTokens rest) := by
  induction rest generalizing w with
  | nil =>
    obtain ⟨before, hat, hes⟩ := h
    rw [skipTrivia_of_atEnd hat.atEnd_eq_true]
    exact .ending ⟨before, hat, hes⟩
  | cons l ls ih =>
    rw [Walker.skipTrivia, h.token, significantTokens_cons]
    split
    · exact ih h.advance
    · next hl => exact .token h (by simpa using hl)

namespace OnToken

variable {t : Token} {ts : List Token}

theorem ready (h : w.OnToken source es ts) :
    ∃ rest, significantTokens rest = ts ∧ w.Ready source rest es := by
  cases h with
  | ending h => exact ⟨[], rfl, h⟩
  | @token l ls h hl =>
    refine ⟨l :: ls, ?_, h⟩
    rw [significantTokens_cons, hl]
    rfl

theorem kind_of_nil (h : w.OnToken source es []) : w.token.kind = .ending := by
  cases h with
  | ending h =>
    rw [h.token_of_nil]
    rfl

theorem token_eq (h : w.OnToken source es (t :: ts)) : w.token = t := by
  cases h with
  | token h _ => exact h.token

theorem kind_ne_ending (h : w.OnToken source es (t :: ts)) : t.kind ≠ .ending := by
  cases h with
  | @token l ls _ _ => exact l.lexeme.kind_ne_ending

theorem exists_cons (h : w.OnToken source es ts) (hkind : w.token.kind ≠ .ending) :
    ∃ us, ts = w.token :: us := by
  cases ts with
  | nil => exact absurd h.kind_of_nil hkind
  | cons t us => exact ⟨us, by rw [h.token_eq]⟩

/-- What is known of the current token is known of the first one, if one is left. -/
theorem of_head? {p : Token → Prop} (h : w.OnToken source es ts) (hp : p w.token) :
    ∀ t ∈ ts.head?, p t := by
  intro t ht
  obtain ⟨us, rfl⟩ := List.head?_eq_some_iff.1 ht
  rwa [h.token_eq] at hp

/-- Behind a token come those behind it. -/
theorem advance (h : w.OnToken source es (t :: ts)) :
    ∃ rest, significantTokens rest = ts ∧ w.advance.Ready source rest es := by
  cases h with
  | @token l ls h _ => exact ⟨ls, rfl, h.advance⟩

/-- An error at the current token is one at the first of those that are left. -/
theorem at_token (h : w.OnToken source es ts) (fault : ParseFault) :
    fault.at w.token = fault.locate source.utf8ByteSize ts := by
  cases h with
  | ending h =>
    rw [h.token_of_nil]
    rfl
  | @token l ls h _ =>
    rw [h.token]
    exact if_neg l.lexeme.kind_ne_ending

end OnToken

end Walker

end ScriptCheck
