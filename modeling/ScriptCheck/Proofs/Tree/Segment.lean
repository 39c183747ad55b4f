import ScriptCheck.Proofs.Report
import ScriptCheck.Proofs.Tree.Reading

/-!
# Segment by segment

A terminator ends a segment of the source, and so does the end of the input. Every segment is read
by itself, and it gives nothing, a statement, or one error. The error is at the first token with
which no statement and terminator can begin any more.

* `segments` — the segments of a source
* `Viable` — tokens with which a statement and its terminator can begin
* `SegmentReading` — what reading a segment can come to
* `segmentReading_reading` — reading a segment comes to that
* `readStatements_segments` — reading a source is reading its segments in order
* `parse_segments` — what each segment of a source gives
-/

namespace ScriptCheck

/-! ## Segments -/

/-- What stands in front of a terminator or of the end of the input, and the token that ends it. -/
structure Segment where
  body : List Token
  stop : Token

/-- Goes on with `cutSegments`, the tokens since the last terminator in front. -/
def cutSegmentsFrom (ending : Token) (front : List Token) : List Token → List Segment
  | [] => [⟨front, ending⟩]
  | t :: ts =>
    if t.kind.isTerminator then ⟨front, t⟩ :: cutSegmentsFrom ending [] ts
    else cutSegmentsFrom ending (front ++ [t]) ts

/-- Cuts tokens behind every terminator; the token `ending` ends the last segment. -/
def cutSegments (ending : Token) (ts : List Token) : List Segment := cutSegmentsFrom ending [] ts

/-- The token that stands for the end of a source. -/
def endingToken (source : String) : Token := ⟨.ending, source.utf8ByteSize, ""⟩

namespace Segment

/-- The segment without the trivia in it. -/
def significant (seg : Segment) : Segment := ⟨seg.body.filter (!·.kind.isTrivia), seg.stop⟩

/-- The tokens of a segment. -/
def tokens (seg : Segment) : List Token := seg.body ++ [seg.stop]

/-- The tokens of a segment that are read: the end of the input is none of them. -/
def input (seg : Segment) : List Token :=
  if seg.stop.kind = .ending then seg.body else seg.body ++ [seg.stop]

/-- What comes of reading a segment by itself. -/
def reading (seg : Segment) : Reading := readStatements seg.stop.pos seg.input

/-- Whether the segment is an empty line, or nothing in front of the end of the input. -/
def Blank (seg : Segment) : Prop :=
  seg.body = [] ∧ (seg.stop.kind = .newline ∨ seg.stop.kind = .ending)

end Segment

/-- The segments of a source, without the trivia in them. -/
def segments (source : String) : List Segment :=
  (cutSegments (endingToken source) (tokens source)).map Segment.significant

/-! ## Where a statement can no longer be -/

/-- Whether a token of the kind can stand behind a statement. -/
def TokenKind.Closes (kind : TokenKind) : Prop := kind.isTerminator = true ∨ kind = .ending

/-- Whether a statement with what closes it can begin with the tokens. -/
def Viable (ts : List Token) : Prop :=
  ∃ more phrase s stop, StatementPhrase phrase s ∧ stop.kind.Closes ∧ ts ++ more = phrase ++ [stop]

/-- Whether `t` is the first token of the segment with which no statement can begin any more; the
tokens in front of it are `front`. -/
structure Segment.Offends (seg : Segment) (front : List Token) (t : Token) : Prop where
  mem : ∃ back, seg.tokens = front ++ t :: back
  viable : ∀ ts, ts <+: front → Viable ts
  not_viable : ¬ Viable (front ++ [t])

theorem Viable.of_append {ts us : List Token} (h : Viable (ts ++ us)) : Viable ts := by
  obtain ⟨more, phrase, s, stop, hs, hstop, hts⟩ := h
  rw [List.append_assoc] at hts
  exact ⟨us ++ more, phrase, s, stop, hs, hstop, hts⟩

theorem StatementPhrase.viable {front more : List Token} {s : Stmt}
    (h : StatementPhrase (front ++ more) s) : Viable front := by
  refine ⟨more ++ [Token.sample .newline], _, s, Token.sample .newline, h, .inl rfl, ?_⟩
  rw [List.append_assoc]

theorem StatementPhrase.viable_closed {phrase : List Token} {s : Stmt} {stop : Token}
    (h : StatementPhrase phrase s) (hstop : stop.kind.Closes) : Viable (phrase ++ [stop]) :=
  ⟨[], phrase, s, stop, h, hstop, List.append_nil _⟩

theorem TokenKind.Closes.not_inPhrase {kind : TokenKind} (h : kind.Closes) : ¬ kind.InPhrase := by
  rcases h with h | rfl
  · exact not_inPhrase_of_isTerminator h
  · exact id

/-- Tokens with which a statement can begin go on to a text that is read to one, up to what closes
it. -/
theorem Viable.exists_read {front : List Token} {t : Token} (h : Viable (front ++ [t])) :
    ∃ more phrase s stop, StatementPhrase phrase s ∧ stop.kind.Closes ∧
      front ++ t :: more = phrase ++ [stop] ∧
      readPhrase (front ++ t :: more) = .done s [stop] := by
  obtain ⟨more, phrase, s, stop, hs, hstop, hts⟩ := h
  rw [List.append_assoc, List.singleton_append] at hts
  refine ⟨more, phrase, s, stop, hs, hstop, hts, ?_⟩
  rw [hts]
  exact readPhrase_before hs hstop.not_inPhrase []

/-- Behind a whole statement, nothing else can stand that the reader does not go on with. -/
theorem not_viable_of_done {front : List Token} {u : Token} {s : Stmt} (hu : ¬ u.kind.Closes)
    (hlook : ∀ more, readPhrase (front ++ u :: more) = .done s (u :: more)) :
    ¬ Viable (front ++ [u]) := by
  intro h
  obtain ⟨more, phrase, s', stop, -, hstop, -, hread⟩ := h.exists_read
  rw [hlook more] at hread
  injection hread with _ hrest
  obtain ⟨rfl, -⟩ := List.cons.inj hrest
  exact hu hstop

/-- No statement can begin with tokens at the last of which the reader fails. -/
theorem not_viable_of_failed {front : List Token} {u : Token} {fault : ParseFault}
    (hlook : ∀ more, readPhrase (front ++ u :: more) = .failed fault (u :: more)) :
    ¬ Viable (front ++ [u]) := by
  intro h
  obtain ⟨more, phrase, s, stop, -, -, -, hread⟩ := h.exists_read
  rw [hlook more] at hread
  contradiction

/-- What stands in front of a token at which the reader fails is no statement. -/
theorem not_phrase_of_failed {front rest left : List Token} {fault : ParseFault}
    (hread : readPhrase (front ++ rest) = .failed fault left)
    (hrest : ∀ t ∈ rest.head?, ¬ Viable (front ++ [t])) (s : Stmt) : ¬ StatementPhrase front s := by
  intro hs
  have hdone : readPhrase (front ++ rest) = .done s rest := by
    refine readPhrase_of_phrase hs fun t ht more s' hs' => hrest t ht ?_
    rw [← List.singleton_append, ← List.append_assoc] at hs'
    exact hs'.viable
  rw [hread] at hdone
  contradiction

/-- The input cannot end within a statement. -/
theorem not_viable_of_ending {front : List Token} {stop : Token} (hstop : stop.kind.Closes)
    (hfront : ∀ s, ¬ StatementPhrase front s) : ¬ Viable (front ++ [stop]) := by
  intro h
  obtain ⟨more, phrase, s, stop', hs, -, hts, -⟩ := h.exists_read
  -- what closes a statement is in none, so the statement is what stands in front
  obtain ⟨us, rfl, hus⟩ | ⟨us, rfl, hus⟩ := List.append_eq_append_iff.1 hts
  · cases us with
    | nil => exact hfront s (by simpa using hs)
    | cons u us =>
      obtain ⟨rfl, -⟩ := List.cons.inj hus
      exact hstop.not_inPhrase (hs.inPhrase stop (by simp))
  · cases us with
    | nil => exact hfront s (by simpa using hs)
    | cons u us => simp at hus

/-! ## Reading one segment -/

/-- Whether the token at the end closes the segment and no token before it does. -/
def Segment.Closed (seg : Segment) : Prop :=
  (∀ t ∈ seg.body, ¬ t.kind.Closes) ∧ seg.stop.kind.Closes

/-- What reading a segment can come to. -/
inductive SegmentReading (seg : Segment) : Reading → Prop
  /-- Nothing stands there. -/
  | blank (h : seg.Blank) : SegmentReading seg ⟨[], []⟩
  /-- A statement stands there. -/
  | statement {s : Stmt} (hs : StatementPhrase seg.body s) : SegmentReading seg ⟨[s], []⟩
  /-- Something stands behind a statement. -/
  | surplus {front : List Token} {t : Token} {s : Stmt} (hblank : ¬ seg.Blank)
      (ht : seg.Offends front t) (hs : StatementPhrase front s) (hkind : t.kind ≠ .ending) :
      SegmentReading seg ⟨[s], [⟨.expectedStatementEnd, t.pos⟩]⟩
  /-- A statement begins there and does not go on. -/
  | broken {front : List Token} {t : Token} {fault : ParseFault} (hblank : ¬ seg.Blank)
      (ht : seg.Offends front t) (hfront : ∀ s, ¬ StatementPhrase front s)
      (hfault : fault ≠ .expectedStatementEnd) (hkind : fault = .unexpectedEnd ↔ t.kind = .ending) :
      SegmentReading seg ⟨[], [⟨fault, t.pos⟩]⟩

/-- Nothing is left behind tokens of which at most the last one is a terminator. -/
theorem skipStatement_eq_nil {ts : List Token}
    (h : ∀ t ∈ ts.dropLast, t.kind.isTerminator = false) : skipStatement ts = [] := by
  induction ts with
  | nil => rfl
  | cons t ts ih =>
    rw [skipStatement]
    cases ts with
    | nil => split <;> rfl
    | cons u us =>
      rw [if_neg (by simp [h t (by simp)])]
      exact ih fun v hv => h v (by simp [hv])

namespace Segment

variable {seg : Segment}

theorem Closed.mem_input {t : Token} (h : seg.Closed) (ht : t ∈ seg.input)
    (hkind : t.kind.Closes) : t = seg.stop ∧ seg.stop.kind.isTerminator = true ∧
      seg.input = seg.body ++ [seg.stop] := by
  rw [input] at ht ⊢
  split at ht
  · exact absurd hkind (h.1 t ht)
  · next hstop =>
    rw [if_neg hstop]
    rcases List.mem_append.1 ht with ht | ht
    · exact absurd hkind (h.1 t ht)
    · exact ⟨List.mem_singleton.1 ht, h.2.resolve_right hstop, rfl⟩

theorem Closed.mem_dropLast_input {t : Token} (h : seg.Closed) (ht : t ∈ seg.input.dropLast) :
    t.kind.isTerminator = false := by
  have hbody : t ∈ seg.body := by
    rw [input] at ht
    split at ht
    · exact List.dropLast_subset _ ht
    · rwa [List.dropLast_concat] at ht
  cases hkind : t.kind.isTerminator with
  | false => rfl
  | true => exact absurd (.inl hkind) (h.1 t hbody)

/-- A terminator in what is read of a segment is the one that ends it. -/
theorem Closed.body_eq {front us : List Token} {u : Token} (h : seg.Closed)
    (hinput : seg.input = front ++ u :: us) (hu : u.kind.isTerminator = true) :
    us = [] ∧ seg.body = front := by
  have hmem : u ∈ seg.input := by
    rw [hinput]
    simp
  obtain ⟨-, -, hbody⟩ := h.mem_input hmem (.inl hu)
  cases us with
  | nil =>
    rw [hbody] at hinput
    exact ⟨rfl, (List.append_inj' hinput rfl).1⟩
  | cons v us =>
    have hfront : u ∈ (u :: v :: us).dropLast := by simp
    have hnot := h.mem_dropLast_input (mem_dropLast_append hinput hfront)
    rw [hu] at hnot
    contradiction

/-- A segment without a terminator in what is read of it goes on to the end of the input. -/
theorem Closed.input_eq_body (h : seg.Closed) (hinput : ∀ t ∈ seg.input, ¬ t.kind.Closes) :
    seg.input = seg.body ∧ seg.stop.kind = .ending := by
  rw [input] at hinput ⊢
  split at hinput
  · next hstop => exact ⟨if_pos hstop, hstop⟩
  · exact absurd h.2 (hinput seg.stop (by simp))

theorem exists_tokens_eq (seg : Segment) : ∃ more, seg.tokens = seg.input ++ more := by
  rw [tokens, input]
  split
  · exact ⟨_, rfl⟩
  · exact ⟨[], (List.append_nil _).symm⟩

theorem exists_tokens_eq_append {front : List Token} {t : Token} {us : List Token}
    (h : seg.input = front ++ t :: us) : ∃ back, seg.tokens = front ++ t :: back := by
  obtain ⟨more, htokens⟩ := seg.exists_tokens_eq
  refine ⟨us ++ more, ?_⟩
  rw [htokens, h, List.append_assoc, List.cons_append]

/-- A segment that is not blank begins with a token that is no line end. -/
theorem exists_input_eq_cons (h : ¬ seg.Blank) (hstop : seg.Closed) :
    ∃ t ts, seg.input = t :: ts ∧ t.kind ≠ .newline := by
  cases hbody : seg.body with
  | nil =>
    have hkind : seg.stop.kind ≠ .newline ∧ seg.stop.kind ≠ .ending :=
      not_or.1 fun hk => h ⟨hbody, hk⟩
    refine ⟨seg.stop, [], ?_, hkind.1⟩
    rw [input, if_neg hkind.2, hbody]
    rfl
  | cons t ts =>
    have ht : t.kind ≠ .newline := by
      intro hk
      exact hstop.1 t (by simp [hbody]) (.inl (by rw [hk]; rfl))
    rw [input, hbody]
    split
    · exact ⟨t, ts, rfl, ht⟩
    · exact ⟨t, ts ++ [seg.stop], rfl, ht⟩

/-- A blank segment is read to nothing. -/
theorem Blank.reading (h : seg.Blank) : seg.reading = ⟨[], []⟩ := by
  obtain ⟨hbody, hstop | hstop⟩ := h
  · rw [Segment.reading, input, if_neg (by simp [hstop]), hbody, List.nil_append,
      readStatements_newline _ hstop, readStatements_nil]
  · rw [Segment.reading, input, if_pos hstop, hbody, readStatements_nil]

theorem Offends.of_input {front us : List Token} {t : Token} (h : seg.input = front ++ t :: us)
    (hfront : Viable front) (ht : ¬ Viable (front ++ [t])) : seg.Offends front t := by
  refine ⟨exists_tokens_eq_append h, ?_, ht⟩
  rintro ts ⟨more, rfl⟩
  exact hfront.of_append

/-- **A round over what is read of a segment leaves nothing of it, and comes to one of the outcomes
of a segment.** -/
theorem segmentReading_of_roundOf (h : seg.Closed) (hblank : ¬ seg.Blank) {r : Round}
    (hof : RoundOf seg.stop.pos seg.input r) : r.rest = [] ∧ SegmentReading seg r.reading := by
  generalize hinput : seg.input = ts at hof
  -- only the last token can be a terminator, so skipping to one leaves nothing
  have hskip (front us : List Token) (hus : ts = front ++ us) : skipStatement us = [] := by
    refine skipStatement_eq_nil fun u hu => h.mem_dropLast_input ?_
    rw [hinput]
    exact mem_dropLast_append hus hu
  cases hof with
  | @last front s hs =>
    have hbody := h.input_eq_body fun t ht hkind =>
      hkind.not_inPhrase (hs.inPhrase t (hinput ▸ ht))
    rw [← hinput, hbody.1] at hs
    exact ⟨rfl, .statement hs⟩
  | @ended front us s u hs hu =>
    obtain ⟨rfl, hbody⟩ := h.body_eq hinput hu
    rw [← hbody] at hs
    exact ⟨rfl, .statement hs⟩
  | @surplus front us s u hs hu hlook =>
    have hkind : ¬ u.kind.Closes := by
      intro hk
      obtain ⟨rfl, hstop, -⟩ := h.mem_input (by rw [hinput]; simp) hk
      rw [hu] at hstop
      contradiction
    have hfront : Viable front := @StatementPhrase.viable front [] s (by simpa using hs)
    refine ⟨hskip (front ++ [u]) us (by simp), ?_⟩
    exact .surplus hblank (.of_input hinput hfront (not_viable_of_done hkind hlook)) hs
      fun hk => hkind (.inr hk)
  | @failed front rest fault hfault hmore hlook =>
    obtain ⟨more, s, hs⟩ := hmore
    have hfront := hs.viable
    refine ⟨hskip front rest rfl, ?_⟩
    cases rest with
    | nil =>
      -- the segment ends at the end of the input, within a statement
      rw [List.append_nil] at hinput
      have hbody := h.input_eq_body fun t ht hkind =>
        hkind.not_inPhrase (hs.inPhrase t (List.mem_append_left _ (hinput ▸ ht)))
      have hnone := not_phrase_of_failed (hlook [] rfl) nofun
      have ht : seg.Offends front seg.stop := by
        refine ⟨⟨[], ?_⟩, ?_, not_viable_of_ending h.2 hnone⟩
        · rw [← hinput, hbody.1]
          rfl
        · rintro ts ⟨more, rfl⟩
          exact hfront.of_append
      exact .broken hblank ht hnone nofun ⟨fun _ => hbody.2, fun _ => rfl⟩
    | cons u us =>
      have hnot := not_viable_of_failed fun more => hlook (u :: more) rfl
      have hnone := not_phrase_of_failed (hlook (u :: us) rfl) fun t ht => by
        obtain rfl : u = t := Option.some.inj ht
        exact hnot
      have hkind : fault = .unexpectedEnd ↔ u.kind = .ending := by
        refine ⟨fun hf => absurd hf hfault.2, fun hk => ?_⟩
        obtain ⟨rfl, hstop, -⟩ := h.mem_input (t := u) (by rw [hinput]; simp) (.inr hk)
        rw [hk] at hstop
        contradiction
      exact .broken hblank (.of_input hinput hfront hnot) hnone hfault.1 hkind

/-- **Every segment is read to nothing, to a statement, or to one error at its first offending
token.** -/
theorem segmentReading_reading (h : seg.Closed) : SegmentReading seg seg.reading := by
  by_cases hblank : seg.Blank
  · rw [hblank.reading]
    exact .blank hblank
  · obtain ⟨t, ts, hinput, ht⟩ := exists_input_eq_cons hblank h
    have hof := roundOf_readRound seg.stop.pos t ts
    rw [← hinput] at hof
    obtain ⟨hrest, hreading⟩ := segmentReading_of_roundOf h hblank hof
    rw [Segment.reading, hinput, readStatements_round _ ht, hrest, readStatements_nil]
    have happend : (readRound seg.stop.pos t ts).reading ++ ⟨[], []⟩ =
        (readRound seg.stop.pos t ts).reading := Reading.append_nil _
    rwa [happend]

/-! ### Which of the outcomes it is -/

/-- A segment with a statement in it has no offending token. -/
theorem Closed.not_offends {s : Stmt} (h : seg.Closed) (hs : StatementPhrase seg.body s)
    (front : List Token) (t : Token) : ¬ seg.Offends front t := by
  rintro ⟨⟨back, htokens⟩, -, ht⟩
  have hviable := hs.viable_closed h.2
  rw [← tokens, htokens, ← List.singleton_append, ← List.append_assoc] at hviable
  exact ht hviable.of_append

theorem Closed.reading_of_phrase {s : Stmt} (h : seg.Closed) (hs : StatementPhrase seg.body s) :
    seg.reading = ⟨[s], []⟩ := by
  have hreading := segmentReading_reading h
  generalize seg.reading = r at hreading
  cases hreading with
  | blank hblank => exact absurd hblank.1 hs.ne_nil
  | statement hs' => rw [hs.unique hs']
  | surplus _ ht _ _ | broken _ ht _ _ _ => exact absurd ht (h.not_offends hs _ _)

/-- A segment that is neither blank nor a statement gives one error, at its first offending
token. -/
theorem Closed.exists_offends (h : seg.Closed) (hblank : ¬ seg.Blank)
    (hbody : ∀ s, ¬ StatementPhrase seg.body s) :
    ∃ front t fault, seg.Offends front t ∧ seg.reading.errors = [⟨fault, t.pos⟩] ∧
      (∀ s, seg.reading.statements = [s] ↔ StatementPhrase front s) ∧
      (seg.reading.statements = [] ↔ ∀ s, ¬ StatementPhrase front s) ∧
      (fault = .expectedStatementEnd ↔ ∃ s, StatementPhrase front s) ∧
      (fault = .unexpectedEnd ↔ t.kind = .ending) := by
  have hreading := segmentReading_reading h
  generalize seg.reading = r at hreading
  cases hreading with
  | blank hb => exact absurd hb hblank
  | statement hs => exact absurd hs (hbody _)
  | @surplus front t s _ ht hs hkind =>
    refine ⟨front, t, _, ht, rfl, ?_, ?_, ⟨fun _ => ⟨s, hs⟩, fun _ => rfl⟩, ?_⟩
    · intro s'
      constructor
      · rintro ⟨⟩
        exact hs
      · intro hs'
        rw [hs.unique hs']
    · exact ⟨nofun, fun hnone => absurd hs (hnone s)⟩
    · exact ⟨nofun, fun hk => absurd hk hkind⟩
  | @broken front t fault _ ht hfront hfault hkind =>
    refine ⟨front, t, fault, ht, rfl, ?_, ⟨fun _ => hfront, fun _ => rfl⟩, ?_, hkind⟩
    · exact fun s => ⟨nofun, fun hs => absurd hs (hfront s)⟩
    · exact ⟨fun hf => absurd hf hfault, fun ⟨s, hs⟩ => absurd hs (hfront s)⟩

instance : DecidablePred Blank :=
  fun seg => inferInstanceAs (Decidable (seg.body = [] ∧ _))

/-- A segment that is not blank gives a statement, or else an error other than that a statement has
not ended. -/
theorem Closed.length_reading (h : seg.Closed) :
    seg.reading.statements.length +
        seg.reading.errors.countP (·.fault ≠ .expectedStatementEnd) =
      if seg.Blank then 0 else 1 := by
  have hreading := segmentReading_reading h
  generalize seg.reading = r at hreading
  cases hreading with
  | blank hblank => simp [hblank]
  | statement hs =>
    have hblank : ¬ seg.Blank := fun hb => hs.ne_nil hb.1
    simp [hblank]
  | surplus hblank _ _ _ => simp [hblank]
  | broken hblank _ _ hfault _ => simp [hblank, hfault]

end Segment

/-! ## Reading all segments -/

/-- Reading tokens is reading the segments that they are cut to, one behind the other. -/
theorem readStatements_cutSegmentsFrom {ending : Token} (hending : ending.kind = .ending)
    (front ts : List Token) :
    readStatements ending.pos ((front ++ ts).filter (!·.kind.isTrivia)) =
      ⟨((cutSegmentsFrom ending front ts).map Segment.significant).flatMap (·.reading.statements),
        ((cutSegmentsFrom ending front ts).map Segment.significant).flatMap
          (·.reading.errors)⟩ := by
  induction ts generalizing front with
  | nil => simp [cutSegmentsFrom, Segment.significant, Segment.reading, Segment.input, hending]
  | cons t ts ih =>
    rw [cutSegmentsFrom]
    split
    · next ht =>
      obtain ⟨htrivia, hkind⟩ := not_isTrivia_of_isTerminator ht
      have hended : Ended (front.filter (!·.kind.isTrivia) ++ [t]) := by
        intro u hu
        obtain rfl : t = u := by simpa using hu
        exact ht
      have hfilter : (front ++ t :: ts).filter (!·.kind.isTrivia) =
          (front.filter (!·.kind.isTrivia) ++ [t]) ++ ts.filter (!·.kind.isTrivia) := by
        simp [htrivia]
      rw [hfilter, readStatements_append hended ending.pos t.pos]
      rw [← List.nil_append ts, List.filter_append, ← List.filter_append, ih []]
      have hreading : (Segment.significant ⟨front, t⟩).reading =
          readStatements t.pos (front.filter (!·.kind.isTrivia) ++ [t]) := by
        simp [Segment.significant, Segment.reading, Segment.input, hkind]
      rw [List.map_cons, List.flatMap_cons, List.flatMap_cons, hreading]
      rfl
    · rw [← ih (front ++ [t]), List.append_assoc, List.singleton_append]

theorem closed_of_mem_cutSegmentsFrom {ending : Token} (hending : ending.kind = .ending)
    {front ts : List Token} (hfront : ∀ t ∈ front, ¬ t.kind.Closes)
    (hts : ∀ t ∈ ts, t.kind ≠ .ending) : ∀ seg ∈ cutSegmentsFrom ending front ts, seg.Closed := by
  induction ts generalizing front with
  | nil =>
    intro seg hseg
    obtain rfl := List.mem_singleton.1 hseg
    exact ⟨hfront, .inr hending⟩
  | cons t ts ih =>
    have htail : ∀ u ∈ ts, u.kind ≠ .ending := fun u hu => hts u (List.mem_cons_of_mem t hu)
    intro seg hseg
    rw [cutSegmentsFrom] at hseg
    split at hseg
    · next ht =>
      rcases List.mem_cons.1 hseg with rfl | hseg
      · exact ⟨hfront, .inl ht⟩
      · exact ih (by simp) htail seg hseg
    · next ht =>
      refine ih ?_ htail seg hseg
      intro u hu
      rcases List.mem_append.1 hu with hu | hu
      · exact hfront u hu
      · obtain rfl := List.mem_singleton.1 hu
        rintro (hu | hu)
        · exact ht hu
        · exact hts u List.mem_cons_self hu

theorem Segment.Closed.significant {seg : Segment} (h : seg.Closed) : seg.significant.Closed :=
  ⟨fun t ht => h.1 t (List.mem_of_mem_filter ht), h.2⟩

theorem closed_of_mem_segments {source : String} {seg : Segment} (h : seg ∈ segments source) :
    seg.Closed := by
  obtain ⟨whole, hwhole, rfl⟩ := List.mem_map.1 h
  have hfront : ∀ t ∈ ([] : List Token), ¬ t.kind.Closes := by simp
  refine (closed_of_mem_cutSegmentsFrom rfl hfront ?_ whole hwhole).significant
  intro t ht
  obtain ⟨l, -, rfl⟩ := List.mem_map.1 ht
  exact l.lexeme.kind_ne_ending

/-- **A source is read segment by segment.** -/
theorem readStatements_segments (source : String) :
    readStatements source.utf8ByteSize (significantTokens (scan source)) =
      ⟨(segments source).flatMap (·.reading.statements),
        (segments source).flatMap (·.reading.errors)⟩ :=
  @readStatements_cutSegmentsFrom (endingToken source) rfl [] (tokens source)

/-! ## Sources -/

/-- Two faults have a wording that no other fault has. -/
theorem ParseFault.message_eq_iff {other : ParseFault}
    (hother : other = .expectedStatementEnd ∨ other = .unexpectedEnd) (fault : ParseFault) :
    fault.message = other.message ↔ fault = other := by
  constructor
  · intro h
    rcases hother with rfl | rfl <;> cases fault with
    | expectedToken kind => cases kind with
      | keyword word => cases word <;> exact absurd h (by decide)
      | _ => exact absurd h (by decide)
    | _ => first | rfl | exact absurd h (by decide)
  · rintro rfl
    rfl

/-- What is no error of the end of a statement counts the segments that give no statement. -/
theorem countP_message (es : List ParseError) :
    (es.map ParseError.toDiagnostic).countP (·.message ≠ "expected ';' or newline") =
      es.countP (·.fault ≠ .expectedStatementEnd) := by
  rw [List.countP_map]
  refine List.countP_congr fun e _ => ?_
  show decide (e.fault.message ≠ _) = true ↔ decide (e.fault ≠ _) = true
  rw [decide_eq_true_iff, decide_eq_true_iff]
  exact not_congr (ParseFault.message_eq_iff (.inl rfl) e.fault)

/-- The segments of a source, counted by what they give. -/
theorem length_flatMap_reading {segs : List Segment} (h : ∀ seg ∈ segs, seg.Closed) :
    (segs.flatMap (·.reading.statements)).length +
        (segs.flatMap (·.reading.errors)).countP (·.fault ≠ .expectedStatementEnd) =
      segs.countP (¬ ·.Blank) := by
  induction segs with
  | nil => rfl
  | cons seg segs ih =>
    have hseg := (h seg List.mem_cons_self).length_reading
    have hsegs := ih fun other hother => h other (List.mem_cons_of_mem seg hother)
    rw [List.flatMap_cons, List.flatMap_cons, List.length_append, List.countP_append,
      List.countP_cons, ← hsegs]
    by_cases hblank : seg.Blank
    · rw [if_pos hblank] at hseg
      simp only [hblank]
      simp only [not_true, decide_false, Bool.false_eq_true, if_false]
      omega
    · rw [if_neg hblank] at hseg
      simp only [hblank, not_false_iff, decide_true, if_true]
      omega

/-- **A source is read segment by segment. A blank segment gives nothing and a statement gives its
tree; every other segment gives one error, at the first token with which no statement can begin any
more. What stands in front of it is kept if it is a whole statement. So there are as many
statements, and errors that cost one, as segments that are not blank.** -/
theorem parse_segments (source : String) :
    (parse source).module.statements.toList = (segments source).flatMap (·.reading.statements) ∧
    (parse source).diagnostics.filter (·.stage = .grammatical) =
      (segments source).flatMap (·.reading.errors.map ParseError.toDiagnostic) ∧
    (∀ seg ∈ segments source,
      (seg.Blank → seg.reading = ⟨[], []⟩) ∧
      (∀ s, StatementPhrase seg.body s → seg.reading = ⟨[s], []⟩) ∧
      (¬ seg.Blank → (∀ s, ¬ StatementPhrase seg.body s) →
        ∃ front t fault, seg.Offends front t ∧ seg.reading.errors = [⟨fault, t.pos⟩] ∧
          (∀ s, seg.reading.statements = [s] ↔ StatementPhrase front s) ∧
          (seg.reading.statements = [] ↔ ∀ s, ¬ StatementPhrase front s) ∧
          (fault.message = "expected ';' or newline" ↔ ∃ s, StatementPhrase front s) ∧
          (fault.message = "unexpected end of input" ↔ t.kind = .ending))) ∧
    (parse source).module.statements.toList.length +
        ((parse source).diagnostics.filter (·.stage = .grammatical)).countP
          (·.message ≠ "expected ';' or newline") =
      (segments source).countP (¬ ·.Blank) := by
  have hstatements : (parse source).module.statements.toList =
      (segments source).flatMap (·.reading.statements) := by
    rw [parse, readStatements_segments, Numbered.toList_ofList]
  have hdiagnostics : (parse source).diagnostics.filter (·.stage = .grammatical) =
      ((segments source).flatMap (·.reading.errors)).map ParseError.toDiagnostic := by
    rw [parse, readStatements_segments, filter_grammatical_reportByToken]
  refine ⟨hstatements, ?_, ?_, ?_⟩
  · rw [hdiagnostics, List.map_flatMap]
  · intro seg hseg
    have hclosed := closed_of_mem_segments hseg
    refine ⟨Segment.Blank.reading, fun s => hclosed.reading_of_phrase, fun hblank hbody => ?_⟩
    obtain ⟨front, t, fault, ht, herrors, hkept, hnone, hend, hending⟩ :=
      hclosed.exists_offends hblank hbody
    refine ⟨front, t, fault, ht, herrors, hkept, hnone, ?_, ?_⟩
    · exact (ParseFault.message_eq_iff (.inl rfl) fault).trans hend
    · exact (ParseFault.message_eq_iff (.inr rfl) fault).trans hending
  · rw [hstatements, hdiagnostics, countP_message]
    exact length_flatMap_reading fun seg hseg => closed_of_mem_segments hseg

end ScriptCheck
