import ScriptCheck.Proofs.Owner
import ScriptCheck.Proofs.Walk.Agreement

/-!
# Every walk ends, behind every token

Reading goes in loops: over trivia, over the tokens that recovering skips, over the targets of an
assignment, and over the statements of a script. Round by round, each of them comes to its end, from
wherever a walker is. What is read of a script moves the walker over all of its tokens, one after
the other and none of them twice.

* `Ends`, `exists_ends` — loops, by their rounds alone, and why they end
* `Walker.Passes` — the tokens on the way from one walker to another
* `Walker.Passes.upcoming_eq` — no way leaves a token out
* `exists_passes_again` — a round over statements passes a token
* `walk_passes_every_token` — the whole walk
-/

namespace ScriptCheck

/-! ## Loops -/

/-- What a round of a loop comes to: one more round, or the result of the loop. -/
inductive Turn (σ ρ : Type) where
  | again (state : σ)
  | done (result : ρ)

/-- Where a round leads, as the next one or as the result. -/
def Turn.state {σ : Type} : Turn σ σ → σ
  | .again s => s
  | .done s => s

section

variable {σ ρ : Type}

/-- Whether a loop that starts in a state ends with a result, in so many rounds. -/
inductive Ends (round : σ → Turn σ ρ) : σ → Nat → ρ → Prop
  | done {s : σ} {r : ρ} (h : round s = .done r) : Ends round s 1 r
  | again {s s' : σ} {n : Nat} {r : ρ} (h : round s = .again s') (rest : Ends round s' n r) :
      Ends round s (n + 1) r

/-- Whether a round comes closer to the end of a loop and leaves the result as it is. -/
def Turn.Nears (left : σ → Nat) (result : σ → ρ) (s : σ) : Turn σ ρ → Prop
  | .again s' => left s' < left s ∧ result s = result s'
  | .done r => result s = r

/-- **A loop ends if each round comes closer to its end.** -/
theorem exists_ends {round : σ → Turn σ ρ} (left : σ → Nat) (result : σ → ρ)
    (hround : ∀ s, (round s).Nears left result s) (s : σ) :
    ∃ n ≤ left s + 1, Ends round s n (result s) := by
  induction hleft : left s using Nat.strongRecOn generalizing s with
  | ind k ih =>
    have hs := hround s
    cases hturn : round s with
    | done r =>
      rw [hturn] at hs
      obtain rfl : result s = r := hs
      exact ⟨1, Nat.le_add_left 1 k, .done hturn⟩
    | again s' =>
      rw [hturn] at hs
      obtain ⟨hlt, hresult⟩ := hs
      obtain ⟨n, hn, hends⟩ := ih (left s') (hleft ▸ hlt) s' rfl
      rw [hresult]
      exact ⟨n + 1, by omega, .again hturn hends⟩

end

/-- A round over trivia. -/
def triviaRound (w : Walker) : Turn Walker Walker :=
  if w.token.kind.isTrivia then .again w.advance else .done w

/-- A round of recovering. -/
def recoverRound (w : Walker) : Turn Walker Walker :=
  if w.token.kind.isTerminator then .done w.advance
  else if w.atEnd then .done w
  else .again w.advance

/-- A round over the targets of an assignment. -/
def targetRound :
    List Identifier × Walker →
      Turn (List Identifier × Walker) (EStateM.Result ParseError Walker Expr)
  | (targets, w) =>
    if w.skipTrivia.token.kind = .identifier then
      let name := w.skipTrivia.token.identifier
      let next := w.skipTrivia.advance.skipTrivia
      if next.token.kind = .equals then .again (name :: targets, next.advance)
      else .done (.ok (assignAll targets (.identifier name)) next)
    else .done ((assignAll targets <$> walkOperand) w.skipTrivia)

/-- A round over the statements of a script. -/
def scriptRound : List Stmt × Walker → Turn (List Stmt × Walker) (List Stmt × Walker)
  | (statements, w) =>
    if w.skipTrivia.atEnd then .done (statements.reverse, w.skipTrivia)
    else if w.skipTrivia.token.kind = .newline then .again (statements, w.skipTrivia.advance)
    else .again ((walkRound w.skipTrivia).1.toList ++ statements, (walkRound w.skipTrivia).2)

theorem ends_skipTrivia (w : Walker) : ∃ n ≤ w.left + 1, Ends triviaRound w n w.skipTrivia := by
  refine exists_ends Walker.left Walker.skipTrivia (fun w => ?_) w
  rw [triviaRound]
  split
  · next htrivia =>
    have hend := Walker.atEnd_of_kind (TokenKind.ne_ending_of_isTrivia htrivia)
    exact ⟨Walker.left_advance_lt hend, by rw [Walker.skipTrivia, if_pos htrivia]⟩
  · next htrivia => exact (by rw [Walker.skipTrivia, if_neg htrivia] : w.skipTrivia = w)

theorem ends_recover (w : Walker) : ∃ n ≤ w.left + 1, Ends recoverRound w n w.recover := by
  refine exists_ends Walker.left Walker.recover (fun w => ?_) w
  rw [recoverRound]
  split
  · next hkind => exact (by rw [Walker.recover, if_pos hkind] : w.recover = w.advance)
  · next hkind =>
    split
    · next hend => exact (by rw [Walker.recover, if_neg hkind, if_pos hend] : w.recover = w)
    · next hend =>
      refine ⟨Walker.left_advance_lt (by simpa using hend), ?_⟩
      rw [Walker.recover, if_neg hkind, if_neg hend]

theorem ends_walkExpressionFrom (targets : List Identifier) (w : Walker) :
    ∃ n ≤ w.left + 1, Ends targetRound (targets, w) n (walkExpressionFrom targets w) := by
  refine exists_ends (fun s => s.2.left) (fun s => walkExpressionFrom s.1 s.2) ?_ (targets, w)
  rintro ⟨targets, w⟩
  rw [targetRound]
  dsimp only
  split
  · next hname =>
    split
    · next hmark =>
      have hnext := Walker.left_skipTrivia_advance_lt (w := w) (by simp [hname])
      refine ⟨Nat.lt_of_le_of_lt (Walker.left_advance_le _) hnext, ?_⟩
      show walkExpressionFrom targets w = _
      rw [walkExpressionFrom, if_pos hname]
      exact if_pos hmark
    · next hmark =>
      show walkExpressionFrom targets w = _
      rw [walkExpressionFrom, if_pos hname]
      exact if_neg hmark
  · next hname =>
    show walkExpressionFrom targets w = _
    rw [walkExpressionFrom, if_neg hname]

/-- A round over statements comes closer to the end of the script. -/
theorem scriptRound_nears (s : List Stmt × Walker) :
    (scriptRound s).Nears (fun s => s.2.left) (fun s => walkStatementsFrom s.1 s.2) s := by
  obtain ⟨statements, w⟩ := s
  rw [scriptRound]
  have hle := w.left_skipTrivia_le
  split
  · next hend =>
    show walkStatementsFrom statements w = _
    rw [walkStatementsFrom, if_pos hend]
  · next hend =>
    split
    · next hkind =>
      refine ⟨Nat.lt_of_lt_of_le (Walker.left_advance_lt (by simpa using hend)) hle, ?_⟩
      show walkStatementsFrom statements w = _
      rw [walkStatementsFrom, if_neg hend, if_pos hkind]
    · next hkind =>
      refine ⟨Nat.lt_of_lt_of_le (left_walkRound_lt (by simpa using hend)) hle, ?_⟩
      show walkStatementsFrom statements w = _
      rw [walkStatementsFrom, if_neg hend, if_neg hkind]

theorem ends_walkStatementsFrom (statements : List Stmt) (w : Walker) :
    ∃ n ≤ w.left + 1, Ends scriptRound (statements, w) n (walkStatementsFrom statements w) :=
  exists_ends _ _ scriptRound_nears (statements, w)

/-! ## Ways -/

namespace Walker

variable {w w' : Walker} {ts : List Token}

/-- Whether moves and reports lead from a walker to another one, by way of some tokens: these are
the current ones behind each move. -/
inductive Passes : Walker → List Token → Walker → Prop
  | here (w : Walker) : Passes w [] w
  | move {w w' : Walker} {ts : List Token} (hend : w.atEnd = false)
      (rest : Passes w.advance ts w') : Passes w (w.advance.token :: ts) w'
  | report {w w' : Walker} {ts : List Token} (e : ParseError)
      (rest : Passes (w.report e) ts w') : Passes w ts w'

theorem Passes.trans {u v w : Walker} {ts us : List Token} (huv : u.Passes ts v)
    (hvw : v.Passes us w) : u.Passes (ts ++ us) w := by
  induction huv with
  | here => exact hvw
  | move hend _ ih => exact .move hend (ih hvw)
  | report e _ ih => exact .report e (ih hvw)

/-- A walker that has passed no token has as much left as before. -/
theorem Passes.left_eq (h : w.Passes [] w') : w'.left = w.left := by
  generalize hts : ([] : List Token) = ts at h
  induction h with
  | here => rfl
  | move => contradiction
  | report e _ ih => exact ih hts

theorem passage_passes : Passage fun w w' => ∃ ts, w.Passes ts w' where
  refl w := ⟨[], .here w⟩
  trans := fun ⟨ts, hts⟩ ⟨us, hus⟩ => ⟨ts ++ us, hts.trans hus⟩
  advance w := by
    cases hend : w.atEnd with
    | true =>
      rw [advance_of_atEnd hend]
      exact ⟨[], .here w⟩
    | false => exact ⟨[w.advance.token], .move hend (.here _)⟩

/-- The tokens to which a walker has not come. The end of the input is the last one. -/
def upcoming (w : Walker) : List Token :=
  if w.atEnd then []
  else w.cursor.ahead.map PlacedLexeme.token ++ [⟨.ending, w.cursor.inputEnd, ""⟩]

/-- A move comes to the first of the tokens that are left. -/
theorem upcoming_of_not_atEnd (h : w.atEnd = false) :
    w.upcoming = w.advance.token :: w.advance.upcoming := by
  rw [advance_of_not_atEnd h, upcoming, if_neg (by simp [h])]
  cases hahead : w.cursor.ahead with
  | nil =>
    rw [Cursor.next_of_ahead_nil hahead]
    rfl
  | cons l ls =>
    obtain ⟨hcurrent, hls, -, hinputEnd⟩ := Cursor.next_of_ahead hahead
    have hnext : ¬ w.cursor.next.atEnd = true := by simp [Cursor.not_atEnd_of_current hcurrent]
    show _ = w.cursor.next.current :: if w.cursor.next.atEnd then [] else
      w.cursor.next.ahead.map PlacedLexeme.token ++ [⟨.ending, w.cursor.next.inputEnd, ""⟩]
    rw [if_neg hnext, hcurrent, hls, hinputEnd, List.map_cons, List.cons_append]

/-- **A walker passes the tokens that are left in their order, and leaves out none.** -/
theorem Passes.upcoming_eq (h : w.Passes ts w') : w.upcoming = ts ++ w'.upcoming := by
  induction h with
  | here => rfl
  | move hend _ ih => rw [upcoming_of_not_atEnd hend, ih, List.cons_append]
  | report e _ ih => exact ih

/-- The current token is the last one that a walker has passed. -/
theorem Passes.token_eq (h : w.Passes ts w') : w'.token = ts.getLastD w.token := by
  induction h with
  | here => rfl
  | move _ _ ih => rw [ih, List.getLastD_cons]
  | report e _ ih => exact ih

theorem exists_passes_endStatement (w : Walker) : ∃ ts, w.Passes ts w.endStatement := by
  have hnext := passage_passes.skipTrivia w
  unfold endStatement
  dsimp only
  split
  · exact passage_passes.trans hnext (passage_passes.advance _)
  · split
    · exact hnext
    · obtain ⟨ts, hts⟩ := passage_passes.recover
        (w.skipTrivia.report (ParseFault.expectedStatementEnd.at w.skipTrivia.token))
      exact passage_passes.trans hnext ⟨ts, .report _ hts⟩

end Walker

open Walker

theorem exists_passes_walkRound (w : Walker) : ∃ ts, w.Passes ts (walkRound w).2 := by
  have hstatement := along_walkStatement passage_passes w
  unfold Walk.after at hstatement
  unfold walkRound
  split
  · next s w' hw =>
    rw [hw] at hstatement
    exact passage_passes.trans hstatement w'.exists_passes_endStatement
  · next e w' hw =>
    rw [hw] at hstatement
    obtain ⟨ts, hts⟩ := passage_passes.recover (w'.report e)
    exact passage_passes.trans hstatement ⟨ts, .report e hts⟩

theorem exists_passes_scriptRound (s : List Stmt × Walker) :
    ∃ ts, s.2.Passes ts (scriptRound s).state.2 := by
  obtain ⟨statements, w⟩ := s
  have hnext := passage_passes.skipTrivia w
  rw [scriptRound]
  split
  · exact hnext
  · split
    · exact passage_passes.trans hnext (passage_passes.advance _)
    · exact passage_passes.trans hnext (exists_passes_walkRound _)

/-- **A round over statements that is not the last one passes a token, whatever it comes
across.** -/
theorem exists_passes_again {s s' : List Stmt × Walker} (h : scriptRound s = .again s') :
    ∃ ts, ts ≠ [] ∧ s.2.Passes ts s'.2 := by
  obtain ⟨ts, hts⟩ := exists_passes_scriptRound s
  have hnears := scriptRound_nears s
  rw [h] at hts hnears
  refine ⟨ts, ?_, hts⟩
  -- without a token on the way, as much would be left as before
  rintro rfl
  exact Nat.ne_of_lt hnears.1 hts.left_eq

/-- Whether rounds over statements lead from one state to another one, each by way of some tokens.
Every round but the last one passes at least one. -/
inductive Rounds : List Stmt × Walker → List (List Token) → List Stmt × Walker → Prop
  | last {s r : List Stmt × Walker} {ts : List Token} (h : scriptRound s = .done r)
      (hts : s.2.Passes ts r.2) : Rounds s [ts] r
  | again {s s' r : List Stmt × Walker} {ts : List Token} {tss : List (List Token)}
      (h : scriptRound s = .again s') (hts : s.2.Passes ts s'.2) (hne : ts ≠ [])
      (rest : Rounds s' tss r) : Rounds s (ts :: tss) r

theorem Rounds.passes {s r : List Stmt × Walker} {tss : List (List Token)} (h : Rounds s tss r) :
    s.2.Passes tss.flatten r.2 := by
  induction h with
  | last _ hts => rwa [List.flatten_singleton]
  | again _ hts _ _ ih => exact hts.trans ih

theorem Ends.exists_rounds {s r : List Stmt × Walker} {n : Nat} (h : Ends scriptRound s n r) :
    ∃ tss, tss.length = n ∧ Rounds s tss r := by
  induction h with
  | @done s r h =>
    obtain ⟨ts, hts⟩ := exists_passes_scriptRound s
    rw [h] at hts
    exact ⟨[ts], rfl, .last h hts⟩
  | again h _ ih =>
    obtain ⟨ts, hne, hts⟩ := exists_passes_again h
    obtain ⟨tss, hlength, hrounds⟩ := ih
    exact ⟨ts :: tss, congrArg (· + 1) hlength, .again h hts hne hrounds⟩

theorem atEnd_walkStatementsFrom (statements : List Stmt) (w : Walker) :
    (walkStatementsFrom statements w).2.atEnd = true := by
  fun_induction walkStatementsFrom statements w with
  | case1 _ _ hend => exact hend
  | case2 _ _ _ _ ih => exact ih
  | case3 _ _ _ _ ih => exact ih

/-- A walker that has not come to the first token of a script. -/
def Walker.outside (source : String) : Walker := ⟨Cursor.start source, []⟩

theorem Walker.upcoming_outside (source : String) :
    (outside source).upcoming = tokens source ++ [endingToken source] := by
  show (scan source).map PlacedLexeme.token ++ [⟨.ending, (Cursor.start source).inputEnd, ""⟩] = _
  rw [Cursor.inputEnd_start]
  rfl

/-- **Each loop of reading ends, wherever a walker is, and it gives what the walk goes on with. A
round over statements that is not the last one passes at least one token. So the rounds of a script
share its tokens among them: when what is read of the script is there, the walker is at the end of
the input, and every token has been the current one once.** -/
theorem walk_passes_every_token (source : String) :
    (∀ w : Walker, ∃ n ≤ w.left + 1, Ends triviaRound w n w.skipTrivia) ∧
    (∀ w : Walker, ∃ n ≤ w.left + 1, Ends recoverRound w n w.recover) ∧
    (∀ targets w, ∃ n ≤ w.left + 1,
      Ends targetRound (targets, w) n (walkExpressionFrom targets w)) ∧
    (∀ statements w, ∃ n ≤ w.left + 1,
      Ends scriptRound (statements, w) n (walkStatementsFrom statements w)) ∧
    (∀ s s', scriptRound s = .again s' → ∃ ts, ts ≠ [] ∧ s.2.Passes ts s'.2) ∧
    (tokens source ++ [endingToken source]).Nodup ∧
    ∃ statements w tss,
      Rounds ([], (Walker.outside source).advance) tss (statements, w) ∧
      parse source = ⟨⟨.empty, .ofList statements⟩, w.reports⟩ ∧
      w.token = ⟨.ending, source.utf8ByteSize, ""⟩ ∧
      (Walker.outside source).advance.token :: tss.flatten =
        tokens source ++ [endingToken source] ∧
      ∀ ts, (Walker.outside source).Passes ts w → ts = tokens source ++ [endingToken source] := by
  refine ⟨ends_skipTrivia, ends_recover, ends_walkExpressionFrom, ends_walkStatementsFrom,
    fun s s' => exists_passes_again, ?_, ?_⟩
  · exact (pairwise_pos_tokens_ending source).imp fun hlt heq =>
      Nat.ne_of_lt hlt (congrArg Token.pos heq)
  · obtain ⟨n, -, hends⟩ := ends_walkStatementsFrom [] (Walker.outside source).advance
    obtain ⟨tss, -, hrounds⟩ := hends.exists_rounds
    have hend := atEnd_walkStatementsFrom [] (Walker.outside source).advance
    -- at the end nothing is upcoming any more, so what has been passed is everything
    have hpasses {ts : List Token} (h : (Walker.outside source).Passes ts
        (walkStatementsFrom [] (Walker.outside source).advance).2) :
        ts = tokens source ++ [endingToken source] := by
      rw [← Walker.upcoming_outside, h.upcoming_eq, Walker.upcoming, if_pos hend, List.append_nil]
    have hway := Walker.Passes.move (w := Walker.outside source) rfl hrounds.passes
    refine ⟨_, _, tss, hrounds, (walkScript_eq source).symm, ?_, hpasses hway,
      fun ts => hpasses⟩
    rw [hway.token_eq, hpasses hway, List.getLastD_concat]
    rfl

end ScriptCheck
