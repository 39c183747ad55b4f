import ScriptCheck.Proofs.Walk.Position

/-!
# Walking reads the same

Reading a script in one walk gives the statements and the diagnostics that reading its tokens and
reporting lexeme by lexeme gives. A phrase moves a walker over the tokens that the phrase is read
from, or up to the one at which it stops.

* `Walk.Follows` — reading a phrase in a walk gives what reading it from tokens gives
* `Walk.Implements` — it always does; one lemma for each way to put phrases together
* `walkScript_eq` — a script is read the same in one walk
-/

namespace ScriptCheck

/-! ## Phrases -/

/-- Whether reading a phrase in a walk has come to what reading it from tokens comes to. -/
inductive Walk.Follows (source : String) (es : List ParseError) {α : Type} :
    Outcome α → EStateM.Result ParseError Walker α → Prop
  | done {value : α} {rest : List PlacedLexeme} {w : Walker} (h : w.Ready source rest es) :
      Follows source es (.done value (significantTokens rest)) (.ok value w)
  | failed {fault : ParseFault} {ts : List Token} {w : Walker} (h : w.OnToken source es ts) :
      Follows source es (.failed fault ts) (.error (fault.at w.token) w)

/-- Whether reading in a walk always comes to what reading from tokens comes to. -/
def Walk.Implements (source : String) (es : List ParseError) {α : Type} (x : Walk α)
    (read : List Token → Outcome α) : Prop :=
  ∀ rest w, w.Ready source rest es → Follows source es (read (significantTokens rest)) (x w)

namespace Walk

open Walker

variable {source : String} {es : List ParseError} {w : Walker} {α β : Type} {t : Token}
  {ts : List Token}

theorem Implements.pure (value : α) :
    Implements source es (Pure.pure value) fun ts => .done value ts :=
  fun _ _ h => .done h

/-- **Reading goes on behind a phrase in the same way.** -/
theorem Implements.bind {x : Walk α} {f : α → Walk β} {read : List Token → Outcome α}
    {next : α → List Token → Outcome β} (hx : Implements source es x read)
    (hf : ∀ value, Implements source es (f value) (next value)) :
    Implements source es (x >>= f) fun ts => (read ts).andThen next := by
  intro rest w h
  have hfirst := hx rest w h
  show Follows source es _ (EStateM.bind x f w)
  unfold EStateM.bind
  dsimp only
  generalize read (significantTokens rest) = o at hfirst ⊢
  generalize x w = r at hfirst ⊢
  cases hfirst with
  | done h => exact hf _ _ _ h
  | failed h => exact .failed h

theorem Implements.map {x : Walk α} {read : List Token → Outcome α} (f : α → β)
    (hx : Implements source es x read) :
    Implements source es (f <$> x) fun ts => (read ts).map f :=
  hx.bind fun value => .pure (f value)

/-- What looks at the current token first is read by the cases of it. -/
theorem Implements.peek {f : TokenKind → Walk α} {read : List Token → Outcome α}
    (hnil : ∀ w, w.OnToken source es [] → Follows source es (read []) (f .ending w))
    (hcons : ∀ w t ts, w.OnToken source es (t :: ts) →
      Follows source es (read (t :: ts)) (f t.kind w)) :
    Implements source es (peek >>= f) read := by
  intro rest w h
  have hon := h.skipTrivia
  show Follows source es _ (f w.skipTrivia.token.kind w.skipTrivia)
  generalize significantTokens rest = ts at hon ⊢
  cases ts with
  | nil =>
    rw [hon.kind_of_nil]
    exact hnil _ hon
  | cons t ts =>
    rw [hon.token_eq]
    exact hcons _ _ _ hon

/-- What reads a token if it is of one kind goes on behind it or with it. -/
theorem Implements.eat {kind : TokenKind} (hkind : kind ≠ .ending) {f : Bool → Walk α}
    {read : List Token → Outcome α}
    (hno : ∀ ts, (∀ t ∈ ts.head?, t.kind ≠ kind) →
      ∀ w, w.OnToken source es ts → Follows source es (read ts) (f false w))
    (hyes : ∀ t, t.kind = kind → Implements source es (f true) fun ts => read (t :: ts)) :
    Implements source es (eat kind >>= f) read := by
  unfold Walk.eat
  rw [bind_assoc]
  refine .peek (fun w h => ?_) fun w t ts h => ?_
  · rw [if_neg hkind.symm]
    exact hno [] (by simp) w h
  · by_cases ht : t.kind = kind
    · rw [if_pos ht]
      obtain ⟨rest, rfl, hready⟩ := h.advance
      exact hyes t ht rest _ hready
    · rw [if_neg ht]
      exact hno (t :: ts) (by simpa using ht) w h

/-- What reads a mark goes on behind it. -/
theorem Implements.mark {kind : TokenKind} (hkind : kind ≠ .ending) {x : Walk α}
    {next : List Token → Outcome α} (hx : Implements source es x next) :
    Implements source es (walkMark kind >>= fun _ => x)
      fun ts => (readMark kind ts).andThen fun _ => next := by
  unfold walkMark
  rw [bind_assoc]
  refine .eat hkind (fun ts hts w h => ?_) fun t ht rest w h => ?_
  · have hread : readMark kind ts = .failed (.expectedToken kind) ts := by
      cases ts with
      | nil => rfl
      | cons t ts =>
        have ht : t.kind ≠ kind := hts t rfl
        exact if_neg ht
    rw [hread]
    exact .failed h
  · have hread : readMark kind (t :: significantTokens rest) = .done t (significantTokens rest) :=
      if_pos ht
    dsimp only
    rw [hread]
    exact hx rest w h

theorem here_bind (h : w.OnToken source es (t :: ts)) (f : Token → Walk α) :
    (here >>= f) w = f t w := by
  rw [← h.token_eq]
  rfl

/-- Behind a token, a value is made. -/
theorem follows_move (h : w.OnToken source es (t :: ts)) (value : α) :
    Follows source es (.done value ts) (.ok value w.advance) := by
  obtain ⟨rest, rfl, hready⟩ := h.advance
  exact .done hready

/-- In front of a token, a value is made. -/
theorem follows_stay (h : w.OnToken source es ts) (value : α) :
    Follows source es (.done value ts) (.ok value w) := by
  obtain ⟨rest, rfl, hready⟩ := h.ready
  exact .done hready

end Walk

open Walk

section

variable (source : String) (es : List ParseError) {α : Type}

theorem implements_walkIdentifier : Implements source es walkIdentifier readIdentifier := by
  refine .peek (fun w h => .failed h) fun w t ts h => ?_
  rw [readIdentifier, readToken]
  by_cases ht : t.kind = .identifier
  · rw [if_pos ht, if_pos ht, here_bind h]
    exact follows_move h _
  · rw [if_neg ht, if_neg ht]
    exact .failed h

theorem implements_walkTypeName : Implements source es walkTypeName readTypeName := by
  refine .eat (by simp) (fun ts hts w h => ?_) fun t ht => ?_
  · rw [readTypeName_of_kind_ne hts]
    exact follows_stay h none
  · have hread : (fun ts => readTypeName (t :: ts)) = fun ts => (readIdentifier ts).map some :=
      funext fun ts => readTypeName_colon ht ts
    rw [hread]
    exact (implements_walkIdentifier source es).map some

theorem implements_walkOperand : Implements source es walkOperand readOperand := by
  refine .peek (fun w h => .failed h) fun w t ts h => ?_
  rw [readOperand]
  cases t.kind with
  | number =>
    dsimp only
    rw [here_bind h]
    cases Decimal.Double.ofNat? (Decimal.ofDigits t.text.toList) with
    | some value => exact follows_move h _
    | none => exact .failed h
  | string =>
    dsimp only
    rw [here_bind h]
    exact follows_move h _
  | _ => exact .failed h

theorem implements_walkExpressionFrom (targets : List Identifier) :
    Implements source es (walkExpressionFrom targets) (readExpressionFrom targets) := by
  intro rest w h
  fun_induction walkExpressionFrom targets w generalizing rest with
  | case1 targets w hname name next hmark ih =>
    -- a target and its mark, and the walker goes on behind them
    have hon := h.skipTrivia
    obtain ⟨us, hts⟩ := hon.exists_cons (by simp [hname])
    rw [hts] at hon ⊢
    obtain ⟨rest', rfl, hnext⟩ := hon.advance
    have hon' := hnext.skipTrivia
    obtain ⟨more, hus⟩ := hon'.exists_cons (by simp [next, hmark])
    rw [hus] at hon' ⊢
    obtain ⟨rest'', rfl, hready⟩ := hon'.advance
    have hread : readExpressionFrom targets
        (w.skipTrivia.token :: next.token :: significantTokens rest'') =
          readExpressionFrom (name :: targets) (significantTokens rest'') :=
      readExpressionFrom_target targets hname hmark _
    rw [hread]
    exact ih rest'' hready
  | case2 targets w hname name next hmark =>
    have hon := h.skipTrivia
    obtain ⟨us, hts⟩ := hon.exists_cons (by simp [hname])
    rw [hts] at hon ⊢
    obtain ⟨rest', rfl, hnext⟩ := hon.advance
    have hon' := hnext.skipTrivia
    have hus : ∀ mark ∈ (significantTokens rest').head?, mark.kind ≠ .equals :=
      hon'.of_head? hmark
    rw [readExpressionFrom_name targets hname hus]
    exact follows_stay hon' _
  | case3 targets w hname =>
    have hon := h.skipTrivia
    have hts : ∀ t ∈ (significantTokens rest).head?, t.kind ≠ .identifier := hon.of_head? hname
    rw [readExpressionFrom_operand targets hts]
    obtain ⟨rest', hrest', hready⟩ := hon.ready
    rw [← hrest']
    exact (implements_walkOperand source es).map _ rest' _ hready

theorem implements_walkVariable (pos : Nat) :
    Implements source es (walkVariable pos) (readVariable pos) := by
  refine (implements_walkIdentifier source es).bind fun name => ?_
  refine (implements_walkTypeName source es).bind fun typeName => ?_
  refine .mark (by simp) ?_
  exact (implements_walkExpressionFrom source es []).map _

theorem implements_walkTypeAlias (pos : Nat) :
    Implements source es (walkTypeAlias pos) (readTypeAlias pos) := by
  refine (implements_walkIdentifier source es).bind fun name => ?_
  refine .mark (by simp) ?_
  exact (implements_walkIdentifier source es).map _

/-- **A statement is read in a walk as it is from tokens.** -/
theorem implements_walkStatement : Implements source es walkStatement readPhrase := by
  have hexpression : ∀ w ts, w.OnToken source es ts →
      Follows source es ((readExpression ts).map .ofExpr)
        ((Stmt.ofExpr <$> walkExpression) w) := by
    intro w ts h
    obtain ⟨rest, rfl, hready⟩ := h.ready
    exact (implements_walkExpressionFrom source es []).map _ rest w hready
  refine .peek (fun w h => hexpression w [] h) fun w t ts h => ?_
  have hfollows := hexpression w (t :: ts) h
  obtain ⟨rest, rfl, hready⟩ := h.advance
  rw [here_bind h, readPhrase, readStatement]
  cases t.kind with
  | keyword word =>
    cases word with
    | var => exact implements_walkVariable source es t.pos rest w.advance hready
    | type => exact implements_walkTypeAlias source es t.pos rest w.advance hready
    | _ => exact hfollows
  | _ => exact hfollows

end

/-! ## Statement by statement -/

/-- Trivia are no terminators, so skipping passes them as it passes other lexemes. -/
theorem skipStatement_significantTokens_cons (l : PlacedLexeme) (ls : List PlacedLexeme) :
    skipStatement (significantTokens (l :: ls)) =
      if l.token.kind.isTerminator then significantTokens ls
      else skipStatement (significantTokens ls) := by
  rw [significantTokens_cons]
  cases hkind : l.token.kind.isTerminator with
  | true =>
    rw [(not_isTrivia_of_isTerminator hkind).1]
    exact if_pos hkind
  | false =>
    split
    · rfl
    · rw [skipStatement, hkind]

/-- Whether all errors of reading that a walker has reported are behind it, unless it is at the
end: there, one may have been reported, but no more can follow. -/
def Walker.Resumed (source : String) (rest : List PlacedLexeme) (es : List ParseError)
    (w : Walker) : Prop :=
  (∃ before, w.At source before rest es) ∧ (rest ≠ [] → w.Ready source rest es)

namespace Walker

variable {source : String} {before rest ls : List PlacedLexeme} {l : PlacedLexeme}
  {es : List ParseError} {e : ParseError} {w : Walker}

theorem Ready.resumed (h : w.Ready source rest es) : w.Resumed source rest es := by
  obtain ⟨before, hat, hes⟩ := h
  exact ⟨⟨before, hat⟩, fun _ => ⟨before, hat, hes⟩⟩

/-- **Recovering goes on where skipping the statement does.** -/
theorem At.recover (h : w.At source before rest es)
    (hes : ∀ l ∈ rest.head?,
      (es.map ParseError.pos).Sublist ((before ++ [l]).map PlacedLexeme.pos)) :
    ∃ rest', significantTokens rest' = skipStatement (significantTokens rest) ∧
      w.recover.Resumed source rest' es := by
  induction rest generalizing before w with
  | nil =>
    have hrecover : w.recover = w := by
      rw [Walker.recover, h.token, if_pos h.atEnd_eq_true]
      rfl
    rw [hrecover]
    exact ⟨[], rfl, ⟨before, h⟩, absurd rfl⟩
  | cons l ls ih =>
    have hl := hes l rfl
    have hadvance := h.advance hl
    have htoken : w.token = l.token := h.token
    rw [Walker.recover, htoken, skipStatement_significantTokens_cons]
    split
    · exact ⟨ls, rfl, hadvance.resumed⟩
    · rw [if_neg (by simp [h.atEnd_eq_false])]
      obtain ⟨before', hat, hes'⟩ := hadvance
      refine ih hat fun m _ => hes'.trans ?_
      rw [List.map_append]
      exact List.sublist_append_left _ _

/-- A fault is reported at the first of the tokens that are left, and skipping the statement goes on
from there. -/
theorem OnToken.recover {ts : List Token} (h : w.OnToken source es ts) (fault : ParseFault) :
    ∃ rest, significantTokens rest = skipStatement ts ∧
      (w.report (fault.at w.token)).recover.Resumed source rest (es ++ [fault.at w.token]) := by
  have he := fault.pos_at w.token
  obtain ⟨rest, rfl, before, hat, hes⟩ := h.ready
  refine (hat.report hes he).recover fun l hl => ?_
  obtain ⟨ls, rfl⟩ := List.head?_eq_some_iff.1 hl
  have hpos : (fault.at w.token).pos = l.pos := he.trans (congrArg Token.pos hat.token)
  rw [List.map_append, List.map_append, List.map_singleton, List.map_singleton, hpos]
  exact hes.append (List.Sublist.refl _)

/-- **A statement ends in a walk as it does among tokens.** -/
theorem Ready.endStatement (h : w.Ready source rest es) {s : Stmt} {r : Round}
    (hr : (Outcome.done s (significantTokens rest)).round source.utf8ByteSize = r) :
    r.statement? = some s ∧ ∃ rest', significantTokens rest' = r.rest ∧
      w.endStatement.Resumed source rest' (es ++ r.error?.toList) := by
  have hon := h.skipTrivia
  unfold Walker.endStatement
  generalize significantTokens rest = ts at hon hr
  dsimp only
  cases ts with
  | nil =>
    obtain ⟨rest', hrest', hready⟩ := hon.ready
    rw [hon.kind_of_nil, if_neg (by simp [TokenKind.isTerminator]),
      if_pos (atEnd_iff.2 hon.kind_of_nil), ← hr]
    refine ⟨rfl, rest', hrest', ?_⟩
    rw [Outcome.round, Option.toList_none, List.append_nil]
    exact hready.resumed
  | cons u us =>
    rw [hon.token_eq]
    cases hu : u.kind.isTerminator with
    | true =>
      obtain ⟨rest', hrest', hready⟩ := hon.advance
      simp only [Outcome.round, hu, if_true] at hr ⊢
      rw [← hr]
      refine ⟨rfl, rest', hrest', ?_⟩
      rw [Option.toList_none, List.append_nil]
      exact hready.resumed
    | false =>
      simp only [Outcome.round, hu, Bool.false_eq_true, if_false] at hr ⊢
      have herror : ParseFault.expectedStatementEnd.at u = ⟨.expectedStatementEnd, u.pos⟩ :=
        if_neg hon.kind_ne_ending
      obtain ⟨rest', hrest', hresumed⟩ := hon.recover .expectedStatementEnd
      rw [hon.token_eq, herror] at hresumed
      rw [if_neg (by rw [atEnd_iff, hon.token_eq]; exact hon.kind_ne_ending), ← hr, herror]
      refine ⟨rfl, rest', ?_, hresumed⟩
      rw [hrest', skipStatement, if_neg (by simp [hu])]

/-- **A round goes in a walk as it does among tokens.** -/
theorem OnToken.round {t : Token} {ts : List Token} (h : w.OnToken source es (t :: ts)) :
    (walkRound w).1 = (readRound source.utf8ByteSize t ts).statement? ∧
      ∃ rest, significantTokens rest = (readRound source.utf8ByteSize t ts).rest ∧
        (walkRound w).2.Resumed source rest
          (es ++ (readRound source.utf8ByteSize t ts).error?.toList) := by
  obtain ⟨rest, hrest, hready⟩ := h.ready
  have hfollows := implements_walkStatement source es rest w hready
  rw [hrest] at hfollows
  rw [readRound_eq]
  unfold walkRound
  generalize readPhrase (t :: ts) = o at hfollows ⊢
  generalize walkStatement w = r at hfollows ⊢
  cases hfollows with
  | done h =>
    obtain ⟨hstatement, hresumed⟩ := h.endStatement rfl
    exact ⟨hstatement.symm, hresumed⟩
  | @failed fault left w h =>
    obtain ⟨rest, hrest, hresumed⟩ := h.recover fault
    refine ⟨rfl, rest, hrest, ?_⟩
    rw [Outcome.round, ← h.at_token]
    exact hresumed

/-- Between rounds, a walker is at the end or on the first of the tokens that are left. -/
theorem Resumed.skipTrivia (h : w.Resumed source rest es) :
    (significantTokens rest = [] ∧ ∃ before, w.skipTrivia.At source before [] es) ∨
      ∃ t ts, significantTokens rest = t :: ts ∧ w.skipTrivia.OnToken source es (t :: ts) := by
  obtain ⟨⟨before, hat⟩, hready⟩ := h
  cases rest with
  | nil =>
    rw [skipTrivia_of_atEnd hat.atEnd_eq_true]
    exact .inl ⟨rfl, before, hat⟩
  | cons l ls =>
    have hon := (hready (List.cons_ne_nil l ls)).skipTrivia
    cases hts : significantTokens (l :: ls) with
    | nil =>
      rw [hts] at hon
      cases hon with
      | ending hready =>
        obtain ⟨before, hat, -⟩ := hready
        exact .inl ⟨rfl, before, hat⟩
    | cons t ts => exact .inr ⟨t, ts, rfl, hts ▸ hon⟩

end Walker

/-- **From where a walker has resumed, walking on gives the statements that reading on gives, and it
ends with all that there is to report.** -/
theorem walkStatementsFrom_spec {source : String} {rest : List PlacedLexeme} {es : List ParseError}
    {w : Walker} (h : w.Resumed source rest es) (statements : List Stmt) {r : Reading}
    (hr : readStatementsFrom source.utf8ByteSize statements es.reverse
      (significantTokens rest) = r) :
    (walkStatementsFrom statements w).1 = r.statements ∧
      (walkStatementsFrom statements w).2.reports = reportByToken (scan source) r.errors := by
  fun_induction walkStatementsFrom statements w generalizing rest es with
  | case1 statements w hend =>
    obtain ⟨hnil, before, hat⟩ | ⟨t, ts, -, hon⟩ := h.skipTrivia
    · rw [hnil, readStatementsFrom] at hr
      rw [← hr]
      refine ⟨rfl, ?_⟩
      rw [hat.reports, hat.scan_eq, List.reverse_reverse]
      rfl
    · rw [Walker.atEnd_iff, hon.token_eq] at hend
      exact absurd hend hon.kind_ne_ending
  | case2 statements w hend hkind ih =>
    obtain ⟨-, before, hat⟩ | ⟨t, ts, hts, hon⟩ := h.skipTrivia
    · exact absurd hat.atEnd_eq_true hend
    · rw [hon.token_eq] at hkind
      obtain ⟨rest', rfl, hready⟩ := hon.advance
      rw [hts, readStatementsFrom, if_pos hkind] at hr
      exact ih hready.resumed hr
  | case3 statements w hend hkind ih =>
    obtain ⟨-, before, hat⟩ | ⟨t, ts, hts, hon⟩ := h.skipTrivia
    · exact absurd hat.atEnd_eq_true hend
    · rw [hon.token_eq] at hkind
      obtain ⟨hstatement, rest', hrest', hresumed⟩ := hon.round
      rw [hts, readStatementsFrom, if_neg hkind, ← hrest'] at hr
      refine ih hresumed ?_
      rw [hstatement, List.reverse_append, ← hr]
      cases (readRound source.utf8ByteSize t ts).error? <;> rfl

/-- **A script is read in one walk as it is from its tokens: the statements are the same, and so are
the diagnostics and their order.** -/
theorem walkScript_eq (source : String) : walkScript source = parse source := by
  obtain ⟨hstatements, hreports⟩ :=
    walkStatementsFrom_spec (Walker.ready_start source).resumed [] rfl
  show (⟨⟨.empty, .ofList (walkStatementsFrom [] (Walker.start source)).1⟩,
    (walkStatementsFrom [] (Walker.start source)).2.reports⟩ : Parsed) = _
  rw [hstatements, hreports]
  rfl

end ScriptCheck
