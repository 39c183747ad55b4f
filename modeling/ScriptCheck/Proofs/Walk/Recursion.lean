import ScriptCheck.Proofs.Walk.Reader
import ScriptCheck.Tree.Outline

/-!
# Expressions by recursion

The grammar says what an expression is by recursion: behind a target and its mark, there is an
expression again. Expressions are read in a loop, which collects the targets and assigns to them in
the end. Both come to the same, from wherever a walker is: to the same tree or the same error, at
the same token, with the same reports.

* `walkNested` — an expression, read as the grammar says it; `walkNested_eq` is the grammar
* `walkExpressionFrom_eq` — the loop, with the targets it has collected
* `Walker.Assigns` — the targets in front of an expression
* `expression_by_recursion` — both ways of reading, and what comes of a row of targets
-/

namespace ScriptCheck

open Walk

variable {α β : Type}

/-! ## Steps -/

/-- Makes another value of what was read, if something was. -/
def Walk.mapResult (f : α → β) :
    EStateM.Result ParseError Walker α → EStateM.Result ParseError Walker β
  | .ok value w => .ok (f value) w
  | .error e w => .error e w

theorem Walk.map_eq (f : α → β) (x : Walk α) (w : Walker) : (f <$> x) w = mapResult f (x w) := by
  show EStateM.map f x w = _
  unfold EStateM.map
  cases x w <;> rfl

theorem Walk.mapResult_mapResult {γ : Type} (g : β → γ) (f : α → β)
    (r : EStateM.Result ParseError Walker α) :
    mapResult g (mapResult f r) = mapResult (g ∘ f) r := by
  cases r <;> rfl

theorem Walk.peek_bind_apply (f : TokenKind → Walk α) (w : Walker) :
    (peek >>= f) w = f w.skipTrivia.token.kind w.skipTrivia := rfl

theorem Walk.here_bind_apply (f : Token → Walk α) (w : Walker) :
    (here >>= f) w = f w.token w := rfl

theorem Walk.eat_bind_apply (kind : TokenKind) (f : Bool → Walk α) (w : Walker) :
    (eat kind >>= f) w =
      if w.skipTrivia.token.kind = kind then f true w.skipTrivia.advance
      else f false w.skipTrivia := by
  unfold eat
  rw [bind_assoc, peek_bind_apply]
  split <;> rfl

/-! ## Two ways of reading -/

/-- Reads an expression, with the expression behind a target in it. -/
def walkNested (w : Walker) : EStateM.Result ParseError Walker Expr :=
  if _hname : w.skipTrivia.token.kind = .identifier then
    let name := w.skipTrivia.token.identifier
    let next := w.skipTrivia.advance.skipTrivia
    if next.token.kind = .equals then mapResult (.assignTo name) (walkNested next.advance)
    else .ok (.identifier name) next
  else walkOperand w.skipTrivia
termination_by w.left
decreasing_by
  exact Nat.lt_of_le_of_lt next.left_advance_le
    (Walker.left_skipTrivia_advance_lt (by simp [*]))

/-- Reads an expression as the grammar says it, the value behind a target by `expression`. -/
def walkGrammar (expression : Walk Expr) : Walk Expr := do
  if (← peek) = .identifier then
    let t ← here
    move
    if ← eat .equals then
      let value ← expression
      return .assignTo t.identifier value
    else
      return .identifier t.identifier
  else walkOperand

/-- **Reading by recursion is what the grammar says.** -/
theorem walkNested_eq : walkNested = walkGrammar walkNested := by
  funext w
  rw [walkNested]
  unfold walkGrammar
  rw [peek_bind_apply]
  split
  · next hname =>
    show _ = (eat .equals >>= fun eaten => if eaten then _ else _) w.skipTrivia.advance
    rw [eat_bind_apply]
    dsimp only
    split
    · exact (map_eq (Expr.assignTo w.skipTrivia.token.identifier) walkNested _).symm
    · rfl
  · rfl

theorem walkNested_target {w : Walker} (hname : w.skipTrivia.token.kind = .identifier)
    (hmark : w.skipTrivia.advance.skipTrivia.token.kind = .equals) :
    walkNested w = mapResult (.assignTo w.skipTrivia.token.identifier)
      (walkNested w.skipTrivia.advance.skipTrivia.advance) := by
  rw [walkNested, dif_pos hname]
  exact if_pos hmark

theorem walkNested_name {w : Walker} (hname : w.skipTrivia.token.kind = .identifier)
    (hmark : w.skipTrivia.advance.skipTrivia.token.kind ≠ .equals) :
    walkNested w =
      .ok (.identifier w.skipTrivia.token.identifier) w.skipTrivia.advance.skipTrivia := by
  rw [walkNested, dif_pos hname]
  exact if_neg hmark

theorem walkNested_operand {w : Walker} (hname : w.skipTrivia.token.kind ≠ .identifier) :
    walkNested w = walkOperand w.skipTrivia := by
  rw [walkNested, dif_neg hname]

/-- **The loop assigns to the targets that it has collected what reading by recursion comes to.** -/
theorem walkExpressionFrom_eq (targets : List Identifier) (w : Walker) :
    walkExpressionFrom targets w = mapResult (assignAll targets) (walkNested w) := by
  -- along the rounds of the loop: the recursion comes to the same walker in each of them
  fun_induction walkExpressionFrom targets w with
  | case1 targets w hname name next hmark ih =>
    rw [ih, walkNested_target hname hmark, mapResult_mapResult]
    rfl
  | case2 targets w hname name next hmark => rw [walkNested_name hname hmark, mapResult]
  | case3 targets w hname => rw [walkNested_operand hname, map_eq]

/-- **An expression is read in a loop as it is by recursion.** -/
theorem walkExpression_eq (w : Walker) : walkExpression w = walkNested w := by
  rw [walkExpression, walkExpressionFrom_eq]
  cases walkNested w <;> rfl

/-! ### From tokens -/

/-- Reads an expression from tokens, with the expression behind a target in it. -/
def readNested : List Token → Outcome Expr
  | [] => .failed .expectedExpression []
  | t :: ts =>
    if t.kind = .identifier then
      match ts with
      | [] => .done (.identifier t.identifier) []
      | mark :: more =>
        if mark.kind = .equals then (readNested more).map (.assignTo t.identifier)
        else .done (.identifier t.identifier) (mark :: more)
    else readOperand (t :: ts)

theorem Outcome.map_map {γ : Type} (g : β → γ) (f : α → β) (o : Outcome α) :
    (o.map f).map g = o.map (g ∘ f) := by
  cases o <;> rfl

theorem readExpressionFrom_eq (targets : List Identifier) (ts : List Token) :
    readExpressionFrom targets ts = (readNested ts).map (assignAll targets) := by
  fun_induction readExpressionFrom targets ts with
  | case1 => rfl
  | case2 targets t hname => rw [readNested, if_pos hname]; rfl
  | case3 targets t hname mark more hmark ih =>
    rw [ih, readNested, if_pos hname, if_pos hmark, Outcome.map_map]
    rfl
  | case4 targets t hname mark more hmark =>
    rw [readNested, if_pos hname, if_neg hmark]
    rfl
  | case5 targets t ts hname =>
    rw [readNested.eq_def]
    exact congrArg (Outcome.map _) (if_neg hname).symm

/-- **An expression is read from tokens in a loop as it is by recursion.** -/
theorem readExpression_eq (ts : List Token) : readExpression ts = readNested ts := by
  rw [readExpression, readExpressionFrom_eq]
  cases readNested ts <;> rfl

/-! ## Rows of targets -/

namespace Walker

/-- Whether a walker is in front of a target: a name, and a mark behind it. -/
def AtTarget (w : Walker) : Prop :=
  w.skipTrivia.token.kind = .identifier ∧ w.skipTrivia.advance.skipTrivia.token.kind = .equals

/-- Where a walker is behind a target and its mark. -/
def afterTarget (w : Walker) : Walker := w.skipTrivia.advance.skipTrivia.advance

theorem AtTarget.left_afterTarget_lt {w : Walker} (h : w.AtTarget) :
    w.afterTarget.left < w.left :=
  Nat.lt_of_le_of_lt (left_advance_le _) (left_skipTrivia_advance_lt (by simp [h.1]))

/-- Some targets lead from one walker to another. -/
inductive Assigns : Walker → List Identifier → Walker → Prop
  | nothing (w : Walker) : Assigns w [] w
  | target {w w' : Walker} {names : List Identifier} (h : w.AtTarget)
      (rest : Assigns w.afterTarget names w') :
      Assigns w (w.skipTrivia.token.identifier :: names) w'

/-- All the targets that stand in front of an expression can be gone through. -/
theorem exists_assigns (w : Walker) : ∃ names w', w.Assigns names w' ∧ ¬ w'.AtTarget := by
  by_cases h : w.AtTarget
  · have := h.left_afterTarget_lt
    obtain ⟨names, w', hassigns, hlast⟩ := exists_assigns w.afterTarget
    exact ⟨_, w', .target h hassigns, hlast⟩
  · exact ⟨[], w, .nothing w, h⟩
termination_by w.left

/-- **Targets are assigned what is read behind them, and go if nothing is.** -/
theorem Assigns.walkNested_eq {w w' : Walker} {names : List Identifier} (h : w.Assigns names w') :
    walkNested w = mapResult (fun e => names.foldr .assignTo e) (walkNested w') := by
  induction h with
  | nothing w => cases walkNested w <;> rfl
  | target h _ ih =>
    rw [walkNested_target h.1 h.2, ← afterTarget, ih, mapResult_mapResult]
    rfl

end Walker

theorem Expr.targets_foldr (names : List Identifier) (e : Expr) :
    Expr.targets (names.foldr .assignTo e) = names ++ e.targets := by
  induction names with
  | nil => rfl
  | cons name names ih => exact congrArg (name :: ·) ih

theorem targets_walkOperand {w u : Walker} {e : Expr} (h : walkOperand w = .ok e u) :
    e.targets = [] := by
  rw [walkOperand, peek_bind_apply] at h
  cases hkind : w.skipTrivia.token.kind with
  | number =>
    rw [hkind] at h
    dsimp only at h
    rw [here_bind_apply] at h
    cases hvalue : Decimal.Double.ofNat? (Decimal.ofDigits w.skipTrivia.token.text.toList) with
    | some value =>
      rw [hvalue] at h
      cases h
      rfl
    | none =>
      rw [hvalue] at h
      cases h
  | string =>
    rw [hkind] at h
    cases h
    rfl
  | _ =>
    rw [hkind] at h
    cases h

/-- Where no target stands, no assignment is read. -/
theorem targets_walkNested {w u : Walker} {e : Expr} (hw : ¬ w.AtTarget)
    (h : walkNested w = .ok e u) : e.targets = [] := by
  by_cases hname : w.skipTrivia.token.kind = .identifier
  · rw [walkNested_name hname fun hmark => hw ⟨hname, hmark⟩] at h
    cases h
    rfl
  · rw [walkNested_operand hname] at h
    exact targets_walkOperand h

/-- The targets of what is read are exactly those that stand in front. -/
theorem Walker.Assigns.targets_eq {w w' u : Walker} {names : List Identifier} {e : Expr}
    (h : w.Assigns names w') (hlast : ¬ w'.AtTarget) (he : walkNested w = .ok e u) :
    e.targets = names := by
  rw [h.walkNested_eq] at he
  cases hvalue : walkNested w' with
  | ok value v =>
    rw [hvalue] at he
    cases he
    rw [Expr.targets_foldr, targets_walkNested hlast hvalue, List.append_nil]
  | error error v =>
    rw [hvalue] at he
    cases he

/-- From tokens, too, targets are assigned what is read behind them, and go if nothing is. -/
theorem readNested_targets (targets : List (Token × Token)) (ts : List Token)
    (htargets : ∀ p ∈ targets, p.1.kind = .identifier ∧ p.2.kind = .equals) :
    readNested (targets.flatMap (fun p => [p.1, p.2]) ++ ts) =
      (readNested ts).map fun e => (targets.map (·.1.identifier)).foldr .assignTo e := by
  induction targets with
  | nil =>
    -- without a target, what is read stays as it is
    show readNested ts = (readNested ts).map id
    cases readNested ts <;> rfl
  | cons p targets ih =>
    obtain ⟨hname, hmark⟩ := htargets p List.mem_cons_self
    have hrest := ih fun q hq => htargets q (List.mem_cons_of_mem p hq)
    show readNested (p.1 :: p.2 :: (targets.flatMap (fun p => [p.1, p.2]) ++ ts)) = _
    rw [readNested, if_pos hname, if_pos hmark, hrest, Outcome.map_map]
    rfl

/-- **Expressions are read in a loop as the grammar says by recursion.** In a walk, from wherever
the walker is, the tree or the error, the token to which it leads and what is reported are the same;
from tokens, the outcome is. However many targets stand in front, the tree has one assignment for
each of them, in order and one inside the other, around what is read behind them all; if nothing can
be read there, there is only that error. -/
theorem expression_by_recursion :
    (∀ w, walkExpression w = walkNested w) ∧
    walkNested = walkGrammar walkNested ∧
    (∀ w : Walker, ∃ names w', w.Assigns names w' ∧ ¬ w'.AtTarget) ∧
    (∀ (w w' : Walker) names, w.Assigns names w' →
      walkExpression w = mapResult (fun e => names.foldr .assignTo e) (walkExpression w') ∧
      (¬ w'.AtTarget → ∀ e u, walkExpression w = .ok e u → e.targets = names)) ∧
    (∀ ts, readExpression ts = readNested ts) ∧
    (∀ (targets : List (Token × Token)) ts,
      (∀ p ∈ targets, p.1.kind = .identifier ∧ p.2.kind = .equals) →
      readExpression (targets.flatMap (fun p => [p.1, p.2]) ++ ts) =
        (readExpression ts).map fun e => (targets.map (·.1.identifier)).foldr .assignTo e) := by
  refine ⟨walkExpression_eq, walkNested_eq, Walker.exists_assigns, fun w w' names h => ⟨?_, ?_⟩,
    readExpression_eq, fun targets ts htargets => ?_⟩
  · rw [walkExpression_eq, walkExpression_eq]
    exact h.walkNested_eq
  · intro hlast e u he
    rw [walkExpression_eq] at he
    exact h.targets_eq hlast he
  · rw [readExpression_eq, readExpression_eq]
    exact readNested_targets targets ts htargets

end ScriptCheck
