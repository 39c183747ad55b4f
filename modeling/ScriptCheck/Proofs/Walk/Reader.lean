import ScriptCheck.Compilation
import ScriptCheck.Proofs.Token.Walk
import ScriptCheck.Proofs.Tree.Reading

/-!
# Reading while walking

A script can also be read in one walk: a cursor moves over it, and what it comes across is reported
at once. Each move reports what is wrong inside the token it comes to; where no statement can go on,
the current token is reported.

* `Walker` — a cursor, and what has been reported on the way
* `Walk` — reads a phrase from the current token on, or stops at the token at which it cannot go on
* `walkScript` — a script read this way

Every round of reading moves on, whatever the phrases come to, since what ends a statement and what
skips the rest of one both do (`left_endStatement_lt`, `left_recover_lt`).
-/

namespace ScriptCheck

/-! ## Walkers -/

/-- A reader on its way through a script. -/
structure Walker where
  cursor : Cursor
  /-- What has been reported, last one first. -/
  latestReports : List Diagnostic

namespace Walker

/-- The current token. -/
def token (w : Walker) : Token := w.cursor.current

/-- Whether nothing is left to read. -/
def atEnd (w : Walker) : Bool := w.cursor.atEnd

/-- What has been reported, in order. -/
def reports (w : Walker) : List Diagnostic := w.latestReports.reverse

/-- Moves to the next token, if there is one, and reports what is wrong inside it. -/
def advance (w : Walker) : Walker :=
  if w.atEnd then w
  else
    let (errors, cursor) := w.cursor.next.takeErrors
    ⟨cursor, (errors.map LexError.toDiagnostic).reverse ++ w.latestReports⟩

/-- Reports an error of reading. -/
def report (e : ParseError) (w : Walker) : Walker :=
  { w with latestReports := e.toDiagnostic :: w.latestReports }

/-- A walker on the first token of a script. -/
def start (source : String) : Walker := advance ⟨Cursor.start source, []⟩

/-! ### What is left to walk -/

/-- So many moves lead to the end of the input. -/
def left (w : Walker) : Nat := if w.atEnd then 0 else w.cursor.rest.length + 1

theorem atEnd_iff {w : Walker} : w.atEnd = true ↔ w.token.kind = .ending := beq_iff_eq

theorem left_eq_zero_iff {w : Walker} : w.left = 0 ↔ w.atEnd = true := by
  unfold left
  split <;> simp_all

theorem advance_of_atEnd {w : Walker} (h : w.atEnd = true) : w.advance = w := if_pos h

theorem advance_of_not_atEnd {w : Walker} (h : w.atEnd = false) :
    w.advance = ⟨w.cursor.next.takeErrors.2,
      (w.cursor.next.pending.map LexError.toDiagnostic).reverse ++ w.latestReports⟩ :=
  if_neg (by simp [h])

theorem left_advance_lt {w : Walker} (h : w.atEnd = false) : w.advance.left < w.left := by
  have hleft : w.left = w.cursor.rest.length + 1 := if_neg (by simp [h])
  rw [hleft, advance_of_not_atEnd h]
  obtain hend | hlt := w.cursor.atEnd_next_or_length_rest_lt
  · refine Nat.lt_of_le_of_lt (Nat.le_of_eq (left_eq_zero_iff.2 ?_)) (Nat.succ_pos _)
    exact hend
  · unfold left
    split
    · exact Nat.succ_pos _
    · exact Nat.succ_lt_succ hlt

theorem left_advance_le (w : Walker) : w.advance.left ≤ w.left := by
  cases h : w.atEnd with
  | true => rw [advance_of_atEnd h]
  | false => exact Nat.le_of_lt (left_advance_lt h)

theorem atEnd_of_kind {w : Walker} (h : w.token.kind ≠ .ending) : w.atEnd = false := by
  rw [← Bool.not_eq_true, atEnd_iff]
  exact h

end Walker

/-- No trivia stand for the end of the input. -/
theorem TokenKind.ne_ending_of_isTrivia {kind : TokenKind} (h : kind.isTrivia = true) :
    kind ≠ .ending := by
  rintro rfl
  simp [isTrivia] at h

namespace Walker

/-- Moves to the next token that is no trivia. -/
def skipTrivia (w : Walker) : Walker :=
  if w.token.kind.isTrivia then w.advance.skipTrivia else w
termination_by w.left
decreasing_by exact left_advance_lt (atEnd_of_kind (TokenKind.ne_ending_of_isTrivia ‹_›))

/-- Moves behind the next terminator. -/
def recover (w : Walker) : Walker :=
  if w.token.kind.isTerminator then w.advance
  else if w.atEnd then w
  else w.advance.recover
termination_by w.left
decreasing_by exact left_advance_lt (by simpa using ‹¬ w.atEnd = true›)

theorem skipTrivia_of_atEnd {w : Walker} (h : w.atEnd = true) : w.skipTrivia = w := by
  rw [skipTrivia, atEnd_iff.1 h]
  rfl

theorem left_skipTrivia_le (w : Walker) : w.skipTrivia.left ≤ w.left := by
  fun_induction skipTrivia w with
  | case1 w _ ih => exact Nat.le_trans ih w.left_advance_le
  | case2 => exact Nat.le_refl _

/-- Behind a token and the trivia that follow it, less is left. -/
theorem left_skipTrivia_advance_lt {w : Walker} (h : w.skipTrivia.token.kind ≠ .ending) :
    w.skipTrivia.advance.skipTrivia.left < w.left :=
  calc
    w.skipTrivia.advance.skipTrivia.left ≤ w.skipTrivia.advance.left := left_skipTrivia_le _
    _ < w.skipTrivia.left := left_advance_lt (atEnd_of_kind h)
    _ ≤ w.left := w.left_skipTrivia_le

/-- Behind the next terminator, or at the end, less is left than where something is left. -/
theorem left_recover_lt {w : Walker} {n : Nat} (hn : 0 < n) (h : w.left ≤ n) :
    w.recover.left < n := by
  fun_induction recover w with
  | case1 w hkind =>
    have hend := atEnd_of_kind (not_isTrivia_of_isTerminator hkind).2
    exact Nat.lt_of_lt_of_le (left_advance_lt hend) h
  | case2 w _ hend => rwa [left_eq_zero_iff.2 hend]
  | case3 w _ _ ih => exact ih (Nat.le_trans w.left_advance_le h)

end Walker

/-! ## Phrases -/

/-- The fault at a token. At the end of the input, it is always that the input has ended. -/
def ParseFault.at (fault : ParseFault) (t : Token) : ParseError :=
  if t.kind = .ending then ⟨.unexpectedEnd, t.pos⟩ else ⟨fault, t.pos⟩

/-- Reads on from where a walker is, or stops with an error. -/
abbrev Walk := EStateM ParseError Walker

namespace Walk

/-- The current token. -/
def here : Walk Token := return (← get).token

/-- Moves to the next token. -/
def move : Walk Unit := modify Walker.advance

/-- The kind of the current token, trivia left out. -/
def peek : Walk TokenKind := do
  modify Walker.skipTrivia
  return (← here).kind

/-- Stops at the current token. -/
def stop {α : Type} (fault : ParseFault) : Walk α := do
  throw (fault.at (← here))

/-- Reads a token if it is of one kind, and says whether it is. -/
def eat (kind : TokenKind) : Walk Bool := do
  if (← peek) = kind then
    move
    return true
  else
    return false

end Walk

open Walk

/-- Reads a mark. -/
def walkMark (kind : TokenKind) : Walk Unit := do
  unless ← eat kind do stop (.expectedToken kind)

/-- Reads a name. -/
def walkIdentifier : Walk Identifier := do
  if (← peek) = .identifier then
    let t ← here
    move
    return t.identifier
  else
    stop .expectedIdentifier

/-- Reads the type name of a variable, if there is one. -/
def walkTypeName : Walk (Option Identifier) := do
  if ← eat .colon then
    return some (← walkIdentifier)
  else
    return none

/-- Reads a number or a string. -/
def walkOperand : Walk Expr := do
  match ← peek with
  | .number =>
    let t ← here
    match Decimal.Double.ofNat? (Decimal.ofDigits t.text.toList) with
    | some value =>
      move
      return .number value t.pos
    | none => stop .numberOutOfRange
  | .string =>
    let t ← here
    move
    return .string t.text t.pos
  | _ => stop .expectedExpression

/-- Goes on with `walkExpression`, the targets read so far in front, last one first. -/
def walkExpressionFrom (targets : List Identifier) (w : Walker) :
    EStateM.Result ParseError Walker Expr :=
  if w.skipTrivia.token.kind = .identifier then
    let name := w.skipTrivia.token.identifier
    let next := w.skipTrivia.advance.skipTrivia
    if next.token.kind = .equals then walkExpressionFrom (name :: targets) next.advance
    else .ok (assignAll targets (.identifier name)) next
  else (assignAll targets <$> walkOperand) w.skipTrivia
termination_by w.left
decreasing_by
  exact Nat.lt_of_le_of_lt next.left_advance_le
    (Walker.left_skipTrivia_advance_lt (by simp [*]))

/-- Reads an expression. -/
def walkExpression : Walk Expr := walkExpressionFrom []

/-- Reads what stands behind the word of a variable declaration at a byte offset. -/
def walkVariable (pos : Nat) : Walk Stmt := do
  let name ← walkIdentifier
  let typeName ← walkTypeName
  walkMark .equals
  let init ← walkExpression
  return .variable ⟨name, typeName, init, pos⟩

/-- Reads what stands behind the word of a type alias at a byte offset. -/
def walkTypeAlias (pos : Nat) : Walk Stmt := do
  let name ← walkIdentifier
  walkMark .equals
  let target ← walkIdentifier
  return .typeAlias ⟨name, target, pos⟩

/-- Reads a statement. -/
def walkStatement : Walk Stmt := do
  let kind ← peek
  let pos := (← here).pos
  match kind with
  | .keyword .var =>
    move
    walkVariable pos
  | .keyword .type =>
    move
    walkTypeAlias pos
  | _ => return .ofExpr (← walkExpression)

/-! ### What moving keeps to -/

/-- A relation between where a walker is and where it is later, if it is only ever moved. -/
structure Passage (R : Walker → Walker → Prop) : Prop where
  refl (w : Walker) : R w w
  trans {u v w : Walker} (huv : R u v) (hvw : R v w) : R u w
  advance (w : Walker) : R w w.advance

namespace Passage

variable {R : Walker → Walker → Prop}

theorem skipTrivia (hR : Passage R) (w : Walker) : R w w.skipTrivia := by
  fun_induction Walker.skipTrivia w with
  | case1 w _ ih => exact hR.trans (hR.advance w) ih
  | case2 w => exact hR.refl w

theorem recover (hR : Passage R) (w : Walker) : R w w.recover := by
  fun_induction Walker.recover w with
  | case1 w => exact hR.advance w
  | case2 w => exact hR.refl w
  | case3 w _ _ ih => exact hR.trans (hR.advance w) ih

end Passage

/-- Moving never goes back. -/
theorem passage_left : Passage fun w w' => w'.left ≤ w.left where
  refl _ := Nat.le_refl _
  trans huv hvw := Nat.le_trans hvw huv
  advance := Walker.left_advance_le

section

variable {α β : Type}

/-- Where a walker is once it has read a phrase or stopped in it. -/
def Walk.after (x : Walk α) (w : Walker) : Walker :=
  match x w with
  | .ok _ w => w
  | .error _ w => w

/-- Whether reading leads from each walker to a related one. -/
def Walk.Along (R : Walker → Walker → Prop) (x : Walk α) : Prop := ∀ w, R w (x.after w)

/-- Whether reading never goes back. -/
def Walk.Steady (x : Walk α) : Prop := ∀ w, (x.after w).left ≤ w.left

variable {R : Walker → Walker → Prop} (hR : Passage R)

theorem along_modify {f : Walker → Walker} (hf : ∀ w, R w (f w)) : Walk.Along R (modify f) := hf

include hR

theorem Walk.Along.pure (value : α) : Along R (Pure.pure value : Walk α) := hR.refl

theorem Walk.Along.bind {x : Walk α} {f : α → Walk β} (hx : Along R x)
    (hf : ∀ value, Along R (f value)) : Along R (x >>= f) := by
  intro w
  have hfirst := hx w
  unfold after at hfirst ⊢
  show R w (match EStateM.bind x f w with
    | .ok _ w => w
    | .error _ w => w)
  unfold EStateM.bind
  cases hxw : x w with
  | error e w' => rwa [hxw] at hfirst
  | ok value w' =>
    rw [hxw] at hfirst
    exact hR.trans hfirst (hf value w')

theorem along_here : Walk.Along R here := hR.refl

theorem along_move : Walk.Along R move := along_modify hR.advance

theorem along_peek : Walk.Along R peek :=
  (along_modify hR.skipTrivia).bind hR fun _ => (along_here hR).bind hR fun _ => .pure hR _

theorem along_stop (fault : ParseFault) : Walk.Along R (@stop α fault) := hR.refl

theorem along_eat (kind : TokenKind) : Walk.Along R (eat kind) := by
  refine (along_peek hR).bind hR fun here => ?_
  split
  · exact (along_move hR).bind hR fun _ => .pure hR _
  · exact .pure hR _

theorem along_walkMark (kind : TokenKind) : Walk.Along R (walkMark kind) := by
  refine (along_eat hR kind).bind hR fun eaten => ?_
  cases eaten
  · exact along_stop hR _
  · exact .pure hR _

theorem along_walkIdentifier : Walk.Along R walkIdentifier := by
  refine (along_peek hR).bind hR fun kind => ?_
  split
  · exact (along_here hR).bind hR fun _ => (along_move hR).bind hR fun _ => .pure hR _
  · exact along_stop hR _

theorem along_walkTypeName : Walk.Along R walkTypeName := by
  refine (along_eat hR .colon).bind hR fun eaten => ?_
  cases eaten
  · exact .pure hR _
  · exact (along_walkIdentifier hR).bind hR fun _ => .pure hR _

theorem along_walkOperand : Walk.Along R walkOperand := by
  refine (along_peek hR).bind hR fun kind => ?_
  split
  · refine (along_here hR).bind hR fun t => ?_
    split
    · exact (along_move hR).bind hR fun _ => .pure hR _
    · exact along_stop hR _
  · exact (along_here hR).bind hR fun _ => (along_move hR).bind hR fun _ => .pure hR _
  · exact along_stop hR _

theorem along_walkExpressionFrom (targets : List Identifier) :
    Walk.Along R (walkExpressionFrom targets) := by
  intro w
  unfold Walk.after
  fun_induction walkExpressionFrom targets w with
  | case1 targets w hname name next hmark ih =>
    have hnext : R w.skipTrivia next := hR.trans (hR.advance _) (hR.skipTrivia _)
    exact hR.trans (hR.skipTrivia w) (hR.trans hnext (hR.trans (hR.advance next) ih))
  | case2 targets w hname name next hmark =>
    exact hR.trans (hR.skipTrivia w) (hR.trans (hR.advance _) (hR.skipTrivia _))
  | case3 targets w hname =>
    have hoperand : Walk.Along R (assignAll targets <$> walkOperand) :=
      (along_walkOperand hR).bind hR fun _ => .pure hR _
    exact hR.trans (hR.skipTrivia w) (hoperand w.skipTrivia)

theorem along_walkVariable (pos : Nat) : Walk.Along R (walkVariable pos) :=
  (along_walkIdentifier hR).bind hR fun _ => (along_walkTypeName hR).bind hR fun _ =>
    (along_walkMark hR .equals).bind hR fun _ => (along_walkExpressionFrom hR []).bind hR fun _ =>
      .pure hR _

theorem along_walkTypeAlias (pos : Nat) : Walk.Along R (walkTypeAlias pos) :=
  (along_walkIdentifier hR).bind hR fun _ => (along_walkMark hR .equals).bind hR fun _ =>
    (along_walkIdentifier hR).bind hR fun _ => .pure hR _

/-- **Reading a statement moves a walker, and does nothing else with it.** -/
theorem along_walkStatement : Walk.Along R walkStatement := by
  refine (along_peek hR).bind hR fun kind => (along_here hR).bind hR fun t => ?_
  dsimp only
  split
  · exact (along_move hR).bind hR fun _ => along_walkVariable hR _
  · exact (along_move hR).bind hR fun _ => along_walkTypeAlias hR _
  · exact (along_walkExpressionFrom hR []).bind hR fun _ => .pure hR _

end

/-- Reading a statement never goes back. -/
theorem steady_walkStatement : Walk.Steady walkStatement := along_walkStatement passage_left

/-! ## Statement by statement -/

/-- Moves behind the terminator of a statement, which may be the end of the input. If something else
stands there, it is reported and skipped. -/
def Walker.endStatement (w : Walker) : Walker :=
  let next := w.skipTrivia
  if next.token.kind.isTerminator then next.advance
  else if next.atEnd then next
  else (next.report (ParseFault.expectedStatementEnd.at next.token)).recover

/-- Reads a statement and its terminator. If none can be read, that is reported, and what is left of
it is skipped. -/
def walkRound (w : Walker) : Option Stmt × Walker :=
  match walkStatement w with
  | .ok s w => (some s, w.endStatement)
  | .error e w => (none, (w.report e).recover)

theorem Walker.left_endStatement_lt {w : Walker} {n : Nat} (hn : 0 < n) (h : w.left ≤ n) :
    w.endStatement.left < n := by
  have hnext := Nat.le_trans w.left_skipTrivia_le h
  unfold endStatement
  dsimp only
  split
  · next hkind =>
    have hend := atEnd_of_kind (not_isTrivia_of_isTerminator hkind).2
    exact Nat.lt_of_lt_of_le (left_advance_lt hend) hnext
  · split
    · next hend => rwa [left_eq_zero_iff.2 hend]
    · exact left_recover_lt hn hnext

/-- A round moves on. -/
theorem left_walkRound_lt {w : Walker} (h : w.atEnd = false) : (walkRound w).2.left < w.left := by
  have hleft : 0 < w.left := by
    rw [Nat.pos_iff_ne_zero, ne_eq, Walker.left_eq_zero_iff, h]
    exact Bool.false_ne_true
  have hsteady := steady_walkStatement w
  unfold Walk.after at hsteady
  unfold walkRound
  split
  · next hw =>
    rw [hw] at hsteady
    exact Walker.left_endStatement_lt hleft hsteady
  · next hw =>
    rw [hw] at hsteady
    exact Walker.left_recover_lt hleft hsteady

/-- Goes on with `walkScript`, the statements read so far in front, last one first. -/
def walkStatementsFrom (statements : List Stmt) (w : Walker) : List Stmt × Walker :=
  if w.skipTrivia.atEnd then (statements.reverse, w.skipTrivia)
  else if w.skipTrivia.token.kind = .newline then
    walkStatementsFrom statements w.skipTrivia.advance
  else
    walkStatementsFrom ((walkRound w.skipTrivia).1.toList ++ statements) (walkRound w.skipTrivia).2
termination_by w.left
decreasing_by
  · exact Nat.lt_of_lt_of_le (Walker.left_advance_lt (by simp [*])) w.left_skipTrivia_le
  · exact Nat.lt_of_lt_of_le (left_walkRound_lt (by simp [*])) w.left_skipTrivia_le

/-- Reads a script in one walk. -/
def walkScript (source : String) : Parsed :=
  let (statements, w) := walkStatementsFrom [] (Walker.start source)
  ⟨⟨.empty, .ofList statements⟩, w.reports⟩

end ScriptCheck
