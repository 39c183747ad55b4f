import ScriptCheck.Decimal.Double
import ScriptCheck.Token
import ScriptCheck.Tree

/-!
# Reading statements from tokens

The tokens are read without the trivia between them.

```text
statement  := 'var' identifier (':' identifier)? '=' expression
            | 'type' identifier '=' identifier
            | expression
expression := identifier '=' expression
            | identifier | number | string
```

A statement ends with a semicolon, a line end or the end of the input. Where no statement can be
read, the token at which that shows is reported, and reading goes on behind the next semicolon or
line end.

* `expression` — a loop over the targets of an assignment, since there may be very many
* `readStatements` — every round reads at least one token (`length_rest_readRound_lt`)
-/

namespace ScriptCheck

/-! ## Errors -/

/-- What can be wrong at a token. -/
inductive ParseFault where
  | expectedIdentifier
  | expectedExpression
  | expectedToken (kind : TokenKind)
  | expectedStatementEnd
  | unexpectedEnd
  | numberOutOfRange
  deriving DecidableEq, Repr

/-- The wording of a fault. -/
def ParseFault.message : ParseFault → String
  | .expectedIdentifier => "expected identifier"
  | .expectedExpression => "expected expression"
  | .expectedToken kind => "expected " ++ kind.describe
  | .expectedStatementEnd => "expected ';' or newline"
  | .unexpectedEnd => "unexpected end of input"
  | .numberOutOfRange => "numeric literal out of range"

/-- A fault and the byte offset of the token at which it shows. -/
structure ParseError where
  fault : ParseFault
  pos : Nat
  deriving DecidableEq, Repr

/-- The fault at the first of the tokens that are left. Where none are left, it is always that the
input has ended, at its end. -/
def ParseFault.locate (fault : ParseFault) (inputEnd : Nat) : List Token → ParseError
  | [] => ⟨.unexpectedEnd, inputEnd⟩
  | t :: _ => ⟨fault, t.pos⟩

/-! ## Phrases -/

/-- What comes of reading a phrase: its value and the tokens behind it, or a fault and the tokens
from the one on at which it shows. -/
inductive Outcome (α : Type) where
  | done (value : α) (rest : List Token)
  | failed (fault : ParseFault) (rest : List Token)

namespace Outcome

variable {α β : Type}

/-- The tokens that have not been read. -/
def rest : Outcome α → List Token
  | .done _ rest => rest
  | .failed _ rest => rest

/-- Reads on behind a phrase. -/
def andThen (o : Outcome α) (next : α → List Token → Outcome β) : Outcome β :=
  match o with
  | .done value rest => next value rest
  | .failed fault rest => .failed fault rest

/-- Makes another value of what was read. -/
def map (f : α → β) (o : Outcome α) : Outcome β := o.andThen fun value rest => .done (f value) rest

end Outcome

/-- Reads a token of one kind. -/
def readToken (kind : TokenKind) (fault : ParseFault) : List Token → Outcome Token
  | [] => .failed fault []
  | t :: ts => if t.kind = kind then .done t ts else .failed fault (t :: ts)

/-- The name that an identifier token is. -/
def Token.identifier (t : Token) : Identifier := ⟨t.text, t.pos⟩

/-- Reads a name. -/
def readIdentifier (ts : List Token) : Outcome Identifier :=
  (readToken .identifier .expectedIdentifier ts).map Token.identifier

/-- Reads a mark. -/
def readMark (kind : TokenKind) (ts : List Token) : Outcome Token :=
  readToken kind (.expectedToken kind) ts

/-- Reads a number or a string. -/
def readOperand : List Token → Outcome Expr
  | [] => .failed .expectedExpression []
  | t :: ts =>
    match t.kind with
    | .number =>
      match Decimal.Double.ofNat? (Decimal.ofDigits t.text.toList) with
      | some value => .done (.number value t.pos) ts
      | none => .failed .numberOutOfRange (t :: ts)
    | .string => .done (.string t.text t.pos) ts
    | _ => .failed .expectedExpression (t :: ts)

/-- Assigns an expression to some targets, of which the last one is the outermost. -/
def assignAll (targets : List Identifier) (e : Expr) : Expr :=
  targets.foldl (fun value target => .assignTo target value) e

/-- Goes on with `readExpression`, the targets read so far in front, last one first. -/
def readExpressionFrom (targets : List Identifier) : List Token → Outcome Expr
  | [] => .failed .expectedExpression []
  | t :: ts =>
    if t.kind = .identifier then
      match ts with
      | [] => .done (assignAll targets (.identifier t.identifier)) []
      | mark :: more =>
        if mark.kind = .equals then readExpressionFrom (t.identifier :: targets) more
        else .done (assignAll targets (.identifier t.identifier)) (mark :: more)
    else (readOperand (t :: ts)).map (assignAll targets)

/-- Reads an expression. -/
def readExpression (ts : List Token) : Outcome Expr := readExpressionFrom [] ts

/-- Reads the type name of a variable, if there is one. -/
def readTypeName : List Token → Outcome (Option Identifier)
  | [] => .done none []
  | t :: ts =>
    if t.kind = .colon then (readIdentifier ts).map some else .done none (t :: ts)

/-- Reads what stands behind the word of a variable declaration at a byte offset. -/
def readVariable (pos : Nat) (ts : List Token) : Outcome Stmt :=
  (readIdentifier ts).andThen fun name ts =>
  (readTypeName ts).andThen fun typeName ts =>
  (readMark .equals ts).andThen fun _ ts =>
  (readExpression ts).map fun init => .variable ⟨name, typeName, init, pos⟩

/-- Reads what stands behind the word of a type alias at a byte offset. -/
def readTypeAlias (pos : Nat) (ts : List Token) : Outcome Stmt :=
  (readIdentifier ts).andThen fun name ts =>
  (readMark .equals ts).andThen fun _ ts =>
  (readIdentifier ts).map fun target => .typeAlias ⟨name, target, pos⟩

/-- Reads a statement that starts with the token `t`. -/
def readStatement (t : Token) (ts : List Token) : Outcome Stmt :=
  match t.kind with
  | .keyword .var => readVariable t.pos ts
  | .keyword .type => readTypeAlias t.pos ts
  | _ => (readExpression (t :: ts)).map .ofExpr

/-! ## What is left is never longer -/

section Length

variable {α β : Type}

/-- Reading a phrase leaves no more than `n` tokens, and fewer than `n` if it is read. -/
def Outcome.Within (n : Nat) : Outcome α → Prop
  | .done _ rest => rest.length < n
  | .failed _ rest => rest.length ≤ n

theorem Outcome.Within.map {n : Nat} {o : Outcome α} {f : α → β} (h : o.Within n) :
    (o.map f).Within n := by
  cases o <;> exact h

theorem Outcome.Within.andThen {n : Nat} {o : Outcome α} {next : α → List Token → Outcome β}
    (h : o.Within n) (hnext : ∀ value rest, rest.length < n → (next value rest).Within n) :
    (o.andThen next).Within n := by
  cases o with
  | done value rest => exact hnext value rest h
  | failed fault rest => exact h

theorem Outcome.Within.mono {m n : Nat} {o : Outcome α} (h : o.Within m) (hmn : m ≤ n) :
    o.Within n := by
  cases o with
  | done value rest => exact Nat.lt_of_lt_of_le h hmn
  | failed fault rest => exact Nat.le_trans h hmn

theorem readToken_within (kind : TokenKind) (fault : ParseFault) (ts : List Token) :
    (readToken kind fault ts).Within ts.length := by
  unfold readToken
  split
  · exact Nat.le_refl _
  · split
    · exact Nat.lt_succ_self _
    · exact Nat.le_refl _

theorem readIdentifier_within (ts : List Token) : (readIdentifier ts).Within ts.length :=
  (readToken_within ..).map

theorem readOperand_within (ts : List Token) : (readOperand ts).Within ts.length := by
  unfold readOperand
  repeat' split
  all_goals simp [Outcome.Within]

theorem readExpressionFrom_within (targets : List Identifier) (ts : List Token) :
    (readExpressionFrom targets ts).Within ts.length := by
  fun_induction readExpressionFrom targets ts with
  | case1 => exact Nat.le_refl _
  | case2 => simp [Outcome.Within]
  | case3 targets t h mark more hm ih => exact ih.mono (by simp; omega)
  | case4 => simp [Outcome.Within]
  | case5 targets t ts h => exact (readOperand_within _).map

theorem readTypeName_within (ts : List Token) :
    (readTypeName ts).Within (ts.length + 1) := by
  unfold readTypeName
  split
  · exact Nat.lt_succ_self _
  · next t ts =>
    split
    · exact (readIdentifier_within ts).map.mono (by simp; omega)
    · exact Nat.lt_succ_self _

theorem readExpression_within (ts : List Token) : (readExpression ts).Within ts.length :=
  readExpressionFrom_within [] ts

theorem readMark_within (kind : TokenKind) (ts : List Token) :
    (readMark kind ts).Within ts.length :=
  readToken_within ..

theorem readVariable_within (pos : Nat) (ts : List Token) :
    (readVariable pos ts).Within ts.length := by
  refine (readIdentifier_within ts).andThen fun _ ts₁ h₁ => ?_
  refine ((readTypeName_within ts₁).mono h₁).andThen fun _ ts₂ h₂ => ?_
  refine ((readMark_within _ ts₂).mono (Nat.le_of_lt h₂)).andThen fun _ ts₃ h₃ => ?_
  exact ((readExpression_within ts₃).mono (Nat.le_of_lt h₃)).map

theorem readTypeAlias_within (pos : Nat) (ts : List Token) :
    (readTypeAlias pos ts).Within ts.length := by
  refine (readIdentifier_within ts).andThen fun _ ts₁ h₁ => ?_
  refine ((readMark_within _ ts₁).mono (Nat.le_of_lt h₁)).andThen fun _ ts₂ h₂ => ?_
  exact ((readIdentifier_within ts₂).mono (Nat.le_of_lt h₂)).map

theorem readStatement_within (t : Token) (ts : List Token) :
    (readStatement t ts).Within (t :: ts).length := by
  unfold readStatement
  split
  · exact (readVariable_within t.pos ts).mono (Nat.le_succ _)
  · exact (readTypeAlias_within t.pos ts).mono (Nat.le_succ _)
  · exact (readExpression_within (t :: ts)).map

end Length

/-! ## Statement by statement -/

/-- The tokens behind the next terminator. -/
def skipStatement : List Token → List Token
  | [] => []
  | t :: ts => if t.kind.isTerminator then ts else skipStatement ts

theorem length_skipStatement_le (ts : List Token) : (skipStatement ts).length ≤ ts.length := by
  induction ts with
  | nil => exact Nat.le_refl _
  | cons t ts ih =>
    unfold skipStatement
    split
    · exact Nat.le_succ _
    · exact Nat.le_succ_of_le ih

/-- What one round of reading gives: a statement, an error, or both, and the tokens that are left
for the next round. -/
structure Round where
  statement? : Option Stmt
  error? : Option ParseError
  rest : List Token

/-- Reads a statement that starts with the token `t`, and its terminator. If the statement is
complete and something else follows, the statement counts all the same. -/
def readRound (inputEnd : Nat) (t : Token) (ts : List Token) : Round :=
  match readStatement t ts with
  | .failed fault left => ⟨none, some (fault.locate inputEnd left), skipStatement left⟩
  | .done s [] => ⟨some s, none, []⟩
  | .done s (u :: us) =>
    if u.kind.isTerminator then ⟨some s, none, us⟩
    else ⟨some s, some ⟨.expectedStatementEnd, u.pos⟩, skipStatement us⟩

/-- A round reads at least one token. -/
theorem length_rest_readRound_lt (inputEnd : Nat) (t : Token) (ts : List Token) :
    (readRound inputEnd t ts).rest.length < (t :: ts).length := by
  have within := readStatement_within t ts
  unfold readRound
  split
  · next fault left h =>
    rw [h] at within
    cases left with
    | nil => exact Nat.succ_pos _
    | cons u us =>
      have := length_skipStatement_le us
      simp only [Outcome.Within, List.length_cons] at within ⊢
      unfold skipStatement
      split <;> omega
  · exact Nat.succ_pos _
  · next s u us h =>
    rw [h] at within
    have := length_skipStatement_le us
    simp only [Outcome.Within, List.length_cons] at within ⊢
    split <;> dsimp only <;> omega

/-- What a script has been read to: its statements and the errors on the way, both in order. -/
structure Reading where
  statements : List Stmt
  errors : List ParseError
  deriving DecidableEq, Repr

/-- Goes on with `readStatements`; what was read so far stands in front, the last one first. -/
def readStatementsFrom (inputEnd : Nat) (statements : List Stmt) (errors : List ParseError) :
    List Token → Reading
  | [] => ⟨statements.reverse, errors.reverse⟩
  | t :: ts =>
    if t.kind = .newline then readStatementsFrom inputEnd statements errors ts
    else
      readStatementsFrom inputEnd
        ((readRound inputEnd t ts).statement?.toList ++ statements)
        ((readRound inputEnd t ts).error?.toList ++ errors)
        (readRound inputEnd t ts).rest
termination_by ts => ts.length
decreasing_by
  · exact Nat.lt_succ_self _
  · exact length_rest_readRound_lt inputEnd t ts

/-- Reads the statements of a script from its tokens, trivia left out. Empty lines are no
statements. -/
def readStatements (inputEnd : Nat) (ts : List Token) : Reading :=
  readStatementsFrom inputEnd [] [] ts

end ScriptCheck
