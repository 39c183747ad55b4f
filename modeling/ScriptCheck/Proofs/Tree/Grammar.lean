import ScriptCheck.Proofs.Lists
import ScriptCheck.Tree.Parse

/-!
# The grammar of statements

The grammar says which tokens are an expression or a statement and which tree stands for them. It
does not say how they are read. What reading does is stated against it:

* `ExpressionPhrase`, `StatementPhrase` — the grammar
* `Reads` — a reader takes a phrase from the front of any text, or the beginning of one if it fails,
  and looks at one token behind what it takes
* `readPhrase_reads` — statements are read so
* `readPhrase_of_phrase` — a phrase that the next token does not continue is read to its tree
-/

namespace ScriptCheck

/-! ## Phrases -/

/-- The tokens of an expression, and its tree. A number has to be one that a double can hold. -/
inductive ExpressionPhrase : List Token → Expr → Prop
  | identifier {t : Token} (ht : t.kind = .identifier) :
      ExpressionPhrase [t] (.identifier t.identifier)
  | number {t : Token} {value : Nat} (ht : t.kind = .number)
      (hvalue : Decimal.Double.ofNat? (Decimal.ofDigits t.text.toList) = some value) :
      ExpressionPhrase [t] (.number value t.pos)
  | string {t : Token} (ht : t.kind = .string) : ExpressionPhrase [t] (.string t.text t.pos)
  | assign {t mark : Token} {ts : List Token} {e : Expr} (ht : t.kind = .identifier)
      (hmark : mark.kind = .equals) (he : ExpressionPhrase ts e) :
      ExpressionPhrase (t :: mark :: ts) (.assignTo t.identifier e)

/-- The tokens of the type name of a variable, if there is one. -/
inductive TypeNamePhrase : List Token → Option Identifier → Prop
  | none : TypeNamePhrase [] none
  | some {colon t : Token} (hcolon : colon.kind = .colon) (ht : t.kind = .identifier) :
      TypeNamePhrase [colon, t] (some t.identifier)

/-- The tokens of a statement without its terminator, and its tree. -/
inductive StatementPhrase : List Token → Stmt → Prop
  | variable {word name mark : Token} {ts us : List Token} {typeName : Option Identifier}
      {init : Expr} (hword : word.kind = .keyword .var) (hname : name.kind = .identifier)
      (htype : TypeNamePhrase ts typeName) (hmark : mark.kind = .equals)
      (hinit : ExpressionPhrase us init) :
      StatementPhrase (word :: name :: (ts ++ mark :: us))
        (.variable ⟨name.identifier, typeName, init, word.pos⟩)
  | typeAlias {word name mark target : Token} (hword : word.kind = .keyword .type)
      (hname : name.kind = .identifier) (hmark : mark.kind = .equals)
      (htarget : target.kind = .identifier) :
      StatementPhrase [word, name, mark, target]
        (.typeAlias ⟨name.identifier, target.identifier, word.pos⟩)
  | expression {ts : List Token} {e : Expr} (he : ExpressionPhrase ts e) :
      StatementPhrase ts (.ofExpr e)

/-- A token of a kind, somewhere. -/
def Token.sample (kind : TokenKind) : Token := ⟨kind, 0, ""⟩

/-- An expression of one token. -/
theorem ExpressionPhrase.sample :
    ExpressionPhrase [Token.sample .identifier]
      (.identifier (Token.sample .identifier).identifier) :=
  .identifier rfl

/-- The kinds of which a phrase is made. -/
def TokenKind.InPhrase : TokenKind → Prop
  | .keyword _ | .equals | .colon | .number | .string | .identifier => True
  | _ => False

theorem ExpressionPhrase.inPhrase {ts : List Token} {e : Expr} (h : ExpressionPhrase ts e) :
    ∀ t ∈ ts, t.kind.InPhrase := by
  induction h with
  | identifier ht | number ht _ | string ht =>
    intro u hu
    rw [List.mem_singleton.1 hu, ht]
    trivial
  | @assign t mark ts e ht hmark _ ih =>
    intro u hu
    rcases List.mem_cons.1 hu with rfl | hu
    · rw [ht]
      trivial
    · rcases List.mem_cons.1 hu with rfl | hu
      · rw [hmark]
        trivial
      · exact ih u hu

theorem TypeNamePhrase.inPhrase {ts : List Token} {typeName : Option Identifier}
    (h : TypeNamePhrase ts typeName) : ∀ t ∈ ts, t.kind.InPhrase := by
  cases h with
  | none => simp
  | some hcolon ht => simp [hcolon, ht, TokenKind.InPhrase]

/-- No terminator, no trivia and no end of the input is part of a statement. -/
theorem StatementPhrase.inPhrase {ts : List Token} {s : Stmt} (h : StatementPhrase ts s) :
    ∀ t ∈ ts, t.kind.InPhrase := by
  cases h with
  | «variable» hword hname htype hmark hinit =>
    intro u hu
    simp only [List.mem_cons, List.mem_append] at hu
    rcases hu with rfl | rfl | hu | rfl | hu
    · rw [hword]
      trivial
    · rw [hname]
      trivial
    · exact htype.inPhrase u hu
    · rw [hmark]
      trivial
    · exact hinit.inPhrase u hu
  | typeAlias hword hname hmark htarget =>
    simp [hword, hname, hmark, htarget, TokenKind.InPhrase]
  | expression he => exact he.inPhrase

theorem StatementPhrase.ne_nil {ts : List Token} {s : Stmt} (h : StatementPhrase ts s) :
    ts ≠ [] := by
  cases h with
  | expression he => cases he <;> simp
  | _ => simp

/-! ## What readers do -/

section

variable {α β : Type}

/-- The same outcome with other tokens left. -/
def Outcome.before (o : Outcome α) (rest : List Token) : Outcome α :=
  match o with
  | .done value _ => .done value rest
  | .failed fault _ => .failed fault rest

/-- The faults that show inside a phrase. -/
def ParseFault.InPhrase (fault : ParseFault) : Prop :=
  fault ≠ .expectedStatementEnd ∧ fault ≠ .unexpectedEnd

/-- What the tokens that were read have to do with the outcome: they are a phrase, or else the
beginning of one. -/
def Outcome.Of (Phrase : List Token → α → Prop) (front : List Token) : Outcome α → Prop
  | .done value _ => Phrase front value
  | .failed fault _ => fault.InPhrase ∧ ∃ more value, Phrase (front ++ more) value

/-- Whether an outcome is that of reading a phrase from the front of a text: some tokens were taken
from it, and whatever text stands behind these tokens, the outcome depends on no more of it than the
first token. -/
def ReadsTo (read : List Token → Outcome α) (Phrase : List Token → α → Prop) (ts : List Token)
    (o : Outcome α) : Prop :=
  ∃ front, ts = front ++ o.rest ∧ o.Of Phrase front ∧
    ∀ more, more.head? = o.rest.head? → read (front ++ more) = o.before more

/-- Whether a reader reads phrases of a kind from all texts. -/
def Reads (read : List Token → Outcome α) (Phrase : List Token → α → Prop) : Prop :=
  ∀ ts, ReadsTo read Phrase ts (read ts)

theorem Outcome.Of.imp {Phrase Other : List Token → α → Prop} {front : List Token} {o : Outcome α}
    (h : o.Of Phrase front) (hp : ∀ ts value, Phrase ts value → Other ts value) :
    o.Of Other front := by
  cases o with
  | done value rest => exact hp front value h
  | failed fault rest =>
    obtain ⟨hfault, more, value, hv⟩ := h
    exact ⟨hfault, more, value, hp _ _ hv⟩

theorem Outcome.Of.behind {Whole : List Token → α → Prop} {front front' : List Token}
    {o : Outcome α} (h : o.Of (fun more value => Whole (front ++ more) value) front') :
    o.Of Whole (front ++ front') := by
  cases o with
  | done value rest => exact h
  | failed fault rest =>
    obtain ⟨hfault, more, value, hv⟩ := h
    refine ⟨hfault, more, value, ?_⟩
    rw [List.append_assoc]
    exact hv

namespace ReadsTo

variable {read other : List Token → Outcome α} {Phrase Other : List Token → α → Prop}
  {front ts : List Token} {o : Outcome α}

theorem imp (h : ReadsTo read Phrase ts o) (hp : ∀ us value, Phrase us value → Other us value) :
    ReadsTo read Other ts o := by
  obtain ⟨front, hts, hof, hlook⟩ := h
  exact ⟨front, hts, hof.imp hp, hlook⟩

/-- A reader that goes on as another one behind some tokens. -/
theorem behind (hread : ∀ more, read (front ++ more) = other more)
    (h : ReadsTo other (fun us value => Phrase (front ++ us) value) ts (other ts)) :
    ReadsTo read Phrase (front ++ ts) (read (front ++ ts)) := by
  obtain ⟨front', hts, hof, hlook⟩ := h
  rw [hread]
  refine ⟨front ++ front', ?_, hof.behind, ?_⟩
  · rw [List.append_assoc, ← hts]
  · intro more hmore
    rw [List.append_assoc, hread]
    exact hlook more hmore

/-- A reader that is another one where the first token is the same. -/
theorem congr (hread : ∀ us, us.head? = ts.head? → read us = other us)
    (h : ReadsTo other Phrase ts (other ts)) : ReadsTo read Phrase ts (read ts) := by
  obtain ⟨front, hts, hof, hlook⟩ := h
  rw [hread ts rfl]
  refine ⟨front, hts, hof, ?_⟩
  intro more hmore
  have hhead : (front ++ more).head? = ts.head? := by
    rw [List.head?_append, hmore, ← List.head?_append, ← hts]
  rw [hread _ hhead]
  exact hlook more hmore

/-- A reader that wants another token than the next one fails in front of it. -/
theorem refuse {fault : ParseFault} (hfault : fault.InPhrase)
    (hphrase : ∃ more value, Phrase more value)
    (h : ∀ more, more.head? = ts.head? → read more = .failed fault more) :
    ReadsTo read Phrase ts (.failed fault ts) :=
  ⟨[], rfl, ⟨hfault, hphrase⟩, h⟩

/-- A reader that takes the next token whatever stands behind it. -/
theorem take {t : Token} {value : α} (hphrase : Phrase [t] value)
    (h : ∀ more, read (t :: more) = .done value more) :
    ReadsTo read Phrase (t :: ts) (.done value ts) :=
  ⟨[t], rfl, hphrase, fun more _ => h more⟩

end ReadsTo

namespace Reads

variable {read : List Token → Outcome α} {Phrase : List Token → α → Prop}

/-- A reader of phrases goes on with a reader of what can stand behind them. -/
theorem andThen {next : α → List Token → Outcome β} {Whole : List Token → β → Prop}
    (h : Reads read Phrase)
    (hnext : ∀ front value, Phrase front value →
      Reads (next value) fun more w => Whole (front ++ more) w)
    (hmore : ∀ front value, Phrase front value → ∃ more w, Whole (front ++ more) w) :
    Reads (fun ts => (read ts).andThen next) Whole := by
  intro ts
  show ReadsTo _ Whole ts ((read ts).andThen next)
  obtain ⟨front, hts, hof, hlook⟩ := h ts
  cases ho : read ts with
  | failed fault rest =>
    rw [ho] at hts hof hlook
    obtain ⟨hfault, more, value, hp⟩ := hof
    obtain ⟨more', w, hw⟩ := hmore _ _ hp
    refine ⟨front, hts, ⟨hfault, more ++ more', w, ?_⟩, ?_⟩
    · rw [← List.append_assoc]
      exact hw
    · intro us hus
      show (read (front ++ us)).andThen next = _
      rw [hlook us hus]
      rfl
  | done value rest =>
    rw [ho] at hts hof hlook
    show ReadsTo _ Whole ts (next value rest)
    obtain ⟨front', hrest, hof', hlook'⟩ := hnext front value hof rest
    refine ⟨front ++ front', ?_, hof'.behind, ?_⟩
    · rw [List.append_assoc, ← hrest]
      exact hts
    · intro us hus
      -- the first reader sees the same first token, whether or not the second one took any
      have hhead : (front' ++ us).head? = rest.head? := by
        rw [List.head?_append, hus, ← List.head?_append, ← hrest]
      show (read (front ++ front' ++ us)).andThen next = (next value rest).before us
      rw [List.append_assoc, hlook _ hhead]
      exact hlook' us hus

theorem map {Whole : List Token → β → Prop} {f : α → β} (h : Reads read Phrase)
    (hf : ∀ ts value, Phrase ts value → Whole ts (f value)) :
    Reads (fun ts => (read ts).map f) Whole := by
  intro ts
  show ReadsTo _ Whole ts ((read ts).map f)
  obtain ⟨front, hts, hof, hlook⟩ := h ts
  cases ho : read ts with
  | done value rest =>
    rw [ho] at hts hof hlook
    refine ⟨front, hts, hf _ _ hof, fun us hus => ?_⟩
    show (read (front ++ us)).map f = _
    rw [hlook us hus]
    rfl
  | failed fault rest =>
    rw [ho] at hts hof hlook
    obtain ⟨hfault, more, value, hv⟩ := hof
    refine ⟨front, hts, ⟨hfault, more, f value, hf _ _ hv⟩, fun us hus => ?_⟩
    show (read (front ++ us)).map f = _
    rw [hlook us hus]
    rfl

end Reads

end

/-! ## One token -/

theorem readToken_reads (kind : TokenKind) {fault : ParseFault} (hfault : fault.InPhrase) :
    Reads (readToken kind fault) fun ts t => ts = [t] ∧ t.kind = kind := by
  have hphrase : ∃ more, ∃ t : Token, more = [t] ∧ t.kind = kind := ⟨_, Token.sample kind, rfl, rfl⟩
  intro ts
  cases ts with
  | nil =>
    refine .refuse hfault hphrase fun more hmore => ?_
    rw [List.head?_eq_none_iff.1 hmore]
    rfl
  | cons t ts =>
    by_cases h : t.kind = kind
    · have hread (more : List Token) : readToken kind fault (t :: more) = .done t more := by
        rw [readToken, if_pos h]
      rw [hread]
      exact .take ⟨rfl, h⟩ hread
    · have hread (more : List Token) :
          readToken kind fault (t :: more) = .failed fault (t :: more) := by
        rw [readToken, if_neg h]
      rw [hread]
      refine .refuse hfault hphrase fun more hmore => ?_
      obtain ⟨us, rfl⟩ := List.head?_eq_some_iff.1 hmore
      exact hread us

theorem readIdentifier_reads :
    Reads readIdentifier fun ts name => ∃ t, ts = [t] ∧ t.kind = .identifier ∧
      name = t.identifier := by
  have hfault : ParseFault.expectedIdentifier.InPhrase := ⟨nofun, nofun⟩
  exact (readToken_reads .identifier hfault).map fun ts t ⟨hts, ht⟩ => ⟨t, hts, ht, rfl⟩

theorem readMark_reads (kind : TokenKind) :
    Reads (readMark kind) fun ts t => ts = [t] ∧ t.kind = kind :=
  readToken_reads kind ⟨nofun, nofun⟩

/-! ## Expressions -/

theorem readOperand_of_kind_ne {t : Token} (h₁ : t.kind ≠ .number) (h₂ : t.kind ≠ .string)
    (ts : List Token) : readOperand (t :: ts) = .failed .expectedExpression (t :: ts) := by
  simp only [readOperand]

theorem readOperand_reads : Reads readOperand ExpressionPhrase := by
  have hphrase : ∃ more value, ExpressionPhrase more value := ⟨_, _, .sample⟩
  have hrefuse (fault : ParseFault) (hfault : fault.InPhrase) {t : Token} (ts : List Token)
      (hread : ∀ more, readOperand (t :: more) = .failed fault (t :: more)) :
      ReadsTo readOperand ExpressionPhrase (t :: ts) (readOperand (t :: ts)) := by
    rw [hread]
    refine .refuse hfault hphrase fun more hmore => ?_
    obtain ⟨us, rfl⟩ := List.head?_eq_some_iff.1 hmore
    exact hread us
  intro ts
  cases ts with
  | nil =>
    refine .refuse ⟨nofun, nofun⟩ hphrase fun more hmore => ?_
    rw [List.head?_eq_none_iff.1 hmore]
    rfl
  | cons t ts =>
    by_cases hnumber : t.kind = .number
    · cases hvalue : Decimal.Double.ofNat? (Decimal.ofDigits t.text.toList) with
      | none =>
        refine hrefuse .numberOutOfRange ⟨nofun, nofun⟩ ts fun more => ?_
        simp [readOperand, hnumber, hvalue]
      | some value =>
        have hread (more : List Token) :
            readOperand (t :: more) = .done (.number value t.pos) more := by
          simp [readOperand, hnumber, hvalue]
        rw [hread]
        exact .take (.number hnumber hvalue) hread
    by_cases hstring : t.kind = .string
    · have hread (more : List Token) :
          readOperand (t :: more) = .done (.string t.text t.pos) more := by
        simp [readOperand, hstring]
      rw [hread]
      exact .take (.string hstring) hread
    exact hrefuse .expectedExpression ⟨nofun, nofun⟩ ts (readOperand_of_kind_ne hnumber hstring)

/-! ### One equation for each way in which an expression goes on -/

section

variable (targets : List Identifier)

theorem readExpressionFrom_operand {ts : List Token} (h : ∀ t ∈ ts.head?, t.kind ≠ .identifier) :
    readExpressionFrom targets ts = (readOperand ts).map (assignAll targets) := by
  cases ts with
  | nil => simp [readExpressionFrom, readOperand, Outcome.map, Outcome.andThen]
  | cons t ts =>
    have ht := h t rfl
    cases ts <;> simp [readExpressionFrom, ht]

theorem readExpressionFrom_target {t mark : Token} (ht : t.kind = .identifier)
    (hmark : mark.kind = .equals) (ts : List Token) :
    readExpressionFrom targets ([t, mark] ++ ts) =
      readExpressionFrom (t.identifier :: targets) ts := by
  simp [readExpressionFrom, ht, hmark]

theorem readExpressionFrom_name {t : Token} (ht : t.kind = .identifier) {ts : List Token}
    (hts : ∀ mark ∈ ts.head?, mark.kind ≠ .equals) :
    readExpressionFrom targets (t :: ts) =
      .done (assignAll targets (.identifier t.identifier)) ts := by
  cases ts with
  | nil => simp [readExpressionFrom, ht]
  | cons mark ts => simp [readExpressionFrom, ht, hts mark rfl]

end

/-- What the targets in front make of an expression is its tree with all of them. -/
theorem readExpressionFrom_reads (targets : List Identifier) :
    Reads (readExpressionFrom targets) fun ts whole =>
      ∃ e, ExpressionPhrase ts e ∧ whole = assignAll targets e := by
  intro ts
  induction hn : ts.length using Nat.strongRecOn generalizing ts targets with
  | _ n ih =>
    obtain ⟨t, us, rfl, ht⟩ | hts := head_cases (·.kind = .identifier) ts
    · obtain ⟨mark, vs, rfl, hmark⟩ | hus := head_cases (·.kind = .equals) us
      · -- a target, and the rest of the expression behind it
        have hlt : vs.length < n := by
          rw [← hn, List.length_cons, List.length_cons]
          omega
        refine ReadsTo.behind (readExpressionFrom_target targets ht hmark)
          ((ih vs.length hlt (t.identifier :: targets) vs rfl).imp ?_)
        rintro ws _ ⟨e, he, rfl⟩
        exact ⟨_, .assign ht hmark he, rfl⟩
      · -- a name that stands alone
        rw [readExpressionFrom_name targets ht hus]
        refine ⟨[t], rfl, ⟨_, .identifier ht, rfl⟩, ?_⟩
        intro more hmore
        have hmore : more.head? = us.head? := hmore
        rw [List.singleton_append, readExpressionFrom_name targets ht (by rw [hmore]; exact hus)]
        rfl
    · have hoperand : Reads (fun us => (readOperand us).map (assignAll targets)) fun us whole =>
          ∃ e, ExpressionPhrase us e ∧ whole = assignAll targets e :=
        readOperand_reads.map fun us e he => ⟨e, he, rfl⟩
      refine ReadsTo.congr (fun us hus => ?_) (hoperand ts)
      exact readExpressionFrom_operand targets (by rw [hus]; exact hts)

theorem readExpression_reads : Reads readExpression ExpressionPhrase :=
  fun ts => (readExpressionFrom_reads [] ts).imp fun _ _ ⟨_, he, hwhole⟩ => hwhole ▸ he

/-! ## Statements -/

theorem readTypeName_of_kind_ne {ts : List Token} (h : ∀ t ∈ ts.head?, t.kind ≠ .colon) :
    readTypeName ts = .done none ts := by
  cases ts with
  | nil => rfl
  | cons t ts => rw [readTypeName, if_neg (h t rfl)]

theorem readTypeName_colon {colon : Token} (hcolon : colon.kind = .colon) (ts : List Token) :
    readTypeName ([colon] ++ ts) = (readIdentifier ts).map some := by
  rw [List.singleton_append, readTypeName, if_pos hcolon]

theorem readTypeName_reads : Reads readTypeName TypeNamePhrase := by
  intro ts
  obtain ⟨colon, us, rfl, hcolon⟩ | hts := head_cases (·.kind = .colon) ts
  · have hname : Reads (fun vs => (readIdentifier vs).map some)
        fun vs typeName => TypeNamePhrase ([colon] ++ vs) typeName := by
      refine readIdentifier_reads.map ?_
      rintro _ _ ⟨t, rfl, ht, rfl⟩
      exact .some hcolon ht
    exact ReadsTo.behind (readTypeName_colon hcolon) (hname us)
  · rw [readTypeName_of_kind_ne hts]
    refine ⟨[], rfl, .none, ?_⟩
    intro more hmore
    have hmore : more.head? = ts.head? := hmore
    rw [List.nil_append, readTypeName_of_kind_ne (by rw [hmore]; exact hts)]
    rfl

section

variable {word : Token}

theorem readVariable_reads (hword : word.kind = .keyword .var) :
    Reads (readVariable word.pos) fun ts s => StatementPhrase (word :: ts) s := by
  have hmark : (Token.sample .equals).kind = .equals := rfl
  -- wherever reading stops, samples of the missing tokens complete the statement
  refine readIdentifier_reads.andThen ?_ ?_
  · rintro _ _ ⟨name, rfl, hname, rfl⟩
    refine readTypeName_reads.andThen ?_ ?_
    · intro us typeName htype
      refine (readMark_reads .equals).andThen ?_ ?_
      · rintro _ mark ⟨rfl, hmark⟩
        refine readExpression_reads.map fun vs init hinit => ?_
        have := StatementPhrase.variable hword hname htype hmark hinit
        simpa using this
      · rintro _ mark ⟨rfl, hmark⟩
        have := StatementPhrase.variable hword hname htype hmark .sample
        exact ⟨[Token.sample .identifier], _, by simpa using this⟩
    · intro us typeName htype
      have := StatementPhrase.variable hword hname htype hmark .sample
      exact ⟨[Token.sample .equals, Token.sample .identifier], _, by simpa using this⟩
  · rintro _ _ ⟨name, rfl, hname, rfl⟩
    exact ⟨[Token.sample .equals, Token.sample .identifier], _,
      StatementPhrase.variable hword hname .none hmark .sample⟩

theorem readTypeAlias_reads (hword : word.kind = .keyword .type) :
    Reads (readTypeAlias word.pos) fun ts s => StatementPhrase (word :: ts) s := by
  refine readIdentifier_reads.andThen ?_ ?_
  · rintro _ _ ⟨name, rfl, hname, rfl⟩
    refine (readMark_reads .equals).andThen ?_ ?_
    · rintro _ mark ⟨rfl, hmark⟩
      refine readIdentifier_reads.map ?_
      rintro _ _ ⟨target, rfl, htarget, rfl⟩
      exact .typeAlias hword hname hmark htarget
    · rintro _ mark ⟨rfl, hmark⟩
      exact ⟨[Token.sample .identifier], _, .typeAlias hword hname hmark rfl⟩
  · rintro _ _ ⟨name, rfl, hname, rfl⟩
    exact ⟨[Token.sample .equals, Token.sample .identifier], _,
      .typeAlias hword hname rfl rfl⟩

end

/-- Reads a statement from a text that may be empty. -/
def readPhrase : List Token → Outcome Stmt
  | [] => .failed .expectedExpression []
  | t :: ts => readStatement t ts

theorem readPhrase_expression {ts : List Token}
    (h : ∀ t ∈ ts.head?, t.kind ≠ .keyword .var ∧ t.kind ≠ .keyword .type) :
    readPhrase ts = (readExpression ts).map .ofExpr := by
  cases ts with
  | nil => rfl
  | cons t ts =>
    obtain ⟨hvar, htype⟩ := h t rfl
    simp only [readPhrase, readStatement]

theorem readPhrase_variable {word : Token} (hword : word.kind = .keyword .var) (ts : List Token) :
    readPhrase ([word] ++ ts) = readVariable word.pos ts := by
  simp only [List.singleton_append, readPhrase, readStatement, hword]

theorem readPhrase_typeAlias {word : Token} (hword : word.kind = .keyword .type)
    (ts : List Token) : readPhrase ([word] ++ ts) = readTypeAlias word.pos ts := by
  simp only [List.singleton_append, readPhrase, readStatement, hword]

/-- **Statements are read by the grammar, with one token to look ahead.** -/
theorem readPhrase_reads : Reads readPhrase StatementPhrase := by
  intro ts
  obtain ⟨word, us, rfl, hword | hword⟩ | hts :=
    head_cases (fun t => t.kind = .keyword .var ∨ t.kind = .keyword .type) ts
  · exact ReadsTo.behind (readPhrase_variable hword) (readVariable_reads hword us)
  · exact ReadsTo.behind (readPhrase_typeAlias hword) (readTypeAlias_reads hword us)
  · have hexpr : Reads (fun us => (readExpression us).map .ofExpr) StatementPhrase :=
      readExpression_reads.map fun us e he => .expression he
    refine ReadsTo.congr (fun us hus => ?_) (hexpr ts)
    refine readPhrase_expression fun t ht => not_or.1 (hts t ?_)
    rw [← hus]
    exact ht

/-! ## Every phrase is read -/

/-- An expression that the next token does not continue is read to its tree. -/
theorem readExpressionFrom_of_phrase {ts rest : List Token} {e : Expr} (h : ExpressionPhrase ts e)
    (hrest : ∀ t ∈ rest.head?, ∀ more e', ¬ ExpressionPhrase (ts ++ t :: more) e')
    (targets : List Identifier) :
    readExpressionFrom targets (ts ++ rest) = .done (assignAll targets e) rest := by
  induction h generalizing targets with
  | @identifier t ht =>
    refine readExpressionFrom_name targets ht fun mark hmark hk => ?_
    exact hrest mark hmark _ _ (.assign ht hk .sample)
  | @number t value ht hvalue =>
    have hne : ∀ u ∈ ([t] ++ rest).head?, u.kind ≠ .identifier := by simp [ht]
    rw [readExpressionFrom_operand targets hne]
    simp [readOperand, ht, hvalue, Outcome.map, Outcome.andThen]
  | @string t ht =>
    have hne : ∀ u ∈ ([t] ++ rest).head?, u.kind ≠ .identifier := by simp [ht]
    rw [readExpressionFrom_operand targets hne]
    simp [readOperand, ht, Outcome.map, Outcome.andThen]
  | @assign t mark ts e ht hmark _ ih =>
    have hmore : ∀ u ∈ rest.head?, ∀ more e', ¬ ExpressionPhrase (ts ++ u :: more) e' :=
      fun u hu more e' he => hrest u hu more _ (.assign ht hmark he)
    have hread := ih hmore (t.identifier :: targets)
    rw [← readExpressionFrom_target targets ht hmark] at hread
    exact hread

section

variable {t : Token} (ts : List Token)

theorem readToken_of_kind {kind : TokenKind} (ht : t.kind = kind) (fault : ParseFault) :
    readToken kind fault (t :: ts) = .done t ts := by
  rw [readToken, if_pos ht]

theorem readIdentifier_of_kind (ht : t.kind = .identifier) :
    readIdentifier (t :: ts) = .done t.identifier ts := by
  rw [readIdentifier, readToken_of_kind ts ht]
  rfl

end

theorem readTypeName_of_phrase {ts rest : List Token} {typeName : Option Identifier}
    (h : TypeNamePhrase ts typeName) (hrest : ∀ t ∈ rest.head?, t.kind ≠ .colon) :
    readTypeName (ts ++ rest) = .done typeName rest := by
  cases h with
  | none => exact readTypeName_of_kind_ne hrest
  | @some colon t hcolon ht =>
    have hcons : [colon, t] ++ rest = [colon] ++ (t :: rest) := rfl
    rw [hcons, readTypeName_colon hcolon, readIdentifier_of_kind rest ht]
    rfl

/-- **A statement that the next token does not continue is read to its tree.** -/
theorem readPhrase_of_phrase {ts rest : List Token} {s : Stmt} (h : StatementPhrase ts s)
    (hrest : ∀ t ∈ rest.head?, ∀ more s', ¬ StatementPhrase (ts ++ t :: more) s') :
    readPhrase (ts ++ rest) = .done s rest := by
  cases h with
  | @«variable» word name mark ts us typeName init hword hname htype hmark hinit =>
    have hmore : ∀ u ∈ rest.head?, ∀ more e, ¬ ExpressionPhrase (us ++ u :: more) e := by
      intro u hu more e he
      have := StatementPhrase.variable hword hname htype hmark he
      exact hrest u hu more _ (by simpa using this)
    have hexpr := readExpressionFrom_of_phrase hinit hmore []
    have hts : word :: name :: (ts ++ mark :: us) ++ rest =
        [word] ++ (name :: (ts ++ (mark :: (us ++ rest)))) := by simp
    rw [hts, readPhrase_variable hword, readVariable, readIdentifier_of_kind _ hname]
    simp only [Outcome.andThen]
    rw [readTypeName_of_phrase htype (by simp [hmark])]
    simp only [readMark, readToken_of_kind _ hmark]
    rw [readExpression, hexpr]
    rfl
  | @typeAlias word name mark target hword hname hmark htarget =>
    have hts : [word, name, mark, target] ++ rest = [word] ++ (name :: mark :: target :: rest) :=
      rfl
    rw [hts, readPhrase_typeAlias hword, readTypeAlias, readIdentifier_of_kind _ hname]
    simp only [Outcome.andThen, readMark, readToken_of_kind _ hmark]
    rw [readIdentifier_of_kind _ htarget]
    rfl
  | expression he =>
    have hmore : ∀ u ∈ rest.head?, ∀ more e, ¬ ExpressionPhrase (ts ++ u :: more) e :=
      fun u hu more e he => hrest u hu more _ (.expression he)
    have hexpr := readExpressionFrom_of_phrase he hmore []
    -- an expression starts with no word
    have hhead : ∀ t ∈ (ts ++ rest).head?, t.kind ≠ .keyword .var ∧ t.kind ≠ .keyword .type := by
      cases he <;> simp_all
    rw [readPhrase_expression hhead, readExpression, hexpr]
    rfl

/-- A statement that stands alone is read to its tree. -/
theorem readPhrase_alone {ts : List Token} {s : Stmt} (h : StatementPhrase ts s) :
    readPhrase ts = .done s [] := by
  have := @readPhrase_of_phrase ts [] s h (by simp)
  simpa using this

/-- A statement in front of a token that is in no statement is read to its tree. -/
theorem readPhrase_before {ts : List Token} {s : Stmt} {u : Token} (h : StatementPhrase ts s)
    (hu : ¬ u.kind.InPhrase) (us : List Token) :
    readPhrase (ts ++ u :: us) = .done s (u :: us) := by
  refine readPhrase_of_phrase h ?_
  intro t ht more s' hs'
  obtain rfl : u = t := by simpa using ht
  exact hu (hs'.inPhrase u (by simp))

/-- Tokens have no more than one tree. -/
theorem StatementPhrase.unique {ts : List Token} {s s' : Stmt} (h : StatementPhrase ts s)
    (h' : StatementPhrase ts s') : s = s' := by
  have hread := readPhrase_alone h
  rw [readPhrase_alone h'] at hread
  injection hread with hs
  exact hs.symm

end ScriptCheck
