import Mathlib.Data.List.Forall2
import ScriptCheck.Proofs.Tree.Reading

/-!
# Reading the same tokens in other places

What reading makes of tokens does not depend on where they are: if the tokens move, the trees and
the errors move with them. Nor does it depend on how marks and line ends are spelled.

* `Token.Alike` — the same token in another place
* `Outcome.Alike` — the same outcome, made of such tokens
* `readStatements_alike` — alike tokens are read to the same trees and errors, in the other places
-/

namespace ScriptCheck

/-! ## Moving trees -/

section

variable (f : Nat → Nat)

/-- The name in another place. -/
def Identifier.relocate (name : Identifier) : Identifier := { name with pos := f name.pos }

/-- The expression with all its parts in other places. -/
def Expr.relocate : Expr → Expr
  | .identifier name => .identifier (name.relocate f)
  | .number value pos => .number value (f pos)
  | .string value pos => .string value (f pos)
  | .assign target value pos => .assign (target.relocate f) value.relocate (f pos)

/-- The statement with all its parts in other places. -/
def Stmt.relocate : Stmt → Stmt
  | .expression e pos => .expression (e.relocate f) (f pos)
  | .variable v =>
    .variable ⟨v.name.relocate f, v.typeName.map (·.relocate f), v.init.relocate f, f v.pos⟩
  | .typeAlias a => .typeAlias ⟨a.name.relocate f, a.target.relocate f, f a.pos⟩

/-- The error in another place. -/
def ParseError.relocate (e : ParseError) : ParseError := { e with pos := f e.pos }

/-- The reading with everything in it in other places. -/
def Reading.relocate (r : Reading) : Reading :=
  ⟨r.statements.map (·.relocate f), r.errors.map (·.relocate f)⟩

theorem Stmt.relocate_ofExpr (e : Expr) :
    (Stmt.ofExpr e).relocate f = .ofExpr (e.relocate f) := by
  cases e <;> rfl

theorem relocate_assignAll (targets : List Identifier) (e : Expr) :
    (assignAll targets e).relocate f =
      assignAll (targets.map (·.relocate f)) (e.relocate f) := by
  unfold assignAll
  induction targets generalizing e with
  | nil => rfl
  | cons target targets ih => exact ih (.assignTo target e)

theorem Reading.relocate_append (r q : Reading) :
    (r ++ q).relocate f = r.relocate f ++ q.relocate f := by
  show Reading.mk _ _ = Reading.mk _ _
  rw [statements_append, errors_append, List.map_append, List.map_append]
  rfl

end

@[simp] theorem Identifier.relocate_id (name : Identifier) : name.relocate id = name := rfl

@[simp] theorem Expr.relocate_id (e : Expr) : e.relocate id = e := by
  induction e with
  | assign target value pos ih => rw [relocate, Identifier.relocate_id, ih, id]
  | _ => rfl

@[simp] theorem Stmt.relocate_id (s : Stmt) : s.relocate id = s := by
  cases s with
  | «variable» v =>
    obtain ⟨name, typeName, init, pos⟩ := v
    cases typeName <;> simp [relocate]
  | _ => simp [relocate]

/-- What stays where it is stays the same. -/
theorem Reading.relocate_id (r : Reading) : r.relocate id = r := by
  have herror : (fun e : ParseError => e.relocate id) = id := rfl
  rw [relocate, herror, List.map_id]
  simp

/-! ## Alike tokens -/

/-- The kinds of tokens whose text gets into the tree. -/
def TokenKind.KeepsText : TokenKind → Prop
  | .identifier | .number | .string => True
  | _ => False

/-- Whether a token is the same as another one for the reader, in the place to which `f` moves
it. -/
structure Token.Alike (f : Nat → Nat) (t u : Token) : Prop where
  kind : u.kind = t.kind
  pos : u.pos = f t.pos
  text : t.kind.KeepsText → u.text = t.text

/-- Outcomes with related values that leave alike tokens. -/
inductive Outcome.Alike {α β : Type} (f : Nat → Nat) (R : α → β → Prop) :
    Outcome α → Outcome β → Prop
  | done {value : α} {value' : β} {rest rest' : List Token} (hvalue : R value value')
      (hrest : List.Forall₂ (Token.Alike f) rest rest') :
      Alike f R (.done value rest) (.done value' rest')
  | failed {fault : ParseFault} {rest rest' : List Token}
      (hrest : List.Forall₂ (Token.Alike f) rest rest') :
      Alike f R (.failed fault rest) (.failed fault rest')

section

variable {α β : Type} {f : Nat → Nat} {t u : Token} {ts us : List Token}

theorem Outcome.Alike.imp {R S : α → β → Prop} {o : Outcome α} {o' : Outcome β}
    (h : o.Alike f R o') (himp : ∀ value value', R value value' → S value value') :
    o.Alike f S o' := by
  cases h with
  | done hvalue hrest => exact .done (himp _ _ hvalue) hrest
  | failed hrest => exact .failed hrest

theorem Outcome.Alike.andThen {γ δ : Type} {R : α → β → Prop} {S : γ → δ → Prop} {o : Outcome α}
    {o' : Outcome β} {next : α → List Token → Outcome γ} {next' : β → List Token → Outcome δ}
    (h : o.Alike f R o')
    (hnext : ∀ value value', R value value' → ∀ rest rest',
      List.Forall₂ (Token.Alike f) rest rest' → (next value rest).Alike f S (next' value' rest')) :
    (o.andThen next).Alike f S (o'.andThen next') := by
  cases h with
  | done hvalue hrest => exact hnext _ _ hvalue _ _ hrest
  | failed hrest => exact .failed hrest

theorem Outcome.Alike.map {γ δ : Type} {R : α → β → Prop} {S : γ → δ → Prop} {o : Outcome α}
    {o' : Outcome β} {g : α → γ} {g' : β → δ} (h : o.Alike f R o')
    (hg : ∀ value value', R value value' → S (g value) (g' value')) :
    (o.map g).Alike f S (o'.map g') :=
  h.andThen fun value value' hvalue _ _ hrest => .done (hg value value' hvalue) hrest

/-! ## Reading alike tokens -/

theorem readToken_alike (h : List.Forall₂ (Token.Alike f) ts us) (kind : TokenKind)
    (fault : ParseFault) :
    (readToken kind fault ts).Alike f (fun t u => t.Alike f u ∧ t.kind = kind)
      (readToken kind fault us) := by
  cases h with
  | nil => exact .failed .nil
  | @cons t u ts us ht hts =>
    rw [readToken, readToken, ht.kind]
    split
    · next hkind => exact .done ⟨ht, hkind⟩ hts
    · exact .failed (.cons ht hts)

theorem Token.Alike.identifier (h : t.Alike f u) (ht : t.kind = .identifier) :
    u.identifier = t.identifier.relocate f := by
  have htext : u.text = t.text := h.text (by rw [ht]; trivial)
  rw [Token.identifier, h.pos, htext]
  rfl

theorem readIdentifier_alike (h : List.Forall₂ (Token.Alike f) ts us) :
    (readIdentifier ts).Alike f (fun name name' => name' = name.relocate f) (readIdentifier us) :=
  (readToken_alike h .identifier _).map fun _ _ ⟨ht, hkind⟩ => ht.identifier hkind

theorem readMark_alike (h : List.Forall₂ (Token.Alike f) ts us) (kind : TokenKind) :
    (readMark kind ts).Alike f (fun _ _ => True) (readMark kind us) :=
  (readToken_alike h kind (.expectedToken kind)).imp fun _ _ _ => trivial

theorem readOperand_alike (h : List.Forall₂ (Token.Alike f) ts us) :
    (readOperand ts).Alike f (fun e e' => e' = e.relocate f) (readOperand us) := by
  cases h with
  | nil => exact .failed .nil
  | @cons t u ts us ht hts =>
    have hfailed (fault : ParseFault) : (Outcome.failed fault (t :: ts)).Alike f
        (fun (e e' : Expr) => e' = e.relocate f) (.failed fault (u :: us)) := .failed (.cons ht hts)
    by_cases hnumber : t.kind = .number
    · have htext : u.text = t.text := ht.text (by rw [hnumber]; trivial)
      simp only [readOperand, ht.kind, hnumber, htext, ht.pos]
      split
      · exact .done rfl hts
      · exact hfailed _
    · by_cases hstring : t.kind = .string
      · have htext : u.text = t.text := ht.text (by rw [hstring]; trivial)
        simp only [readOperand, ht.kind, hstring, htext, ht.pos]
        exact .done rfl hts
      · rw [readOperand_of_kind_ne hnumber hstring,
          readOperand_of_kind_ne (ht.kind ▸ hnumber) (ht.kind ▸ hstring)]
        exact hfailed _

theorem readExpressionFrom_alike (targets : List Identifier)
    (h : List.Forall₂ (Token.Alike f) ts us) :
    (readExpressionFrom targets ts).Alike f (fun e e' => e' = e.relocate f)
      (readExpressionFrom (targets.map (·.relocate f)) us) := by
  fun_induction readExpressionFrom targets ts generalizing us with
  | case1 =>
    cases h
    exact .failed .nil
  | case2 targets t ht =>
    obtain ⟨u, _, hu, hus, rfl⟩ := List.forall₂_cons_left_iff.1 h
    cases hus
    rw [readExpressionFrom, if_pos (hu.kind.trans ht), hu.identifier ht]
    exact .done (relocate_assignAll f targets (.identifier t.identifier)).symm .nil
  | case3 targets t ht mark more hmark ih =>
    obtain ⟨u, _, hu, hus, rfl⟩ := List.forall₂_cons_left_iff.1 h
    obtain ⟨mark', more', hmark', hmore, rfl⟩ := List.forall₂_cons_left_iff.1 hus
    simp only [readExpressionFrom, if_pos (hu.kind.trans ht), if_pos (hmark'.kind.trans hmark)]
    rw [hu.identifier ht]
    exact ih hmore
  | case4 targets t ht mark more hmark =>
    -- the name stands alone, and the token behind it is left
    obtain ⟨u, _, hu, hus, rfl⟩ := List.forall₂_cons_left_iff.1 h
    obtain ⟨mark', more', hmark', hmore, rfl⟩ := List.forall₂_cons_left_iff.1 hus
    simp only [readExpressionFrom, if_pos (hu.kind.trans ht), hmark'.kind, if_neg hmark]
    rw [hu.identifier ht]
    exact .done (relocate_assignAll f targets (.identifier t.identifier)).symm hus
  | case5 targets t ts ht =>
    have hoperand := readOperand_alike h
    obtain ⟨u, us, hu, hus, rfl⟩ := List.forall₂_cons_left_iff.1 h
    have hne : ∀ v ∈ (u :: us).head?, v.kind ≠ .identifier := by
      intro v hv
      obtain rfl : u = v := by simpa using hv
      rw [hu.kind]
      exact ht
    rw [readExpressionFrom_operand _ hne]
    refine hoperand.map ?_
    rintro e _ rfl
    exact (relocate_assignAll f targets e).symm

theorem readExpression_alike (h : List.Forall₂ (Token.Alike f) ts us) :
    (readExpression ts).Alike f (fun e e' => e' = e.relocate f) (readExpression us) :=
  readExpressionFrom_alike [] h

theorem readTypeName_alike (h : List.Forall₂ (Token.Alike f) ts us) :
    (readTypeName ts).Alike f (fun name name' => name' = name.map (·.relocate f))
      (readTypeName us) := by
  cases h with
  | nil => exact .done rfl .nil
  | @cons t u ts us ht hts =>
    rw [readTypeName, readTypeName, ht.kind]
    split
    · refine (readIdentifier_alike hts).map ?_
      rintro name _ rfl
      rfl
    · exact .done rfl (.cons ht hts)

theorem readVariable_alike (h : List.Forall₂ (Token.Alike f) ts us) (pos : Nat) :
    (readVariable pos ts).Alike f (fun s s' => s' = s.relocate f) (readVariable (f pos) us) := by
  refine (readIdentifier_alike h).andThen ?_
  rintro name _ rfl ts₁ us₁ h₁
  refine (readTypeName_alike h₁).andThen ?_
  rintro typeName _ rfl ts₂ us₂ h₂
  refine (readMark_alike h₂ .equals).andThen ?_
  intro _ _ _ ts₃ us₃ h₃
  refine (readExpression_alike h₃).map ?_
  rintro init _ rfl
  rfl

theorem readTypeAlias_alike (h : List.Forall₂ (Token.Alike f) ts us) (pos : Nat) :
    (readTypeAlias pos ts).Alike f (fun s s' => s' = s.relocate f) (readTypeAlias (f pos) us) := by
  refine (readIdentifier_alike h).andThen ?_
  rintro name _ rfl ts₁ us₁ h₁
  refine (readMark_alike h₁ .equals).andThen ?_
  intro _ _ _ ts₂ us₂ h₂
  refine (readIdentifier_alike h₂).map ?_
  rintro target _ rfl
  rfl

theorem readStatement_alike (ht : t.Alike f u) (hts : List.Forall₂ (Token.Alike f) ts us) :
    (readStatement t ts).Alike f (fun s s' => s' = s.relocate f) (readStatement u us) := by
  rw [readStatement, readStatement, ht.kind, ht.pos]
  split
  · exact readVariable_alike hts t.pos
  · exact readTypeAlias_alike hts t.pos
  · refine (readExpression_alike (.cons ht hts)).map ?_
    rintro e _ rfl
    exact (Stmt.relocate_ofExpr f e).symm

theorem skipStatement_alike (h : List.Forall₂ (Token.Alike f) ts us) :
    List.Forall₂ (Token.Alike f) (skipStatement ts) (skipStatement us) := by
  induction h with
  | nil => exact .nil
  | cons ht hts ih =>
    rw [skipStatement, skipStatement, ht.kind]
    split
    · exact hts
    · exact ih

/-! ## Whole texts -/

theorem locate_alike (h : List.Forall₂ (Token.Alike f) ts us) (fault : ParseFault)
    (inputEnd : Nat) :
    fault.locate (f inputEnd) us = (fault.locate inputEnd ts).relocate f := by
  cases h with
  | nil => rfl
  | cons ht _ => rw [ParseFault.locate, ht.pos]; rfl

/-- A round over alike tokens gives the same in the other places, and leaves alike tokens. -/
theorem readRound_alike (ht : t.Alike f u) (hts : List.Forall₂ (Token.Alike f) ts us)
    (inputEnd : Nat) :
    (readRound (f inputEnd) u us).reading = (readRound inputEnd t ts).reading.relocate f ∧
      List.Forall₂ (Token.Alike f) (readRound inputEnd t ts).rest
        (readRound (f inputEnd) u us).rest := by
  have hread := readStatement_alike ht hts
  unfold readRound
  generalize readStatement t ts = o at hread
  generalize readStatement u us = o' at hread
  cases hread with
  | failed hrest =>
    refine ⟨?_, skipStatement_alike hrest⟩
    simp only [Round.reading, locate_alike hrest]
    rfl
  | done hvalue hrest =>
    subst hvalue
    cases hrest with
    | nil => exact ⟨rfl, .nil⟩
    | cons hu hus =>
      simp only [hu.kind, hu.pos]
      split
      · exact ⟨rfl, hus⟩
      · exact ⟨rfl, skipStatement_alike hus⟩

/-- **Alike tokens are read to the same statements and errors, in the other places.** -/
theorem readStatements_alike (h : List.Forall₂ (Token.Alike f) ts us) (inputEnd : Nat) :
    readStatements (f inputEnd) us = (readStatements inputEnd ts).relocate f := by
  induction ts using rounds_induction inputEnd generalizing us with
  | nil =>
    cases h
    rw [readStatements_nil, readStatements_nil]
    rfl
  | newline t ts hkind ih =>
    obtain ⟨u, us, hu, hus, rfl⟩ := List.forall₂_cons_left_iff.1 h
    rw [readStatements_newline _ hkind, readStatements_newline _ (hu.kind.trans hkind)]
    exact ih hus
  | round t ts hkind ih =>
    obtain ⟨u, us, hu, hus, rfl⟩ := List.forall₂_cons_left_iff.1 h
    have hkind' : u.kind ≠ .newline := by
      rw [hu.kind]
      exact hkind
    obtain ⟨hround, hrest⟩ := readRound_alike hu hus inputEnd
    rw [readStatements_round _ hkind, readStatements_round _ hkind', hround, ih hrest,
      Reading.relocate_append]

end

end ScriptCheck
