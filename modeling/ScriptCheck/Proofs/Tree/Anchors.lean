import ScriptCheck.Compilation
import ScriptCheck.Proofs.Token.Place
import ScriptCheck.Proofs.Token.Tokenization
import ScriptCheck.Proofs.Tree.Reading

/-!
# Where the parts of a tree stand

The tree of a script is walked from the outside to the inside and from the front to the end. Every
part of it stands at the first of its own tokens, and the walk runs along the tokens: it never goes
back, and a part without parts takes a token that no other one takes.

* `Node`, `Module.nodes` — the parts of a tree in the order of the walk
* `Node.AnchoredAt` — which token a part stands at
* `Along` — a walk along a row of tokens; `Along.pairwise_pos` — it never goes back
* `readStatements_along` — whatever is wrong with a script, its tree is read along its tokens
* `nodes_parse_anchored` — the parts of the tree of a script
-/

namespace ScriptCheck

open Text

/-! ## The walk -/

/-- A part of a tree: a statement, a name that a statement or an assignment starts with or that is
the name of a type, or an expression. -/
inductive Node where
  | statement (s : Stmt)
  | name (n : Identifier)
  | expression (e : Expr)
  deriving DecidableEq, Repr

namespace Node

/-- Where the part stands. -/
def pos : Node → Nat
  | .statement s => s.pos
  | .name n => n.pos
  | .expression e => e.pos

/-- Whether the part has no parts. -/
def isLeaf : Node → Bool
  | .statement _ => false
  | .name _ => true
  | .expression (.assign ..) => false
  | .expression _ => true

/-- The name that the part is, if it is one. -/
def name? : Node → Option Identifier
  | .name n => some n
  | .expression (.identifier n) => some n
  | _ => none

end Node

/-- The parts of an expression, from the outside to the inside. -/
def Expr.nodes : Expr → List Node
  | .assign target value pos =>
    .expression (.assign target value pos) :: .name target :: value.nodes
  | e => [.expression e]

/-- The parts of a statement: the statement, its name, the name of its type, its expression. -/
def Stmt.nodes : Stmt → List Node
  | .expression e pos => .statement (.expression e pos) :: e.nodes
  | .variable v =>
    .statement (.variable v) :: .name v.name ::
      ((v.typeName.map Node.name).toList ++ v.init.nodes)
  | .typeAlias a => [.statement (.typeAlias a), .name a.name, .name a.target]

/-- The parts of a module, statement by statement. -/
def Module.nodes (m : Module) : List Node := m.statements.toList.flatMap Stmt.nodes

/-- Whether a part stands at a token. The token is of the kind with which such a part starts, and if
the part is that token alone, it is what the token says. -/
inductive Node.AnchoredAt : Node → Token → Prop
  | variable {v : Variable} {t : Token} (ht : t.kind = .keyword .var) (hpos : v.pos = t.pos) :
      AnchoredAt (.statement (.variable v)) t
  | typeAlias {a : TypeAlias} {t : Token} (ht : t.kind = .keyword .type) (hpos : a.pos = t.pos) :
      AnchoredAt (.statement (.typeAlias a)) t
  /-- A statement that is an expression stands where the expression does. -/
  | statement {e : Expr} {pos : Nat} {t : Token} (he : AnchoredAt (.expression e) t)
      (hpos : pos = t.pos) : AnchoredAt (.statement (.expression e pos)) t
  /-- An assignment stands where its target does. -/
  | assign {target : Identifier} {value : Expr} {pos : Nat} {t : Token}
      (htarget : AnchoredAt (.name target) t) (hpos : pos = t.pos) :
      AnchoredAt (.expression (.assign target value pos)) t
  | name {t : Token} (ht : t.kind = .identifier) : AnchoredAt (.name t.identifier) t
  | identifier {t : Token} (ht : t.kind = .identifier) :
      AnchoredAt (.expression (.identifier t.identifier)) t
  | number {t : Token} {value : Nat} (ht : t.kind = .number)
      (hvalue : Decimal.Double.ofNat? (Decimal.ofDigits t.text.toList) = some value) :
      AnchoredAt (.expression (.number value t.pos)) t
  | string {t : Token} (ht : t.kind = .string) : AnchoredAt (.expression (.string t.text t.pos)) t

namespace Node.AnchoredAt

variable {n : Node} {t : Token} {name : Identifier}

theorem pos_eq (h : n.AnchoredAt t) : n.pos = t.pos := by
  cases h with
  | «variable» _ hpos | typeAlias _ hpos | statement _ hpos | assign _ hpos => exact hpos
  | _ => rfl

/-- A name stands at an identifier with its text. -/
theorem of_name? (h : n.AnchoredAt t) (hname : n.name? = some name) :
    t.kind = .identifier ∧ t.identifier = name := by
  cases h with
  | name ht | identifier ht => exact ⟨ht, Option.some.inj hname⟩
  | _ => cases hname

end Node.AnchoredAt

/-! ## Walks along tokens -/

/-- A walk along a row of tokens. Where a part with parts is met, its token is not left behind. -/
inductive Along : List Token → List Node → Prop
  | nil : Along [] []
  /-- No part stands at the next token. -/
  | pass {t : Token} {ts : List Token} {ns : List Node} (h : Along ts ns) : Along (t :: ts) ns
  /-- A part takes the next token. -/
  | take {n : Node} {t : Token} {ts : List Token} {ns : List Node} (hn : n.AnchoredAt t)
      (h : Along ts ns) : Along (t :: ts) (n :: ns)
  /-- A part with parts stands at the next token, and so may the first one of its parts. -/
  | stay {n : Node} {t : Token} {ts : List Token} {ns : List Node} (hn : n.AnchoredAt t)
      (hleaf : n.isLeaf = false) (h : Along (t :: ts) ns) : Along (t :: ts) (n :: ns)

namespace Along

variable {ts us : List Token} {ns ms : List Node}

theorem none (ts : List Token) : Along ts [] := by
  induction ts with
  | nil => exact .nil
  | cons t ts ih => exact .pass ih

theorem append (h : Along ts ns) (h' : Along us ms) : Along (ts ++ us) (ns ++ ms) := by
  induction h with
  | nil => exact h'
  | pass _ ih => exact .pass ih
  | take hn _ ih => exact .take hn ih
  | stay hn hleaf _ ih => exact .stay hn hleaf ih

/-- More tokens to walk along do no harm. -/
theorem of_sublist (h : Along ts ns) (hts : ts.Sublist us) : Along us ns := by
  induction hts generalizing ns with
  | slnil => exact h
  | cons u _ ih => exact .pass (ih h)
  | @cons_cons ts us u _ ih =>
    -- the first token stays the next one as long as parts with parts stand at it
    generalize hvs : u :: ts = vs at h
    induction h with
    | nil => contradiction
    | pass h _ =>
      obtain ⟨rfl, rfl⟩ := List.cons.inj hvs
      exact .pass (ih h)
    | take hn h _ =>
      obtain ⟨rfl, rfl⟩ := List.cons.inj hvs
      exact .take hn (ih h)
    | stay hn hleaf _ hrest =>
      obtain ⟨rfl, rfl⟩ := List.cons.inj hvs
      exact .stay hn hleaf (hrest rfl)

/-- Every part stands at one of the tokens. -/
theorem exists_anchor (h : Along ts ns) : ∀ n ∈ ns, ∃ t ∈ ts, n.AnchoredAt t := by
  induction h with
  | nil => simp
  | pass _ ih =>
    intro n hn
    obtain ⟨t, ht, hanchor⟩ := ih n hn
    exact ⟨t, List.mem_cons_of_mem _ ht, hanchor⟩
  | @take n t ts ns hn _ ih =>
    intro m hm
    rcases List.mem_cons.1 hm with rfl | hm
    · exact ⟨t, List.mem_cons_self, hn⟩
    · obtain ⟨u, hu, hanchor⟩ := ih m hm
      exact ⟨u, List.mem_cons_of_mem _ hu, hanchor⟩
  | @stay n t ts ns hn _ _ ih =>
    intro m hm
    rcases List.mem_cons.1 hm with rfl | hm
    · exact ⟨t, List.mem_cons_self, hn⟩
    · exact ih m hm

/-- The parts without parts take tokens of their own, in order. -/
theorem sublistForall₂_leaves (h : Along ts ns) :
    (ns.filter Node.isLeaf).SublistForall₂ Node.AnchoredAt ts := by
  induction h with
  | nil => exact .nil
  | pass _ ih => exact .cons_right ih
  | @take n t ts ns hn _ ih =>
    cases hleaf : n.isLeaf with
    | true =>
      rw [List.filter_cons_of_pos hleaf]
      exact .cons hn ih
    | false =>
      rw [List.filter_cons_of_neg (by simp [hleaf])]
      exact .cons_right ih
  | stay _ hleaf _ ih =>
    rw [List.filter_cons_of_neg (by simp [hleaf])]
    exact ih

/-- **The parts without parts stand in order, each at a place of its own.** -/
theorem pairwise_pos_leaves (h : Along ts ns) (hts : ts.Pairwise (·.pos < ·.pos)) :
    (ns.filter Node.isLeaf).Pairwise (·.pos < ·.pos) := by
  refine pairwise_of_sublistForall₂ h.sublistForall₂_leaves hts fun n m t u hn hm hlt => ?_
  rw [hn.pos_eq, hm.pos_eq]
  exact hlt

end Along

/-! ## Phrases are walked along their tokens -/

/-- The tokens of an expression are walked along with its parts. -/
theorem ExpressionPhrase.along {ts : List Token} {e : Expr} (h : ExpressionPhrase ts e) :
    Along ts e.nodes := by
  induction h with
  | identifier ht => exact .take (.identifier ht) .nil
  | number ht hvalue => exact .take (.number ht hvalue) .nil
  | string ht => exact .take (.string ht) .nil
  | assign ht _ _ ih =>
    -- the assignment and its target stand at the same token
    refine .stay (.assign (.name ht) rfl) rfl (.take (.name ht) ?_)
    exact .pass ih

/-- An expression stands at the first one of its tokens. -/
theorem ExpressionPhrase.anchoredAt {t : Token} {ts : List Token} {e : Expr}
    (h : ExpressionPhrase (t :: ts) e) : (Node.expression e).AnchoredAt t := by
  cases h with
  | identifier ht => exact .identifier ht
  | number ht hvalue => exact .number ht hvalue
  | string ht => exact .string ht
  | assign ht _ _ => exact .assign (.name ht) rfl

theorem TypeNamePhrase.along {ts : List Token} {typeName : Option Identifier}
    (h : TypeNamePhrase ts typeName) : Along ts (typeName.map Node.name).toList := by
  cases h with
  | none => exact .nil
  | some _ ht => exact .pass (.take (.name ht) .nil)

/-- The tokens of a statement are walked along with its parts. -/
theorem StatementPhrase.along {ts : List Token} {s : Stmt} (h : StatementPhrase ts s) :
    Along ts s.nodes := by
  cases h with
  | «variable» hword hname htype _ hinit =>
    refine .take (.variable hword rfl) (.take (.name hname) ?_)
    exact htype.along.append (.pass hinit.along)
  | typeAlias hword hname _ htarget =>
    refine .take (.typeAlias hword rfl) (.take (.name hname) ?_)
    exact .pass (.take (.name htarget) .nil)
  | expression he =>
    -- the statement has no word of its own, so it stays at the first token of its expression
    obtain ⟨t, ts, rfl⟩ := List.exists_cons_of_ne_nil (StatementPhrase.expression he).ne_nil
    exact .stay (.statement he.anchoredAt he.anchoredAt.pos_eq) rfl he.along

/-- A round takes the tokens of its statement, if it has one, and leaves none of them for the next
round. -/
theorem RoundOf.exists_front {inputEnd : Nat} {ts : List Token} {r : Round}
    (h : RoundOf inputEnd ts r) :
    ∃ front back, ts = front ++ back ∧ (∀ s ∈ r.statement?, StatementPhrase front s) ∧
      r.rest.Sublist back := by
  cases h with
  | @last _ s hs =>
    exact ⟨ts, [], (List.append_nil _).symm, fun _ h => Option.some.inj h ▸ hs, .slnil⟩
  | @ended front us s u hs _ =>
    exact ⟨front, u :: us, rfl, fun _ h => Option.some.inj h ▸ hs, List.sublist_cons_self u us⟩
  | @surplus front us s u hs _ _ =>
    refine ⟨front, u :: us, rfl, fun _ h => Option.some.inj h ▸ hs, ?_⟩
    exact (skipStatement_sublist us).cons u
  | @failed front rest _ _ _ _ =>
    exact ⟨front, rest, rfl, nofun, skipStatement_sublist rest⟩

/-- **However a script is read, its tokens are walked along with its parts.** -/
theorem readStatements_along (inputEnd : Nat) (ts : List Token) :
    Along ts ((readStatements inputEnd ts).statements.flatMap Stmt.nodes) := by
  induction ts using rounds_induction inputEnd with
  | nil =>
    rw [readStatements_nil]
    exact .nil
  | newline t ts ht ih =>
    rw [readStatements_newline _ ht]
    exact .pass ih
  | round t ts ht ih =>
    rw [readStatements_round _ ht, Reading.statements_append, List.flatMap_append]
    obtain ⟨front, back, hts, hs, hrest⟩ := (roundOf_readRound inputEnd t ts).exists_front
    have hround : Along front
        ((readRound inputEnd t ts).reading.statements.flatMap Stmt.nodes) := by
      cases hstatement : (readRound inputEnd t ts).statement? with
      | none => simpa [Round.reading, hstatement] using Along.none front
      | some s => simpa [Round.reading, hstatement] using (hs s hstatement).along
    -- the tokens that are skipped behind an error are passed
    rw [hts]
    exact hround.append (ih.of_sublist hrest)

/-! ## Scripts -/

section

variable {source : String} {l : PlacedLexeme} {t : Token} {n : Node} {name : Identifier}

/-- The tokens of a script are walked along with the parts of its tree. -/
theorem along_parse (source : String) : Along (tokens source) (parse source).module.nodes := by
  have halong := readStatements_along source.utf8ByteSize (significantTokens (scan source))
  have hsub : (significantTokens (scan source)).Sublist (tokens source) := List.filter_sublist
  rw [Module.nodes, parse, Numbered.toList_ofList]
  exact halong.of_sublist hsub

/-- The parts without parts stand in order. -/
theorem pairwise_pos_leaves (source : String) :
    ((parse source).module.nodes.filter Node.isLeaf).Pairwise (·.pos < ·.pos) :=
  (along_parse source).pairwise_pos_leaves (pairwise_pos_tokens source)

/-- A name in the tree is an identifier of the script. -/
theorem identifier_of_mem_nodes (hn : n ∈ (parse source).module.nodes)
    (hname : n.name? = some name) :
    ∃ t ∈ tokens source, t.kind = .identifier ∧ t.identifier = name := by
  obtain ⟨t, ht, hanchor⟩ := (along_parse source).exists_anchor n hn
  exact ⟨t, ht, hanchor.of_name? hname⟩

end

end ScriptCheck
