import Mathlib.Data.List.Find
import ScriptCheck.Proofs.Binding.Scope

/-!
# Binding by looking declarations up

A symbol knows the statements that declare its name, so the clashes can also be found with nothing
but the table at hand: whatever else is needed of an earlier declaration is looked up in its
statement. The statement is always there, so it does not matter what would stand in for the place of
a declaration that is not found.

* `Ledger` — the table so far and the clashes so far
* `Symbol.clash?` — the statement with which one more declaration of the name clashes
* `bindByLookup_eq` — looking declarations up gives what binding gives
-/

namespace ScriptCheck

/-! ## Symbols -/

namespace Symbol

/-- The symbol of a name that is declared for the first time. -/
def first (kind : DeclarationKind) (id : StmtId) : Symbol where
  valueDeclaration := if kind = .variable then some id else none
  declarations := [id]

/-- The symbol of a name that is declared once more. -/
def again (s : Symbol) (kind : DeclarationKind) (id : StmtId) : Symbol where
  valueDeclaration :=
    match kind with
    | .variable => s.valueDeclaration <|> some id
    | .typeAlias => s.valueDeclaration
  declarations := s.declarations ++ [id]

/-- How one more declaration of the name clashes, and with which statement. The first type name is
searched among the statements; the first variable is known. -/
def clash? (s : Symbol) (kindOf? : StmtId → Option DeclarationKind) :
    DeclarationKind → Option (Clash × StmtId)
  | .variable =>
    match s.valueDeclaration with
    | some first => some (.duplicate, first)
    | none => s.declarations.head?.map (.conflicting, ·)
  | .typeAlias =>
    match s.declarations.find? fun id => kindOf? id = some .typeAlias with
    | some first => some (.duplicate, first)
    | none => s.declarations.head?.map (.conflicting, ·)

end Symbol

/-! ## Binding -/

/-- How far binding by lookup has come: the symbols, and the clashes, last one first. -/
structure Ledger where
  symbols : Std.ExtTreeMap String Symbol
  clashes : List BindError

section

variable (statements : Numbered Stmt) (missing : Identifier → Nat)

/-- The kind of the declaration in a statement. -/
def Numbered.kindOf? (id : StmtId) : Option DeclarationKind :=
  (statements.declaration? id).map Declaration.kind

/-- Records a declaration. Of an earlier declaration that is not found, the position would be that
which `missing` gives. -/
def Ledger.add (ledger : Ledger) (d : Declared) : Ledger :=
  match ledger.symbols[d.name]? with
  | none => { ledger with symbols := ledger.symbols.insert d.name (.first d.kind d.id) }
  | some symbol =>
    let error := (symbol.clash? statements.kindOf? d.kind).map fun (clash, first) =>
      (⟨clash, d.name, d.pos,
        ((statements.declaration? first).map (·.name.pos)).getD (missing d.declaration.name)⟩ :
          BindError)
    { symbols := ledger.symbols.insert d.name (symbol.again d.kind d.id)
      clashes := error.toList ++ ledger.clashes }

end

/-! ## Both ways of binding agree -/

theorem Sightings.symbol_first (kind : DeclarationKind) (site : Site) :
    (Sightings.first kind site).symbol = .first kind site.id := by
  cases kind <;> rfl

theorem Sightings.symbol_again (seen : Sightings) (kind : DeclarationKind) (site : Site) :
    (seen.again kind site).symbol = seen.symbol.again kind site.id := by
  obtain ⟨earliest, firstVariable, firstTypeAlias, latestFirst⟩ := seen
  cases kind <;> cases firstVariable <;>
    simp [Sightings.again, Sightings.symbol, Symbol.again]

section

variable {statements : Numbered Stmt}

/-- **The statement with which one more declaration clashes is found, and the declaration in it is
the one that binding remembers.** -/
theorem clash?_symbol {ds : List Declared} (hds : ∀ d ∈ ds, d ∈ statements.declared)
    {seen : Sightings} (h : sightings? ds = some seen) (kind : DeclarationKind) :
    ∃ clash, ∃ o : Declared, o ∈ ds ∧ seen.clash kind = (clash, o.site) ∧
      seen.symbol.clash? statements.kindOf? kind = some (clash, o.id) := by
  have hfind : (ds.map Declared.id).find? (fun id => statements.kindOf? id = some .typeAlias) =
      (ds.find? (·.kind = .typeAlias)).map Declared.id := by
    rw [List.find?_map]
    refine congrArg (Option.map Declared.id) (List.find?_congr fun d hd => ?_)
    rw [Function.comp_apply, Numbered.kindOf?, Numbered.mem_declared.1 (hds d hd)]
    simp only [Option.map_some, Option.some.injEq]
    rfl
  rw [symbol_sightings h]
  obtain ⟨o, ho, hclash⟩ | ⟨hnone, o, ho, hclash⟩ := clash_sightings h kind
  · refine ⟨.duplicate, o, List.mem_of_find?_eq_some ho, hclash, ?_⟩
    cases kind <;> simp [Symbol.clash?, hfind, ho]
  · refine ⟨.conflicting, o, List.mem_of_head? ho, hclash, ?_⟩
    cases kind <;> simp [Symbol.clash?, hfind, hnone, ho]

/-- What a ledger and a scope have in common that have come through the same declarations. -/
structure Ledger.Agrees (ledger : Ledger) (scope : Scope) : Prop where
  symbols : ∀ name : String, ledger.symbols[name]? = (scope.names[name]?).map Sightings.symbol
  clashes : ledger.clashes = scope.clashes

/-- **A ledger and a scope agree behind one more declaration.** -/
theorem Ledger.Agrees.add {ledger : Ledger} {ds : List Declared} {d : Declared}
    (h : ledger.Agrees (scopeOf ds)) (hds : ∀ o ∈ ds, o ∈ statements.declared)
    (missing : Identifier → Nat) :
    (ledger.add statements missing d).Agrees ((scopeOf ds).add d) := by
  have hsymbol := h.symbols d.name
  have hnames := names_scopeOf ds d.name
  have hnamesakes : ∀ o ∈ namesakes d.name ds, o ∈ statements.declared :=
    fun o ho => hds o (mem_namesakes.1 ho).1
  rw [Ledger.add]
  cases hseen : sightings? (namesakes d.name ds) with
  | none =>
    rw [hseen] at hnames
    rw [hnames] at hsymbol
    rw [hsymbol]
    constructor
    · intro name
      simp only [Option.map_none, Std.ExtTreeMap.getElem?_insert,
        Std.LawfulEqCmp.compare_eq_iff_eq, Scope.names_add, hnames, Option.getD_none]
      split
      · rw [Option.map_some, Sightings.symbol_first]
        rfl
      · exact h.symbols name
    · rw [Scope.clashes_add, hnames]
      exact h.clashes
  | some seen =>
    rw [hseen] at hnames
    rw [hnames] at hsymbol
    rw [hsymbol]
    obtain ⟨clash, o, ho, hclash, hfound⟩ := clash?_symbol hnamesakes hseen d.kind
    have hlookup := Numbered.mem_declared.1 (hnamesakes o ho)
    constructor
    · intro name
      simp only [Option.map_some, Std.ExtTreeMap.getElem?_insert,
        Std.LawfulEqCmp.compare_eq_iff_eq, Scope.names_add, hnames, Option.getD_some]
      split
      · rw [Option.map_some, Sightings.symbol_again]
        rfl
      · exact h.symbols name
    · rw [Scope.clashes_add, hnames]
      simp only [Option.map_some, hfound, hclash, hlookup, Option.getD_some, h.clashes]
      rfl

end

end ScriptCheck
