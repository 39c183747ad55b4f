import Mathlib.Data.List.Induction
import ScriptCheck.Binding.Bind

/-!
# What binding knows of each name

The statements that declare nothing pass without a trace. After any number of declarations, what is
known of a name is what its own declarations come to, and the clashes are those of the declarations
behind others of their name.

* `Numbered.declared` — the declarations among some statements, in order
* `sightings?` — what the declarations of one name come to
* `names_scopeOf` — that is what binding knows of each name
* `clashes_scopeOf` — what each declaration adds to the clashes
* `get?_bind`, `clashes_bind` — the outcome of binding
-/

namespace ScriptCheck

/-! ## Declarations in order -/

/-- A declaration and the number of its statement. -/
structure Declared where
  id : StmtId
  declaration : Declaration
  deriving DecidableEq, Repr

namespace Declared

/-- The declared name. -/
def name (d : Declared) : String := d.declaration.name.text

/-- What is declared. -/
def kind (d : Declared) : DeclarationKind := d.declaration.kind

/-- Where the name is written. -/
def pos (d : Declared) : Nat := d.declaration.name.pos

/-- The statement and the place of the name in it. -/
def site (d : Declared) : Site := ⟨d.id, d.pos⟩

/-- The error of a declaration that clashes with an earlier one. -/
def error (d : Declared) (clash : Clash × Site) : BindError :=
  ⟨clash.1, d.name, d.pos, clash.2.pos⟩

end Declared

namespace Numbered

/-- The declaration that the statement with a number is, if it is one. -/
def declaration? (statements : Numbered Stmt) (id : StmtId) : Option Declaration :=
  (statements.get? id).bind Stmt.declaration?

/-- The declarations among some statements, in order. -/
def declared (statements : Numbered Stmt) : List Declared :=
  statements.keyed.filterMap fun entry => entry.2.declaration?.map (Declared.mk entry.1)

theorem mem_keyed {α : Type} {v : Numbered α} {id : StmtId} {x : α} :
    (id, x) ∈ v.keyed ↔ v.get? id = some x := by
  simp only [keyed, List.mem_map, Prod.mk.injEq, Prod.exists]
  constructor
  · rintro ⟨y, i, hmem, rfl, rfl⟩
    simpa [toList, get?] using List.mem_zipIdx_iff_getElem?.1 hmem
  · intro h
    refine ⟨x, id.index, List.mem_zipIdx_iff_getElem?.2 ?_, rfl, rfl⟩
    simpa [toList, get?] using h

/-- The numbers of values only go up. -/
theorem pairwise_keyed {α : Type} (v : Numbered α) :
    v.keyed.Pairwise (·.1.index < ·.1.index) := by
  rw [keyed, List.pairwise_map]
  have hindices : (v.toList.zipIdx.map Prod.snd).Pairwise (· < ·) := by
    rw [List.zipIdx_map_snd]
    exact List.pairwise_lt_range'
  exact List.pairwise_map.1 hindices

variable {statements : Numbered Stmt}

theorem mem_declared {d : Declared} :
    d ∈ statements.declared ↔ statements.declaration? d.id = some d.declaration := by
  simp only [declared, List.mem_filterMap, Option.map_eq_some_iff, Prod.exists, mem_keyed,
    declaration?, Option.bind_eq_some_iff]
  constructor
  · rintro ⟨id, s, hs, declaration, hd, rfl⟩
    exact ⟨s, hs, hd⟩
  · rintro ⟨s, hs, hd⟩
    exact ⟨d.id, s, hs, d.declaration, hd, rfl⟩

/-- The numbers of declarations only go up. -/
theorem pairwise_declared (statements : Numbered Stmt) :
    statements.declared.Pairwise (·.id.index < ·.id.index) := by
  refine List.Pairwise.filterMap _ ?_ statements.pairwise_keyed
  intro a b hab d hd d' hd'
  obtain ⟨_, -, rfl⟩ := Option.map_eq_some_iff.1 hd
  obtain ⟨_, -, rfl⟩ := Option.map_eq_some_iff.1 hd'
  exact hab

end Numbered

/-! ## Declarations of one name -/

/-- The declarations of a name. -/
def namesakes (name : String) (ds : List Declared) : List Declared := ds.filter (·.name = name)

/-- Where a kind is declared first. -/
def firstSite? (kind : DeclarationKind) (ds : List Declared) : Option Site :=
  (ds.find? (·.kind = kind)).map Declared.site

/-- What the declarations of one name come to. -/
def sightings? : List Declared → Option Sightings
  | [] => none
  | d :: ds => some
    { earliest := d.site
      firstVariable := firstSite? .variable (d :: ds)
      firstTypeAlias := firstSite? .typeAlias (d :: ds)
      latestFirst := ((d :: ds).map Declared.id).reverse }

@[simp] theorem namesakes_nil (name : String) : namesakes name [] = [] := rfl

theorem namesakes_concat_self (d : Declared) (ds : List Declared) :
    namesakes d.name (ds ++ [d]) = namesakes d.name ds ++ [d] := by
  simp [namesakes]

theorem namesakes_concat_ne {d : Declared} {name : String} (h : d.name ≠ name)
    (ds : List Declared) : namesakes name (ds ++ [d]) = namesakes name ds := by
  simp [namesakes, h]

theorem mem_namesakes {name : String} {d : Declared} {ds : List Declared} :
    d ∈ namesakes name ds ↔ d ∈ ds ∧ d.name = name := by
  simp [namesakes]

theorem sightings?_eq_none_iff {ds : List Declared} : sightings? ds = none ↔ ds = [] := by
  cases ds <;> simp [sightings?]

/-- **One more declaration of a name is the first one, or one behind those before it.** -/
theorem sightings?_concat (ds : List Declared) (d : Declared) :
    sightings? (ds ++ [d]) =
      some (((sightings? ds).map fun seen => seen.again d.kind d.site).getD
        (.first d.kind d.site)) := by
  cases ds with
  | nil =>
    simp only [List.nil_append, sightings?, Option.map_none, Option.getD_none, firstSite?,
      Sightings.first, List.find?_singleton]
    cases hkind : d.kind <;> simp [Declared.site]
  | cons first ds =>
    have hfind (kind : DeclarationKind) : firstSite? kind (first :: (ds ++ [d])) =
        (firstSite? kind (first :: ds)).or (if d.kind = kind then some d.site else none) := by
      rw [firstSite?, ← List.cons_append, List.find?_append, Option.map_or, firstSite?]
      by_cases hkind : d.kind = kind <;> simp [hkind]
    simp only [List.cons_append, sightings?, Option.map_some, Option.getD_some, hfind,
      Sightings.again]
    cases hkind : d.kind <;> simp [Declared.site]

section

variable {ds : List Declared} {seen : Sightings}

theorem firstOf?_sightings (h : sightings? ds = some seen) (kind : DeclarationKind) :
    seen.firstOf? kind = (ds.find? (·.kind = kind)).map Declared.site := by
  cases ds with
  | nil => contradiction
  | cons d ds =>
    obtain rfl := Option.some.inj h
    cases kind <;> rfl

theorem earliest_sightings (h : sightings? ds = some seen) :
    ds.head?.map Declared.site = some seen.earliest := by
  cases ds with
  | nil => contradiction
  | cons d ds =>
    obtain rfl := Option.some.inj h
    rfl

/-- The symbol knows the first declaration of a variable, and all declarations. -/
theorem symbol_sightings (h : sightings? ds = some seen) :
    seen.symbol =
      ⟨(ds.find? (·.kind = .variable)).map Declared.id, ds.map Declared.id⟩ := by
  cases ds with
  | nil => contradiction
  | cons d ds =>
    obtain rfl := Option.some.inj h
    simp only [Sightings.symbol, firstSite?, Option.map_map, List.reverse_reverse]
    rfl

/-- **One more declaration of a name clashes with the first one of its own kind, or else with the
first one of all.** -/
theorem clash_sightings (h : sightings? ds = some seen) (kind : DeclarationKind) :
    (∃ o, ds.find? (·.kind = kind) = some o ∧ seen.clash kind = (.duplicate, o.site)) ∨
      ds.find? (·.kind = kind) = none ∧
        ∃ o, ds.head? = some o ∧ seen.clash kind = (.conflicting, o.site) := by
  have hfirst := firstOf?_sightings h kind
  rw [Sightings.clash]
  cases hfind : ds.find? (·.kind = kind) with
  | some o =>
    rw [hfind] at hfirst
    exact .inl ⟨o, rfl, by rw [hfirst]; rfl⟩
  | none =>
    rw [hfind] at hfirst
    obtain ⟨o, ho, hsite⟩ := Option.map_eq_some_iff.1 (earliest_sightings h)
    exact .inr ⟨rfl, o, ho, by rw [hfirst, hsite]; rfl⟩

end

/-! ## Declaration by declaration -/

namespace Scope

/-- Records a declaration. -/
def add (scope : Scope) (d : Declared) : Scope := scope.declare d.id d.declaration

/-- A declaration touches what is known of its own name only. -/
theorem names_add (scope : Scope) (d : Declared) (name : String) :
    (scope.add d).names[name]? =
      if d.name = name then
        some (((scope.names[d.name]?).map fun seen => seen.again d.kind d.site).getD
          (.first d.kind d.site))
      else scope.names[name]? := by
  rw [add, declare]
  have hname : d.declaration.name.text = d.name := rfl
  rw [hname]
  cases scope.names[d.name]? with
  | none =>
    simp only [Std.ExtTreeMap.getElem?_insert, Std.LawfulEqCmp.compare_eq_iff_eq]
    rfl
  | some seen =>
    simp only [Std.ExtTreeMap.getElem?_insert, Std.LawfulEqCmp.compare_eq_iff_eq]
    rfl

/-- A declaration of a known name is a clash, and no other is. -/
theorem clashes_add (scope : Scope) (d : Declared) :
    (scope.add d).clashes =
      ((scope.names[d.name]?).map fun seen => d.error (seen.clash d.kind)).toList ++
        scope.clashes := by
  rw [add, declare]
  have hname : d.declaration.name.text = d.name := rfl
  rw [hname]
  cases scope.names[d.name]? <;> rfl

end Scope

/-! ## All declarations -/

/-- What is known behind some declarations. -/
def scopeOf (ds : List Declared) : Scope := ds.foldl Scope.add .empty

theorem scopeOf_concat (ds : List Declared) (d : Declared) :
    scopeOf (ds ++ [d]) = (scopeOf ds).add d := by
  rw [scopeOf, List.foldl_append]
  rfl

/-- **What is known of a name is what its declarations come to.** -/
theorem names_scopeOf (ds : List Declared) (name : String) :
    (scopeOf ds).names[name]? = sightings? (namesakes name ds) := by
  induction ds using List.reverseRecOn with
  | nil => simp [scopeOf, Scope.empty, sightings?]
  | append_singleton ds d ih =>
    rw [scopeOf_concat, Scope.names_add]
    split
    · next hname =>
      subst hname
      rw [ih, namesakes_concat_self, sightings?_concat]
    · next hname => rw [ih, namesakes_concat_ne hname]

/-- The clash of a declaration behind others. -/
def Declared.clash? (earlier : List Declared) (d : Declared) : Option BindError :=
  (sightings? (namesakes d.name earlier)).map fun seen => d.error (seen.clash d.kind)

/-- The clashes of declarations behind others, in order. -/
def clashesBehind (earlier : List Declared) : List Declared → List BindError
  | [] => []
  | d :: ds => (d.clash? earlier).toList ++ clashesBehind (earlier ++ [d]) ds

/-- **The clashes are those of each declaration behind the ones before it, in order.** -/
theorem clashes_scopeOf (earlier ds : List Declared) :
    (scopeOf (earlier ++ ds)).clashes.reverse =
      (scopeOf earlier).clashes.reverse ++ clashesBehind earlier ds := by
  induction ds generalizing earlier with
  | nil => simp [clashesBehind]
  | cons d ds ih =>
    have hstep : (scopeOf (earlier ++ [d])).clashes.reverse =
        (scopeOf earlier).clashes.reverse ++ (d.clash? earlier).toList := by
      rw [scopeOf_concat, Scope.clashes_add, names_scopeOf, List.reverse_append, Declared.clash?]
      cases sightings? (namesakes d.name earlier) <;> rfl
    rw [clashesBehind, ← List.append_assoc, ← hstep, ← ih (earlier ++ [d])]
    simp

section

variable (statements : Numbered Stmt)

theorem bind_eq :
    bind statements =
      ⟨(scopeOf statements.declared).table, (scopeOf statements.declared).clashes.reverse⟩ := by
  have hfold : statements.keyed.foldl Scope.record .empty = scopeOf statements.declared := by
    rw [scopeOf, Numbered.declared, List.foldl_filterMap]
    congr 1
    funext scope entry
    rw [Scope.record]
    cases entry.2.declaration? <;> rfl
  rw [bind, hfold]

/-- **The symbol of a name is that of its declarations.** -/
theorem get?_bind (name : String) :
    (bind statements).table.get? name =
      (sightings? (namesakes name statements.declared)).map Sightings.symbol := by
  rw [bind_eq, Table.get?, Scope.table, Std.ExtTreeMap.getElem?_map, names_scopeOf]

/-- **The clashes are those of each declaration behind the ones before it.** -/
theorem clashes_bind : (bind statements).clashes = clashesBehind [] statements.declared := by
  rw [bind_eq]
  exact clashes_scopeOf [] statements.declared

end

end ScriptCheck
