import ScriptCheck.Proofs.Binding.Scope
import ScriptCheck.Proofs.Tree.Relocate

/-!
# Binding names in other places

What a name stands for depends on the statements that declare it and on their order, not on where
the names are written. So if all names move, the table stays, and the clashes move with the names.

* `Declared.relocate`, `Sightings.relocate`, `BindError.relocate` — what binding knows, moved
* `clashesBehind_relocate` — the clashes of moved declarations
* `bind_relocate` — the table and the clashes of moved statements
-/

namespace ScriptCheck

variable (f : Nat → Nat)

/-! ## Moving what is known of names -/

/-- The declaration with its name in another place. -/
def Declaration.relocate (d : Declaration) : Declaration := { d with name := d.name.relocate f }

/-- The declaration of a statement, with its name in another place. -/
def Declared.relocate (d : Declared) : Declared := ⟨d.id, d.declaration.relocate f⟩

/-- The name in another place of the statement. -/
def Site.relocate (s : Site) : Site := { s with pos := f s.pos }

/-- What has been seen of a name that is written in other places. -/
def Sightings.relocate (s : Sightings) : Sightings where
  earliest := s.earliest.relocate f
  firstVariable := s.firstVariable.map (·.relocate f)
  firstTypeAlias := s.firstTypeAlias.map (·.relocate f)
  latestFirst := s.latestFirst

/-- The clash of two names in other places. -/
def BindError.relocate (e : BindError) : BindError :=
  { e with pos := f e.pos, first := f e.first }

/-- The symbol of a name does not say where it is written. -/
@[simp] theorem Sightings.symbol_relocate (s : Sightings) : (s.relocate f).symbol = s.symbol := by
  simp only [symbol, relocate, Option.map_map]
  rfl

theorem Sightings.firstOf?_relocate (s : Sightings) (kind : DeclarationKind) :
    (s.relocate f).firstOf? kind = (s.firstOf? kind).map (·.relocate f) := by
  cases kind <;> rfl

theorem Sightings.clash_relocate (s : Sightings) (kind : DeclarationKind) :
    (s.relocate f).clash kind = ((s.clash kind).1, (s.clash kind).2.relocate f) := by
  rw [clash, clash, firstOf?_relocate]
  cases s.firstOf? kind <;> rfl

/-! ## Moving declarations -/

theorem declaration?_relocate (s : Stmt) :
    (s.relocate f).declaration? = s.declaration?.map (·.relocate f) := by
  cases s <;> rfl

theorem namesakes_relocate (name : String) (ds : List Declared) :
    namesakes name (ds.map (·.relocate f)) = (namesakes name ds).map (·.relocate f) := by
  rw [namesakes, namesakes, List.filter_map]
  rfl

theorem firstSite?_relocate (kind : DeclarationKind) (ds : List Declared) :
    firstSite? kind (ds.map (·.relocate f)) = (firstSite? kind ds).map (·.relocate f) := by
  rw [firstSite?, firstSite?, List.find?_map, Option.map_map, Option.map_map]
  rfl

theorem sightings?_relocate (ds : List Declared) :
    sightings? (ds.map (·.relocate f)) = (sightings? ds).map (·.relocate f) := by
  cases ds with
  | nil => rfl
  | cons d ds =>
    have hids : (ds.map (·.relocate f)).map Declared.id = ds.map Declared.id := by
      rw [List.map_map]
      rfl
    have hsite (kind : DeclarationKind) := firstSite?_relocate f kind (d :: ds)
    rw [List.map_cons] at hsite
    simp only [List.map_cons, sightings?, hsite, hids]
    rfl

theorem clash?_relocate (earlier : List Declared) (d : Declared) :
    (d.relocate f).clash? (earlier.map (·.relocate f)) =
      (d.clash? earlier).map (·.relocate f) := by
  have hname : (d.relocate f).name = d.name := rfl
  rw [Declared.clash?, Declared.clash?, hname, namesakes_relocate, sightings?_relocate,
    Option.map_map, Option.map_map]
  congr 1
  funext seen
  have hclash : (seen.relocate f).clash (d.relocate f).kind =
      ((seen.clash d.kind).1, (seen.clash d.kind).2.relocate f) := seen.clash_relocate f d.kind
  rw [Function.comp_apply, hclash]
  rfl

/-- **Moved declarations clash as before, in the other places.** -/
theorem clashesBehind_relocate (earlier later : List Declared) :
    clashesBehind (earlier.map (·.relocate f)) (later.map (·.relocate f)) =
      (clashesBehind earlier later).map (·.relocate f) := by
  induction later generalizing earlier with
  | nil => rfl
  | cons d later ih =>
    have hnext := ih (earlier ++ [d])
    rw [List.map_append, List.map_singleton] at hnext
    rw [List.map_cons, clashesBehind, clashesBehind, clash?_relocate, hnext, List.map_append]
    cases d.clash? earlier <;> rfl

/-! ## Moving statements -/

/-- The declarations keep their numbers. -/
theorem declared_relocate (statements : List Stmt) :
    (Numbered.ofList (statements.map (·.relocate f))).declared =
      (Numbered.ofList statements).declared.map (·.relocate f) := by
  rw [Numbered.declared, Numbered.declared, Numbered.keyed, Numbered.keyed, Numbered.toList_ofList,
    Numbered.toList_ofList, List.zipIdx_map, List.map_map, List.filterMap_map, List.filterMap_map,
    List.map_filterMap]
  refine List.filterMap_congr fun entry _ => ?_
  simp only [Function.comp_apply, Prod.map, id, declaration?_relocate]
  cases entry.1.declaration? <;> rfl

/-- A table is known by what it says of each name. -/
theorem Table.ext_get? {t u : Table} (h : ∀ name, t.get? name = u.get? name) : t = u := by
  obtain ⟨symbols⟩ := t
  obtain ⟨symbols'⟩ := u
  exact congrArg Table.mk (Std.ExtTreeMap.ext_getElem? fun {name} => h name)

/-- **If names move, their table stays, and their clashes move with them.** -/
theorem bind_relocate (statements : List Stmt) :
    (bind (.ofList (statements.map (·.relocate f)))).table =
        (bind (.ofList statements)).table ∧
      (bind (.ofList (statements.map (·.relocate f)))).clashes =
        (bind (.ofList statements)).clashes.map (·.relocate f) := by
  constructor
  · refine Table.ext_get? fun name => ?_
    rw [get?_bind, get?_bind, declared_relocate, namesakes_relocate, sightings?_relocate,
      Option.map_map]
    congr 1
    funext seen
    exact seen.symbol_relocate f
  · rw [clashes_bind, clashes_bind, declared_relocate]
    exact clashesBehind_relocate f [] _

end ScriptCheck
