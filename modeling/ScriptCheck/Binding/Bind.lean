import ScriptCheck.Binding.Table
import ScriptCheck.Tree

/-!
# Binding names

Variables and type names share one space of names. Every declaration of a name is recorded in its
symbol, and every one but the first is a clash:

* with the first declaration of the same kind, if there is one before it: a duplicate
* else with the first declaration of the name: a conflict
-/

namespace ScriptCheck

/-! ## Clashes -/

/-- How a declaration clashes with an earlier one. -/
inductive Clash where
  /-- Both declare the same kind of thing. -/
  | duplicate
  /-- One declares a variable and the other a type name. -/
  | conflicting
  deriving DecidableEq, Repr

/-- A repeated declaration: the name, the byte offset at which it is repeated, and the byte offset
of the name in the declaration with which it clashes. -/
structure BindError where
  clash : Clash
  name : String
  pos : Nat
  first : Nat
  deriving DecidableEq, Repr

/-- The wording of a clash. -/
def BindError.message (e : BindError) : String :=
  match e.clash with
  | .duplicate => "duplicate declaration of `" ++ e.name ++ "`"
  | .conflicting => "conflicting declaration of `" ++ e.name ++ "`"

/-! ## Names on the way through a module -/

/-- A statement that declares a name, and the byte offset of the name in it. -/
structure Site where
  id : StmtId
  pos : Nat
  deriving DecidableEq, Repr

/-- What has been seen of a name so far. -/
structure Sightings where
  /-- The first declaration. -/
  earliest : Site
  /-- The first declaration of a variable. -/
  firstVariable : Option Site
  /-- The first declaration of a type name. -/
  firstTypeAlias : Option Site
  /-- The statements that declare the name, last one first. -/
  latestFirst : List StmtId
  deriving DecidableEq, Repr

namespace Sightings

/-- A name that is declared for the first time. -/
def first (kind : DeclarationKind) (site : Site) : Sightings where
  earliest := site
  firstVariable := if kind = .variable then some site else none
  firstTypeAlias := if kind = .typeAlias then some site else none
  latestFirst := [site.id]

/-- The first declaration of a kind. -/
def firstOf? (s : Sightings) : DeclarationKind → Option Site
  | .variable => s.firstVariable
  | .typeAlias => s.firstTypeAlias

/-- A name that is declared once more. -/
def again (s : Sightings) (kind : DeclarationKind) (site : Site) : Sightings :=
  let added := { s with latestFirst := site.id :: s.latestFirst }
  match kind with
  | .variable => { added with firstVariable := s.firstVariable <|> some site }
  | .typeAlias => { added with firstTypeAlias := s.firstTypeAlias <|> some site }

/-- How one more declaration clashes, and with which earlier one. -/
def clash (s : Sightings) (kind : DeclarationKind) : Clash × Site :=
  match s.firstOf? kind with
  | some site => (.duplicate, site)
  | none => (.conflicting, s.earliest)

/-- The symbol of a name. -/
def symbol (s : Sightings) : Symbol where
  valueDeclaration := s.firstVariable.map Site.id
  declarations := s.latestFirst.reverse

end Sightings

/-- How far binding has come: what has been seen of each name, and the clashes, last one first. -/
structure Scope where
  names : Std.ExtTreeMap String Sightings
  clashes : List BindError

namespace Scope

/-- Nothing has been declared. -/
def empty : Scope := ⟨∅, []⟩

/-- Records a declaration. -/
def declare (scope : Scope) (id : StmtId) (d : Declaration) : Scope :=
  let site : Site := ⟨id, d.name.pos⟩
  match scope.names[d.name.text]? with
  | none => { scope with names := scope.names.insert d.name.text (.first d.kind site) }
  | some seen =>
    let (clash, earlier) := seen.clash d.kind
    { names := scope.names.insert d.name.text (seen.again d.kind site)
      clashes := ⟨clash, d.name.text, d.name.pos, earlier.pos⟩ :: scope.clashes }

/-- Records what a statement declares. An expression declares nothing: it assigns to names that
are declared elsewhere. -/
def record (scope : Scope) (entry : StmtId × Stmt) : Scope :=
  match entry.2.declaration? with
  | some d => scope.declare entry.1 d
  | none => scope

/-- The symbols of the names. -/
def table (scope : Scope) : Table := ⟨scope.names.map fun _ seen => seen.symbol⟩

end Scope

/-- The names of a module and the clashes between its declarations, in order. -/
structure Bound where
  table : Table
  clashes : List BindError
  deriving DecidableEq

/-- Binds the names that some statements declare. -/
def bind (statements : Numbered Stmt) : Bound :=
  let scope := statements.keyed.foldl Scope.record .empty
  ⟨scope.table, scope.clashes.reverse⟩

end ScriptCheck
