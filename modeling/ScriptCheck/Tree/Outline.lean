import ScriptCheck.Tree

/-!
# The outline of a tree

The parts of a tree in a row, as they are written: each statement, then its names and its
expression from the outside to the inside. However deep an assignment is, its outline is flat.
-/

namespace ScriptCheck

/-- What a part of a tree is, and what identifies it. -/
inductive PartKind where
  | variable (name : String)
  | typeAlias (name : String)
  | typeName (name : String)
  | expression
  | identifier (name : String)
  | number (value : Nat)
  | string (value : String)
  | assignment (target : String)
  deriving DecidableEq, Repr

/-- A part of a tree and the byte offset of its first token. -/
structure Part where
  kind : PartKind
  pos : Nat
  deriving DecidableEq, Repr

/-- The parts of an expression, behind others that stand in front, last one first. -/
def Expr.outlineFrom (before : List Part) : Expr → List Part
  | .identifier name => ⟨.identifier name.text, name.pos⟩ :: before
  | .number value pos => ⟨.number value, pos⟩ :: before
  | .string value pos => ⟨.string value, pos⟩ :: before
  | .assign target value pos => value.outlineFrom (⟨.assignment target.text, pos⟩ :: before)

/-- A type name where it is written. -/
def Identifier.typePart (name : Identifier) : Part := ⟨.typeName name.text, name.pos⟩

/-- The parts of a statement, behind others that stand in front, last one first. -/
def Stmt.outlineFrom (before : List Part) : Stmt → List Part
  | .expression e pos => e.outlineFrom (⟨.expression, pos⟩ :: before)
  | .variable v =>
    v.init.outlineFrom
      (((v.typeName.map Identifier.typePart).toList) ++ ⟨.variable v.name.text, v.pos⟩ :: before)
  | .typeAlias a => a.target.typePart :: ⟨.typeAlias a.name.text, a.pos⟩ :: before

/-- The parts of a row of statements, in order. -/
def outline (statements : List Stmt) : List Part :=
  (statements.foldl Stmt.outlineFrom []).reverse

/-- The names to which an expression assigns, from the outside to the inside. -/
def Expr.targets : Expr → List Identifier
  | .assign target value _ => target :: value.targets
  | _ => []

end ScriptCheck
