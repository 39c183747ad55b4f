/-!
# The tree of a script

A script is a row of statements: declarations of variables and of type names, and expressions. An
expression is a name, a number, a string, or an assignment of an expression to a name. Every part
knows the byte offset of its first token.
-/

namespace ScriptCheck

/-- A name where it is written. -/
structure Identifier where
  text : String
  pos : Nat
  deriving DecidableEq, Repr

/-- An expression. The value of a number is the double nearest to its digits. -/
inductive Expr where
  | identifier (name : Identifier)
  | number (value : Nat) (pos : Nat)
  | string (value : String) (pos : Nat)
  | assign (target : Identifier) (value : Expr) (pos : Nat)
  deriving DecidableEq, Repr

/-- An assignment to a name, where the name stands. -/
def Expr.assignTo (target : Identifier) (value : Expr) : Expr := .assign target value target.pos

/-- Where the expression starts. -/
def Expr.pos : Expr → Nat
  | .identifier name => name.pos
  | .number _ pos => pos
  | .string _ pos => pos
  | .assign _ _ pos => pos

/-- The declaration of a variable, `var name: typeName = init`. Nothing checks that the type name is
declared. -/
structure Variable where
  name : Identifier
  typeName : Option Identifier
  init : Expr
  pos : Nat
  deriving DecidableEq, Repr

/-- The declaration of a type name, `type name = target`. -/
structure TypeAlias where
  name : Identifier
  target : Identifier
  pos : Nat
  deriving DecidableEq, Repr

/-- A statement. -/
inductive Stmt where
  | expression (e : Expr) (pos : Nat)
  | variable (v : Variable)
  | typeAlias (a : TypeAlias)
  deriving DecidableEq, Repr

/-- The statement that is an expression, where the expression stands. -/
def Stmt.ofExpr (e : Expr) : Stmt := .expression e e.pos

/-- What a declaration declares. -/
inductive DeclarationKind where
  | variable
  | typeAlias
  deriving DecidableEq, Repr

/-- What a message calls a declaration of this kind. -/
def DeclarationKind.describe : DeclarationKind → String
  | .variable => "variable"
  | .typeAlias => "type alias"

/-- A name that a statement declares. -/
structure Declaration where
  kind : DeclarationKind
  name : Identifier
  deriving DecidableEq, Repr

/-- Whether the name stands for a value. -/
def Declaration.isValue (d : Declaration) : Bool := d.kind == .variable

/-- Where the statement starts. -/
def Stmt.pos : Stmt → Nat
  | .expression _ pos => pos
  | .variable v => v.pos
  | .typeAlias a => a.pos

/-- The name that the statement declares, if it is a declaration. -/
def Stmt.declaration? : Stmt → Option Declaration
  | .expression .. => none
  | .variable v => some ⟨.variable, v.name⟩
  | .typeAlias a => some ⟨.typeAlias, a.name⟩

end ScriptCheck
