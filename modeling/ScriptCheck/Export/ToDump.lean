import ScriptCheck.Compilation
import ScriptCheck.Export.Dump

/-!
# Dumps of tokens, statements and diagnostics
-/

namespace ScriptCheck

/-- A token, by the label of its kind. -/
def Token.toDump (t : Token) : Dump :=
  .record "Token" [("kind", .atom t.kind.label), ("pos", .nat t.pos), ("text", .str t.text)]

/-- A name and its place. -/
def Identifier.toDump (n : Identifier) : Dump :=
  .record "Identifier" [("text", .str n.text), ("pos", .nat n.pos)]

/-- An expression. -/
def Expr.toDump : Expr → Dump
  | .identifier name => .tuple "Identifier" [name.toDump]
  | .number value pos =>
    .tuple "Literal" [.record "Literal" [("value", .double value), ("pos", .nat pos)]]
  | .string value pos =>
    .tuple "StringLiteral" [.record "StringLiteral" [("value", .str value), ("pos", .nat pos)]]
  | .assign target value pos =>
    .tuple "Assignment" [.record "Assignment"
      [("name", target.toDump), ("value", value.toDump), ("pos", .nat pos)]]

/-- A statement. -/
def Stmt.toDump : Stmt → Dump
  | .expression e pos =>
    .tuple "Expression" [.record "ExpressionStatement"
      [("expression", e.toDump), ("pos", .nat pos)]]
  | .variable v =>
    .tuple "Var" [.record "Var"
      [("name", v.name.toDump), ("typename", .option (v.typeName.map Identifier.toDump)),
        ("init", v.init.toDump), ("pos", .nat v.pos)]]
  | .typeAlias a =>
    .tuple "TypeAlias" [.record "TypeAlias"
      [("name", a.name.toDump), ("typename", a.target.toDump), ("pos", .nat a.pos)]]

/-- The number of a statement. -/
def StmtId.toDump (id : StmtId) : Dump := .tuple "StmtId" [.nat id.index]

/-- Numbered values are a map from their numbers. -/
def Numbered.toDump {α : Type} (item : α → Dump) (v : Numbered α) : Dump :=
  .map (v.keyed.map fun (id, x) => (id.toDump, item x))

/-- A label of a diagnostic. -/
def Label.toDump (l : Label) : Dump :=
  .record "Label" [("pos", .nat l.pos), ("message", .str l.message)]

/-- A diagnostic, by the label of its stage. -/
def Diagnostic.toDump (d : Diagnostic) : Dump :=
  .record "Diagnostic"
    [("kind", .atom d.stage.label), ("pos", .nat d.pos), ("message", .str d.message),
      ("labels", .list (d.labels.map Label.toDump))]

/-- A clash, by its kind and its name. -/
def BindError.toDump (e : BindError) : Dump :=
  let kind := match e.clash with
    | .duplicate => "DuplicateDeclaration"
    | .conflicting => "ConflictingDeclaration"
  .record "BindError"
    [("kind", .tuple kind [.str e.name]), ("pos", .nat e.pos), ("first", .nat e.first)]

end ScriptCheck
