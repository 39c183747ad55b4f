import ScriptCheck.Compilation
import ScriptCheck.Export.Json
import ScriptCheck.SourceFile

/-!
# Modules and diagnostics as JSON

Every type has one JSON form. A statement or an expression is an object with one field, which says
what it is.
-/

namespace ScriptCheck

/-- A value that may be missing. -/
def Json.option (v : Option Json) : Json := v.getD .null

/-- A token, by the label of its kind. -/
def Token.toJson (t : Token) : Json :=
  .obj [("kind", .str t.kind.label), ("pos", .nat t.pos), ("text", .str t.text)]

/-- A name and its place. -/
def Identifier.toJson (n : Identifier) : Json := .obj [("text", .str n.text), ("pos", .nat n.pos)]

/-- An expression. -/
def Expr.toJson : Expr → Json
  | .identifier name => .obj [("Identifier", name.toJson)]
  | .number value pos => .obj [("Literal", .obj [("value", .double value), ("pos", .nat pos)])]
  | .string value pos => .obj [("StringLiteral", .obj [("value", .str value), ("pos", .nat pos)])]
  | .assign target value pos =>
    .obj [("Assignment",
      .obj [("name", target.toJson), ("value", value.toJson), ("pos", .nat pos)])]

/-- A statement. -/
def Stmt.toJson : Stmt → Json
  | .expression e pos =>
    .obj [("Expression", .obj [("expression", e.toJson), ("pos", .nat pos)])]
  | .variable v =>
    .obj [("Var",
      .obj [("name", v.name.toJson), ("typename", Json.option (v.typeName.map Identifier.toJson)),
        ("init", v.init.toJson), ("pos", .nat v.pos)])]
  | .typeAlias a =>
    .obj [("TypeAlias",
      .obj [("name", a.name.toJson), ("typename", a.target.toJson), ("pos", .nat a.pos)])]

/-- A statement by its number. -/
def StmtId.toJson (id : StmtId) : Json := .nat id.index

/-- A symbol, which names its declarations by their numbers. -/
def Symbol.toJson (s : Symbol) : Json :=
  .obj [("value_declaration", Json.option (s.valueDeclaration.map StmtId.toJson)),
    ("declarations", .arr (s.declarations.map StmtId.toJson))]

/-- A table is an object whose fields are in the order of the names. -/
def Table.toJson (t : Table) : Json := .obj (t.toList.map fun (name, s) => (name, s.toJson))

/-- A module. Its statements are in the order of their numbers. -/
def Module.toJson (m : Module) : Json :=
  .obj [("locals", m.locals.toJson),
    ("statements", .arr (m.statements.toList.map Stmt.toJson))]

/-- A label of a diagnostic. -/
def Label.toJson (l : Label) : Json := .obj [("pos", .nat l.pos), ("message", .str l.message)]

/-- A diagnostic, by the label of its stage. -/
def Diagnostic.toJson (d : Diagnostic) : Json :=
  .obj [("kind", .str d.stage.label), ("pos", .nat d.pos), ("message", .str d.message),
    ("labels", .arr (d.labels.map Label.toJson))]

/-- A source file. Of its lines only the breaks between them are shown. -/
def SourceFile.toJson (f : SourceFile) : Json :=
  .obj [("name", .str f.name), ("path", Json.option (f.path.map .str)), ("text", .str f.text),
    ("line_breaks", .arr (f.lineBreaks.map .nat))]

end ScriptCheck
