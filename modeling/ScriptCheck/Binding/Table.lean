import ScriptCheck.Numbered
import Std.Data.ExtTreeMap

/-!
# Symbol tables

The declared names of a module. Each name has one symbol, which knows all the statements that
declare the name. Two tables are equal if they give every name the same symbol, and a table lists
its names in ascending order.
-/

namespace ScriptCheck

/-- What is known of a declared name: the first statement that declares it as a variable, if one
does, and all statements that declare it, in order. -/
structure Symbol where
  valueDeclaration : Option StmtId
  declarations : List StmtId
  deriving DecidableEq, Repr

/-- The symbols of a module by their names, which are ordered by their UTF-8 bytes. -/
structure Table where
  symbols : Std.ExtTreeMap String Symbol
  deriving DecidableEq

namespace Table

/-- No names. -/
def empty : Table := ⟨∅⟩

/-- The symbol of a name. -/
def get? (t : Table) (name : String) : Option Symbol := t.symbols[name]?

/-- Whether the name is declared. -/
def contains (t : Table) (name : String) : Bool := t.symbols.contains name

/-- How many names are declared. -/
def size (t : Table) : Nat := t.symbols.size

/-- The names in ascending order, each with its symbol. -/
def toList (t : Table) : List (String × Symbol) := t.symbols.toList

end Table

end ScriptCheck
