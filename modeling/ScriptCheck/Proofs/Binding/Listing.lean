import ScriptCheck.Export.ToJson
import ScriptCheck.Proofs.Binding.Grouping
import ScriptCheck.Proofs.Binding.Lookup
import ScriptCheck.Proofs.Binding.Relocate
import ScriptCheck.Proofs.SourceFile.Offsets

/-!
# Tables in whatever order

A hash map lists its entries in an order of its own, which can be another one each time. What is
emitted of a table does not depend on that: the entries are collected into an ordered map first, and
that one is the same for all orders. Its names come in the order of their bytes.

* `Table.Lists` — whether some entries are those of a table, in any order
* `Table.Lists.collect_eq` — collecting them gives the table
* `Table.pairwise_toList_nameBefore` — the order of the names that a table lists
* `Table.emitted` — the object of some entries
* `Table.Lists.toJson_eq` — it is the JSON of the table, whatever their order
* `Table.toJson_eq_iff` — tables with the same JSON say the same of each name
* `Shuffled` — the entries that binding with a hash map may come to, and `shuffled_iff`: all orders
  of one table
* `serialization_canonical` — what is emitted of a table
-/

namespace ScriptCheck

open Text

/-! ## The order of names -/

/-- Of two characters, the one that comes first has the UTF-8 form that comes first, whatever stands
behind them: neither form is the beginning of the other. -/
theorem utf8EncodeChar_lt {c d : Char} (h : c < d) (bs es : List UInt8) :
    String.utf8EncodeChar c ++ bs < String.utf8EncodeChar d ++ es := by
  have hcode : c.val.toNat < d.val.toNat := h
  have hmax : d.val.toNat < 0x110000 := by
    rcases d.valid with h | h <;> omega
  -- by the lengths of both forms; the first byte in which they differ decides
  fun_cases String.utf8EncodeChar c <;> fun_cases String.utf8EncodeChar d <;>
    simp (disch := omega) only [List.cons_append, List.cons_lt_cons_iff,
      UInt8.lt_iff_toNat_lt, ← UInt8.toNat_inj, UInt8.toNat_ofNat', Nat.mod_eq_of_lt] <;>
    omega

/-- **Texts are in the order of their UTF-8 forms.** -/
theorem utf8Bytes_lt {cs ds : List Char} (h : cs < ds) : utf8Bytes cs < utf8Bytes ds := by
  induction h with
  | @nil d ds =>
    obtain ⟨b, bs, hd⟩ := List.exists_cons_of_ne_nil (String.utf8EncodeChar_ne_nil (c := d))
    rw [utf8Bytes, utf8Bytes, List.flatMap_cons, hd]
    exact List.Lex.nil
  | @cons c cs ds _ ih =>
    rw [utf8Bytes, utf8Bytes, List.flatMap_cons, List.flatMap_cons]
    exact List.append_left_lt ih
  | rel hcd => exact utf8EncodeChar_lt hcd _ _

namespace Table

/-- Whether the name of an entry comes before that of another one by the bytes of both. -/
def NameBefore (a b : String × Symbol) : Prop := utf8Bytes a.1.toList < utf8Bytes b.1.toList

/-- **A table lists its names in the order of their bytes.** -/
theorem pairwise_toList_nameBefore (t : Table) : t.toList.Pairwise NameBefore := by
  refine Std.ExtTreeMap.ordered_keys_toList.imp fun h => ?_
  exact utf8Bytes_lt (String.lt_iff.1 (compareOfLessAndEq_eq_lt.1 h))

/-! ## Entries in any order -/

/-- Whether some entries are those of a table, in any order: no name comes twice, and each has the
symbol that it has in the table. -/
structure Lists (t : Table) (entries : List (String × Symbol)) : Prop where
  nodup : (entries.map Prod.fst).Nodup
  mem_iff : ∀ name symbol, (name, symbol) ∈ entries ↔ t.get? name = some symbol

/-- The table into which some entries are put one by one. -/
def collect (entries : List (String × Symbol)) : Table := ⟨.ofList entries⟩

/-- What is emitted of some entries, one behind the other. -/
def serialized (entries : List (String × Symbol)) : List (String × Symbol) :=
  (collect entries).toList

/-- The object of some entries: a field for each of them, in the order in which they are emitted. -/
def emitted (entries : List (String × Symbol)) : Json :=
  .obj ((serialized entries).map fun (name, symbol) => (name, symbol.toJson))

variable {t u : Table} {entries others : List (String × Symbol)}

theorem lists_toList (t : Table) : t.Lists t.toList where
  nodup := List.pairwise_map.2 t.pairwise_toList
  mem_iff := fun _ _ => mem_toList

/-- The orders of one table are those of its entries. -/
theorem Lists.perm_iff (h : t.Lists entries) : t.Lists others ↔ others.Perm entries := by
  constructor
  · intro hothers
    refine (List.perm_ext_iff_of_nodup hothers.nodup.of_map h.nodup.of_map).2 ?_
    rintro ⟨name, symbol⟩
    rw [hothers.mem_iff, h.mem_iff]
  · intro hperm
    refine ⟨(hperm.map Prod.fst).nodup_iff.2 h.nodup, fun name symbol => ?_⟩
    rw [hperm.mem_iff, h.mem_iff]

/-- **Entries with different names are those of the table into which they are put.** -/
theorem lists_collect (h : (entries.map Prod.fst).Nodup) : (collect entries).Lists entries := by
  refine ⟨h, fun name symbol => ?_⟩
  have hdistinct : entries.Pairwise fun a b => ¬ compare a.1 b.1 = .eq :=
    (List.pairwise_map.1 h).imp fun hne heq => hne (Std.LawfulEqCmp.eq_of_compare heq)
  constructor
  · exact Std.ExtTreeMap.getElem?_ofList_of_mem Std.ReflCmp.compare_self hdistinct
  · intro hget
    by_cases hname : name ∈ entries.map Prod.fst
    · obtain ⟨⟨_, other⟩, hmem, rfl⟩ := List.mem_map.1 hname
      have hother : (collect entries).get? _ = some other :=
        Std.ExtTreeMap.getElem?_ofList_of_mem Std.ReflCmp.compare_self hdistinct hmem
      rw [hget] at hother
      rwa [Option.some.inj hother]
    · have hnone : (collect entries).get? name = none :=
        Std.ExtTreeMap.getElem?_ofList_of_contains_eq_false
          (by rwa [← Bool.not_eq_true, List.contains_iff_mem])
      rw [hget] at hnone
      contradiction

/-- **Whatever the order of its entries, collecting them gives the table.** -/
theorem Lists.collect_eq (h : t.Lists entries) : collect entries = t := by
  refine ext_get? fun name => Option.ext fun symbol => ?_
  rw [← (lists_collect h.nodup).mem_iff, h.mem_iff]

/-- Tables that are emitted alike are the same. -/
theorem Lists.serialized_eq_iff (h : t.Lists entries) (hu : u.Lists others) :
    serialized entries = serialized others ↔ t = u := by
  rw [serialized, serialized, h.collect_eq, hu.collect_eq]
  constructor
  · intro heq
    refine ext_get? fun name => Option.ext fun symbol => ?_
    rw [← mem_toList, heq, mem_toList]
  · exact congrArg toList

end Table

/-! ## Objects -/

theorem StmtId.toJson_injective : Function.Injective StmtId.toJson := by
  intro a b h
  exact congrArg StmtId.mk (Json.nat.inj h)

theorem Json.option_map_inj {α : Type} {f : α → Json} (hf : Function.Injective f)
    (hnull : ∀ a, f a ≠ .null) {v w : Option α} (h : option (v.map f) = option (w.map f)) :
    v = w := by
  cases v with
  | none =>
    cases w with
    | none => rfl
    | some b => exact absurd h.symm (hnull b)
  | some a =>
    cases w with
    | none => exact absurd h (hnull a)
    | some b => exact congrArg some (hf h)

/-- Different symbols have different objects. -/
theorem Symbol.toJson_injective : Function.Injective Symbol.toJson := by
  rintro ⟨value, ids⟩ ⟨value', ids'⟩ h
  simp only [toJson, Json.obj.injEq, List.cons.injEq, Prod.mk.injEq, Json.arr.injEq, true_and,
    and_true] at h
  obtain ⟨hvalue, hids⟩ := h
  have hvalues := Json.option_map_inj StmtId.toJson_injective nofun hvalue
  rw [hvalues, List.map_injective_iff.2 StmtId.toJson_injective hids]

namespace Table

variable {t u : Table} {entries : List (String × Symbol)}

/-- **The JSON of a table is the object of its entries, whatever their order.** -/
theorem Lists.toJson_eq (h : t.Lists entries) : t.toJson = emitted entries := by
  rw [emitted, serialized, h.collect_eq]
  rfl

/-- **Tables with the same JSON say the same of each name.** -/
theorem toJson_eq_iff : t.toJson = u.toJson ↔ ∀ name, t.get? name = u.get? name := by
  have hfield : Function.Injective fun entry : String × Symbol => (entry.1, entry.2.toJson) := by
    intro a b h
    obtain ⟨hname, hsymbol⟩ := Prod.mk.inj h
    exact Prod.ext hname (Symbol.toJson_injective hsymbol)
  constructor
  · intro h name
    have hlists : t.toList = u.toList := List.map_injective_iff.2 hfield (Json.obj.inj h)
    refine Option.ext fun symbol => ?_
    rw [← mem_toList, hlists, mem_toList]
  · intro h
    rw [ext_get? h]

end Table

/-! ## Binding with a hash map -/

/-- Whether a hash map can come to list `next` when a name is given a symbol: what was there under
the name is replaced, and everything may have moved. -/
def Puts (entries : List (String × Symbol)) (name : String) (symbol : Symbol)
    (next : List (String × Symbol)) : Prop :=
  next.Perm ((name, symbol) :: entries.filter (·.1 ≠ name))

/-- What a hash map may list behind one more declaration. -/
inductive Records (entries : List (String × Symbol)) (d : Declared) :
    List (String × Symbol) → Prop
  | first {next : List (String × Symbol)} (hnew : ∀ entry ∈ entries, entry.1 ≠ d.name)
      (hputs : Puts entries d.name (.first d.kind d.id) next) : Records entries d next
  | again {symbol : Symbol} {next : List (String × Symbol)} (hold : (d.name, symbol) ∈ entries)
      (hputs : Puts entries d.name (symbol.again d.kind d.id) next) : Records entries d next

/-- What a hash map may list behind some declarations. -/
inductive Shuffled : List Declared → List (String × Symbol) → Prop
  | nothing : Shuffled [] []
  | behind {ds : List Declared} {d : Declared} {entries next : List (String × Symbol)}
      (h : Shuffled ds entries) (hd : Records entries d next) : Shuffled (ds ++ [d]) next

/-- **Giving a name a symbol leads from the orders of one table to those of another.** -/
theorem Table.Lists.puts_iff {t u : Table} {entries next : List (String × Symbol)} {name : String}
    {symbol : Symbol} (h : t.Lists entries)
    (hu : ∀ other, u.get? other = if name = other then some symbol else t.get? other) :
    Puts entries name symbol next ↔ u.Lists next := by
  have hput : u.Lists ((name, symbol) :: entries.filter (·.1 ≠ name)) := by
    refine ⟨List.nodup_cons.2 ⟨by simp, ?_⟩, fun other s => ?_⟩
    · exact h.nodup.sublist (List.filter_sublist.map _)
    · rw [hu, List.mem_cons, List.mem_filter, h.mem_iff]
      split
      · next heq => simp [heq, eq_comm]
      · next hne => simp [Ne.symm hne]
  exact hput.perm_iff.symm

/-- One more declaration changes the symbol of its own name only. -/
theorem Scope.get?_table_add (scope : Scope) (d : Declared) (name : String) :
    (scope.add d).table.get? name =
      if d.name = name then
        some (((scope.table.get? d.name).map fun symbol => symbol.again d.kind d.id).getD
          (.first d.kind d.id))
      else scope.table.get? name := by
  simp only [Table.get?, Scope.table, Std.ExtTreeMap.getElem?_map, Scope.names_add]
  split
  · cases scope.names[d.name]? with
    | none => exact congrArg some (Sightings.symbol_first d.kind d.site)
    | some seen => exact congrArg some (seen.symbol_again d.kind d.site)
  · rfl

/-- **One more declaration leads from the orders of the table so far to those of the next one.** -/
theorem Table.Lists.records_iff {scope : Scope} {entries next : List (String × Symbol)}
    {d : Declared} (h : scope.table.Lists entries) :
    Records entries d next ↔ (scope.add d).table.Lists next := by
  have hadd := scope.get?_table_add d
  cases hname : scope.table.get? d.name with
  | none =>
    rw [hname] at hadd
    rw [← h.puts_iff hadd]
    constructor
    · rintro (⟨-, hputs⟩ | ⟨hold, -⟩)
      · exact hputs
      · rw [h.mem_iff, hname] at hold
        contradiction
    · refine .first fun entry hentry heq => ?_
      have hget := (h.mem_iff entry.1 entry.2).1 hentry
      rw [heq, hname] at hget
      contradiction
  | some symbol =>
    rw [hname] at hadd
    rw [← h.puts_iff hadd]
    have hold := (h.mem_iff d.name symbol).2 hname
    constructor
    · rintro (⟨hnew, -⟩ | ⟨hold', hputs⟩)
      · exact absurd rfl (hnew _ hold)
      · rw [h.mem_iff, hname] at hold'
        rwa [← Option.some.inj hold'] at hputs
    · exact .again hold

/-- **Binding with a hash map may come to all orders of the table to which binding comes, and to
nothing else.** -/
theorem shuffled_iff {ds : List Declared} {entries : List (String × Symbol)} :
    Shuffled ds entries ↔ (scopeOf ds).table.Lists entries := by
  constructor
  · intro h
    induction h with
    | nothing => exact Table.lists_toList (scopeOf []).table
    | behind _ hd ih =>
      rw [scopeOf_concat]
      exact ih.records_iff.1 hd
  · intro h
    induction ds using List.reverseRecOn generalizing entries with
    | nil =>
      have hnil := (Table.lists_toList (scopeOf []).table).perm_iff.1 h
      rw [show (scopeOf []).table.toList = [] from rfl] at hnil
      rw [hnil.eq_nil]
      exact .nothing
    | append_singleton ds d ih =>
      rw [scopeOf_concat] at h
      -- any order of the table so far will do, since the next one may move everything
      have hlists := Table.lists_toList (scopeOf ds).table
      exact .behind (ih hlists) (hlists.records_iff.2 h)

/-- **What is emitted of a table does not depend on the order in which a hash map lists it: the
JSON of the table is an object with a field for each of its entries. The names come in the order of
their bytes, each one once and with its own symbol, so tables are emitted alike exactly if they say
the same of each name. However binding has shuffled the names of a script, the object and the text
that are emitted of them are the same.** -/
theorem serialization_canonical {t : Table} {entries : List (String × Symbol)}
    (h : t.Lists entries) :
    t.toJson = Table.emitted entries ∧
    Table.serialized entries = t.toList ∧
    t.Lists (Table.serialized entries) ∧
    (Table.serialized entries).Pairwise Table.NameBefore ∧
    (∀ (u : Table) others, u.Lists others →
      (Table.serialized entries = Table.serialized others ↔
        ∀ name, t.get? name = u.get? name) ∧
      (t.toJson = u.toJson ↔ ∀ name, t.get? name = u.get? name)) ∧
    ∀ source,
      (∃ shuffled, Shuffled (parse source).module.statements.declared shuffled) ∧
      ∀ shuffled, Shuffled (parse source).module.statements.declared shuffled →
        (compile source).module.locals.toJson = Table.emitted shuffled ∧
        (Table.collect shuffled).toJson.pretty 0 =
          (compile source).module.locals.toJson.pretty 0 := by
  have hserialized : Table.serialized entries = t.toList := congrArg Table.toList h.collect_eq
  refine ⟨h.toJson_eq, hserialized, ?_, ?_, fun u others hu => ⟨?_, Table.toJson_eq_iff⟩,
    fun source => ⟨?_, fun shuffled hrun => ?_⟩⟩
  · rw [hserialized]
    exact t.lists_toList
  · rw [hserialized]
    exact t.pairwise_toList_nameBefore
  · rw [h.serialized_eq_iff hu]
    exact ⟨fun heq name => by rw [heq], Table.ext_get?⟩
  · exact ⟨_, shuffled_iff.2 (Table.lists_toList _)⟩
  · have hlocals : (compile source).module.locals =
        (scopeOf (parse source).module.statements.declared).table :=
      congrArg Bound.table (bind_eq (parse source).module.statements)
    have hlists := shuffled_iff.1 hrun
    rw [hlocals]
    exact ⟨hlists.toJson_eq, by rw [hlists.collect_eq]⟩

/-- Two names against their order. -/
theorem serialization_against_order :
    let a : String × Symbol := ("a", ⟨none, [⟨1⟩]⟩)
    let b : String × Symbol := ("b", ⟨some ⟨0⟩, [⟨0⟩]⟩)
    (Table.collect [a, b]).Lists [b, a] ∧
      (Table.collect [a, b]).toJson = Table.emitted [b, a] ∧
      Table.serialized [b, a] = (Table.collect [a, b]).toList ∧
      (Table.serialized [b, a]).Pairwise Table.NameBefore := by
  intro a b
  have h : (Table.collect [a, b]).Lists [b, a] :=
    (Table.lists_collect (by decide)).perm_iff.2 (.swap a b [])
  obtain ⟨hjson, hserialized, -, hordered, -⟩ := serialization_canonical h
  exact ⟨h, hjson, hserialized, hordered⟩

end ScriptCheck
