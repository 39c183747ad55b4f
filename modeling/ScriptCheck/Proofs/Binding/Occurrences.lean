import ScriptCheck.Proofs.Owner
import ScriptCheck.Proofs.Tree.Anchors

/-!
# Where clashing names are written

A clash is reported with two places: where a name is declared once more, and where the declaration
is with which it clashes. Since the parts of a tree stand in order, the numbers of statements are in
the order in which the names of their declarations are written, also where statements between them
could not be read.

* `DeclaredAt` — a statement declares a name that is an identifier of the script
* `DeclaredAt.pos_lt` — a later declaration has its name further behind
* `binding_diagnostics_occur` — the places of a clash
-/

namespace ScriptCheck

/-! ## Declarations as parts of a module -/

section

variable {m : Module} {i j id : StmtId} {o d : Declaration} {s : Stmt}

/-- The name of a declaration is a part of it that has no parts. -/
theorem name_mem_leaves (h : s.declaration? = some d) :
    Node.name d.name ∈ s.nodes.filter Node.isLeaf := by
  refine List.mem_filter.2 ⟨?_, rfl⟩
  cases s with
  | expression e => contradiction
  | «variable» v | typeAlias a =>
    obtain rfl := Option.some.inj h
    exact List.mem_cons_of_mem _ List.mem_cons_self

theorem exists_statement (h : m.declaration? id = some d) :
    ∃ s, m.statements.toList[id.index]? = some s ∧ s.declaration? = some d := by
  obtain ⟨s, hs, hd⟩ := Option.bind_eq_some_iff.1 h
  refine ⟨s, ?_, hd⟩
  simpa [Numbered.toList, Module.statement?, Numbered.get?] using hs

theorem name_mem_nodes (h : m.declaration? id = some d) : Node.name d.name ∈ m.nodes := by
  obtain ⟨s, hs, hd⟩ := exists_statement h
  refine List.mem_flatMap.2 ⟨s, List.mem_of_getElem? hs, ?_⟩
  exact (List.mem_filter.1 (name_mem_leaves hd)).1

/-- Where the parts of a module stand in order, declarations are numbered in the order of their
names. -/
theorem name_pos_lt (hm : (m.nodes.filter Node.isLeaf).Pairwise (·.pos < ·.pos))
    (hi : m.declaration? i = some o) (hj : m.declaration? j = some d) (hij : i.index < j.index) :
    o.name.pos < d.name.pos := by
  obtain ⟨s, hs, ho⟩ := exists_statement hi
  obtain ⟨t, ht, hd⟩ := exists_statement hj
  rw [Module.nodes, List.filter_flatMap, List.pairwise_flatMap] at hm
  obtain ⟨hilt, rfl⟩ := List.getElem?_eq_some_iff.1 hs
  obtain ⟨hjlt, rfl⟩ := List.getElem?_eq_some_iff.1 ht
  have hbetween := List.pairwise_iff_getElem.1 hm.2 i.index j.index hilt hjlt hij
  exact hbetween _ (name_mem_leaves ho) _ (name_mem_leaves hd)

/-- A clash is between a declaration and an earlier one of the same name. -/
theorem Module.ClashAt.exists_earlier {e : BindError} (h : m.ClashAt id e) :
    ∃ i o d, i.index < id.index ∧ m.declaration? i = some o ∧ m.declaration? id = some d ∧
      o.name = ⟨e.name, e.first⟩ ∧ d.name = ⟨e.name, e.pos⟩ := by
  have hname (o d : Declaration) (h : o.name.text = d.name.text) :
      o.name = ⟨d.name.text, o.name.pos⟩ := by rw [← h]
  cases h with
  | @duplicate d first i hd hi hfirst =>
    exact ⟨i, first, d, hi, hfirst.declares, hd, hname _ _ hfirst.holds.1, rfl⟩
  | @conflicting d first i hd hi hfirst _ =>
    exact ⟨i, first, d, hi, hfirst.declares, hd, hname _ _ hfirst.holds, rfl⟩

end

/-! ## Scripts -/

/-- Whether a statement of the module of a script declares a name that stands in the script. -/
structure DeclaredAt (source : String) (id : StmtId) (name : Identifier) : Prop where
  declares : ∃ d, (compile source).module.declaration? id = some d ∧ d.name = name
  written : ⟨.identifier, name.pos, name.text⟩ ∈ tokens source

section

variable {source : String} {i j id : StmtId} {n o : Identifier} {d : Declaration}

/-- Every declaration has its name in the script, whatever is wrong elsewhere. -/
theorem declaredAt_of_declaration? (h : (parse source).module.declaration? id = some d) :
    DeclaredAt source id d.name := by
  refine ⟨⟨d, h, rfl⟩, ?_⟩
  obtain ⟨t, ht, hkind, hname⟩ := identifier_of_mem_nodes (name_mem_nodes h) rfl
  rw [← hname, ← hkind]
  exact ht

/-- **A later declaration has its name further behind.** -/
theorem DeclaredAt.pos_lt (ho : DeclaredAt source i o) (hn : DeclaredAt source j n)
    (hij : i.index < j.index) : o.pos < n.pos := by
  obtain ⟨d, hd, rfl⟩ := ho.declares
  obtain ⟨d', hd', rfl⟩ := hn.declares
  exact name_pos_lt (pairwise_pos_leaves source) hd hd' hij

/-- The places of a clash are those of two declared names, the earlier one first. -/
theorem Module.ClashAt.declaredAt {e : BindError} (h : (parse source).module.ClashAt id e) :
    DeclaredAt source id ⟨e.name, e.pos⟩ ∧
      ∃ i, i.index < id.index ∧ DeclaredAt source i ⟨e.name, e.first⟩ := by
  obtain ⟨i, o, d, hi, ho, hd, hoName, hdName⟩ := h.exists_earlier
  refine ⟨hdName ▸ declaredAt_of_declaration? hd, i, hi, ?_⟩
  exact hoName ▸ declaredAt_of_declaration? ho

/-- The diagnostics of clashes are those of the last stage. -/
theorem filter_binding_diagnostics (source : String) :
    (compile source).diagnostics.filter (·.stage = .binding) =
      (compile source).clashes.map BindError.toDiagnostic := by
  have hparse : (parse source).diagnostics.filter (·.stage = .binding) = [] :=
    List.filter_eq_nil_iff.2 fun d hd => by simpa using stage_ne_binding hd
  have hclashes : ((compile source).clashes.map BindError.toDiagnostic).filter
      (·.stage = .binding) = (compile source).clashes.map BindError.toDiagnostic :=
    List.filter_eq_self.2 fun d hd => by
      obtain ⟨e, -, rfl⟩ := List.mem_map.1 hd
      rfl
  show ((parse source).diagnostics ++ _).filter _ = _
  rw [List.filter_append, hparse, hclashes, List.nil_append]

/-- The clashes are those of some statements, in the order of these. -/
theorem exists_clashing_statements (source : String) :
    ∃ ids : List StmtId, ids.Pairwise (·.index < ·.index) ∧
      (compile source).clashes.SublistForall₂ (flip (parse source).module.ClashAt) ids := by
  obtain ⟨ids, hids, -, hclashes⟩ := forall₂_clashes_bind (parse source).module
  exact ⟨ids, hids, List.sublistForall₂_iff.2 ⟨ids, hclashes.flip, .refl _⟩⟩

/-- The clashes are in the order in which the names are declared once more. -/
theorem pairwise_pos_clashes (source : String) :
    (compile source).clashes.Pairwise (·.pos < ·.pos) := by
  obtain ⟨ids, hids, hclashes⟩ := exists_clashing_statements source
  refine pairwise_of_sublistForall₂ hclashes hids fun e f i j he hf hij => ?_
  exact (Module.ClashAt.declaredAt he).1.pos_lt (Module.ClashAt.declaredAt hf).1 hij

theorem exists_clashAt {e : BindError} (he : e ∈ (compile source).clashes) :
    ∃ id, (parse source).module.ClashAt id e := by
  obtain ⟨ids, -, hclashes⟩ := exists_clashing_statements source
  obtain ⟨id, -, hclash⟩ := exists_of_mem_sublistForall₂ hclashes e he
  exact ⟨id, hclash⟩

end

/-- **The diagnostic of a clash quotes a name and has two places, an earlier and a later one. At
both of them the name is an identifier of the script and is declared by a statement of its module,
at the earlier one by an earlier statement. The later places only go up.** -/
theorem binding_diagnostics_occur (source : String) :
    (∀ d ∈ (compile source).diagnostics, d.stage = .binding →
      ∃ name label i j, d.labels = [label] ∧ label.pos < d.pos ∧
        d.message ∈ ["duplicate declaration of `" ++ name ++ "`",
          "conflicting declaration of `" ++ name ++ "`"] ∧
        i.index < j.index ∧ DeclaredAt source i ⟨name, label.pos⟩ ∧
        DeclaredAt source j ⟨name, d.pos⟩) ∧
      ((compile source).diagnostics.filter (·.stage = .binding)).Pairwise (·.pos < ·.pos) := by
  rw [filter_binding_diagnostics, List.pairwise_map]
  refine ⟨fun d hd hstage => ?_, pairwise_pos_clashes source⟩
  have hclash : d ∈ (compile source).clashes.map BindError.toDiagnostic := by
    rw [← filter_binding_diagnostics]
    exact List.mem_filter.2 ⟨hd, by simpa using hstage⟩
  obtain ⟨e, he, rfl⟩ := List.mem_map.1 hclash
  obtain ⟨j, hj⟩ := exists_clashAt he
  obtain ⟨hagain, i, hij, hfirst⟩ := hj.declaredAt
  have hmessage : e.message ∈ ["duplicate declaration of `" ++ e.name ++ "`",
      "conflicting declaration of `" ++ e.name ++ "`"] := by
    unfold BindError.message
    cases e.clash <;> simp
  exact ⟨e.name, _, i, j, rfl, hfirst.pos_lt hagain hij, hmessage, hij, hfirst, hagain⟩

end ScriptCheck
