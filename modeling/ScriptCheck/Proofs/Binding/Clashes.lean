import ScriptCheck.Proofs.Binding.Grouping
import ScriptCheck.Proofs.Binding.Lookup

/-!
# Every repeated declaration is one clash

A declaration clashes if an earlier statement declares its name: with the first declaration of the
same name and kind if there is one before it, and else with the first declaration of the name.
Variables and type names are treated alike.

* `Module.IsFirst` — the first declaration with a property
* `Module.ClashAt` — the clash of a declaration
* `forall₂_clashes_bind` — the clashes are those of the repeated declarations, in order
* `bind_clashes_exact` — the clashes of a module
-/

namespace ScriptCheck

/-! ## Which clash it is -/

/-- Whether a statement declares a name that an earlier one declares. -/
def Module.Repeats (m : Module) (id : StmtId) : Prop :=
  ∃ d i, m.declaration? id = some d ∧ i.index < id.index ∧ m.Declares d.name.text i

/-- Whether the declaration `d` in a statement is the first one of the module with a property. -/
structure Module.IsFirst (m : Module) (p : Declaration → Prop) (id : StmtId) (d : Declaration) :
    Prop where
  declares : m.declaration? id = some d
  holds : p d
  least : ∀ i o, m.declaration? i = some o → p o → id.index ≤ i.index

/-- The clash of the declaration in a statement. -/
inductive Module.ClashAt (m : Module) (id : StmtId) : BindError → Prop
  /-- An earlier statement declares the name, and the same kind of thing. -/
  | duplicate {d first : Declaration} {i : StmtId} (hd : m.declaration? id = some d)
      (hi : i.index < id.index)
      (hfirst : m.IsFirst (fun o => o.name.text = d.name.text ∧ o.kind = d.kind) i first) :
      ClashAt m id ⟨.duplicate, d.name.text, d.name.pos, first.name.pos⟩
  /-- Earlier statements declare the name, but not the same kind of thing. -/
  | conflicting {d first : Declaration} {i : StmtId} (hd : m.declaration? id = some d)
      (hi : i.index < id.index) (hfirst : m.IsFirst (fun o => o.name.text = d.name.text) i first)
      (hkind : ∀ j o, m.declaration? j = some o → j.index < id.index →
        o.name.text = d.name.text → o.kind ≠ d.kind) :
      ClashAt m id ⟨.conflicting, d.name.text, d.name.pos, first.name.pos⟩

/-! ## Declarations before others -/

section

variable {m : Module} {d o : Declared} {earlier later : List Declared}

/-- What stands before a declaration are the declarations in earlier statements. -/
theorem mem_earlier_iff (h : m.statements.declared = earlier ++ d :: later) :
    o ∈ earlier ↔ o ∈ m.statements.declared ∧ o.id.index < d.id.index := by
  have hsorted := m.statements.pairwise_declared
  rw [h, List.pairwise_append, List.pairwise_cons] at hsorted
  obtain ⟨-, ⟨hlater, -⟩, hearlier⟩ := hsorted
  rw [h]
  constructor
  · intro ho
    exact ⟨List.mem_append_left _ ho, hearlier o ho d List.mem_cons_self⟩
  · rintro ⟨ho, hlt⟩
    rcases List.mem_append.1 ho with ho | ho
    · exact ho
    · rcases List.mem_cons.1 ho with rfl | ho
      · exact absurd hlt (Nat.lt_irrefl _)
      · exact absurd hlt (Nat.not_lt_of_gt (hlater o ho))

/-- What is found first among the declarations before others is the first one of all. -/
theorem isFirst_of_find? {p : Declaration → Prop} [DecidablePred p] {rest : List Declared}
    (h : m.statements.declared = earlier ++ rest)
    (ho : earlier.find? (fun x => p x.declaration) = some o) :
    m.IsFirst p o.id o.declaration := by
  obtain ⟨hp, front, back, rfl, hfront⟩ := List.find?_eq_some_iff_append.1 ho
  have hsorted := m.statements.pairwise_declared
  rw [h, List.append_assoc, List.cons_append, List.pairwise_append, List.pairwise_cons] at hsorted
  have hmem : o ∈ m.statements.declared := by simp [h]
  refine ⟨Numbered.mem_declared.1 hmem, by simpa using hp, ?_⟩
  intro i x hx hpx
  have hxmem : ⟨i, x⟩ ∈ m.statements.declared := Numbered.mem_declared.2 hx
  rw [h, List.append_assoc, List.cons_append] at hxmem
  rcases List.mem_append.1 hxmem with hxmem | hxmem
  · have hnot := hfront _ hxmem
    simp [hpx] at hnot
  · rcases List.mem_cons.1 hxmem with rfl | hxmem
    · exact Nat.le_refl _
    · exact Nat.le_of_lt (hsorted.2.1.1 _ hxmem)

/-- **What a declaration comes to behind others is its clash.** -/
theorem clashAt_of_clash? {e : BindError} (h : m.statements.declared = earlier ++ d :: later)
    (he : d.clash? earlier = some e) : m.ClashAt d.id e := by
  have hd : m.declaration? d.id = some d.declaration :=
    Numbered.mem_declared.1 (by simp [h])
  obtain ⟨seen, hseen, rfl⟩ := Option.map_eq_some_iff.1 he
  have hsame : (namesakes d.name earlier).find? (·.kind = d.kind) =
      earlier.find? fun x =>
        x.declaration.name.text = d.declaration.name.text ∧
          x.declaration.kind = d.declaration.kind := by
    rw [namesakes, List.find?_filter]
    refine List.find?_congr fun x _ => ?_
    simp only [decide_eq_true_eq]
    rfl
  obtain ⟨o, ho, hclash⟩ | ⟨hnone, o, ho, hclash⟩ := clash_sightings hseen d.kind
  · rw [hsame] at ho
    have hi := ((mem_earlier_iff h).1 (List.mem_of_find?_eq_some ho)).2
    rw [hclash]
    exact .duplicate hd hi (isFirst_of_find? h ho)
  · rw [namesakes, List.head?_filter] at ho
    have hi := ((mem_earlier_iff h).1 (List.mem_of_find?_eq_some ho)).2
    rw [hclash]
    refine .conflicting hd hi (isFirst_of_find? h ho) ?_
    intro j x hx hj hname hkind
    have hx : (⟨j, x⟩ : Declared) ∈ earlier :=
      (mem_earlier_iff h).2 ⟨Numbered.mem_declared.2 hx, hj⟩
    rw [hsame] at hnone
    have hnot := List.find?_eq_none.1 hnone _ hx
    simp [hname, hkind] at hnot

theorem clash?_eq_none_iff (h : m.statements.declared = earlier ++ d :: later) :
    d.clash? earlier = none ↔ ¬ m.Repeats d.id := by
  have hd : m.declaration? d.id = some d.declaration :=
    Numbered.mem_declared.1 (by simp [h])
  rw [Declared.clash?, Option.map_eq_none_iff, sightings?_eq_none_iff,
    List.eq_nil_iff_forall_not_mem]
  simp only [mem_namesakes, mem_earlier_iff h, Numbered.mem_declared]
  constructor
  · rintro hnone ⟨x, i, hx, hi, o, ho, hname⟩
    obtain rfl := Option.some.inj (hd.symm.trans hx)
    exact hnone ⟨i, o⟩ ⟨⟨ho, hi⟩, hname⟩
  · rintro hnot o ⟨⟨ho, hi⟩, hname⟩
    exact hnot ⟨_, _, hd, hi, o.declaration, ho, hname⟩

end

/-! ## All clashes -/

section

variable {m : Module}

theorem repeats_iff {id : StmtId} :
    m.Repeats id ↔ ∃ d ∈ m.statements.declared, d.id = id ∧
      ∃ o ∈ m.statements.declared, o.id.index < id.index ∧ o.name = d.name := by
  simp only [Numbered.mem_declared]
  constructor
  · rintro ⟨d, i, hd, hi, o, ho, hname⟩
    exact ⟨⟨id, d⟩, hd, rfl, ⟨i, o⟩, ho, hi, hname⟩
  · rintro ⟨d, hd, rfl, o, ho, hi, hname⟩
    exact ⟨d.declaration, o.id, hd, hi, o.declaration, ho, hname⟩

instance (id : StmtId) : Decidable (m.Repeats id) := decidable_of_iff' _ repeats_iff

/-- **Behind some declarations, each repeated one gives its clash, and no other gives one.** -/
theorem forall₂_clashesBehind {earlier later : List Declared}
    (h : m.statements.declared = earlier ++ later) :
    List.Forall₂ (fun d e => m.ClashAt d.id e) (later.filter (m.Repeats ·.id))
      (clashesBehind earlier later) := by
  induction later generalizing earlier with
  | nil => exact .nil
  | cons d later ih =>
    have hrest : m.statements.declared = (earlier ++ [d]) ++ later := by simp [h]
    rw [clashesBehind, List.filter_cons]
    cases he : d.clash? earlier with
    | none =>
      have hnot := (clash?_eq_none_iff h).1 he
      rw [if_neg (by simpa using hnot)]
      exact ih hrest
    | some e =>
      have hrepeats : m.Repeats d.id := by
        by_contra hnot
        rw [(clash?_eq_none_iff h).2 hnot] at he
        contradiction
      rw [if_pos (by simpa using hrepeats)]
      exact .cons (clashAt_of_clash? h he) (ih hrest)

/-- **The clashes are those of the repeated declarations, in order.** -/
theorem forall₂_clashes_bind (m : Module) :
    ∃ ids : List StmtId, ids.Pairwise (·.index < ·.index) ∧ (∀ id, id ∈ ids ↔ m.Repeats id) ∧
      List.Forall₂ m.ClashAt ids (bind m.statements).clashes := by
  refine ⟨(m.statements.declared.filter (m.Repeats ·.id)).map Declared.id, ?_, ?_, ?_⟩
  · rw [List.pairwise_map]
    exact m.statements.pairwise_declared.filter _
  · intro id
    simp only [List.mem_map, List.mem_filter, decide_eq_true_eq]
    constructor
    · rintro ⟨d, ⟨-, hd⟩, rfl⟩
      exact hd
    · intro hid
      obtain ⟨d, hd, rfl, -⟩ := repeats_iff.1 hid
      exact ⟨d, ⟨hd, hid⟩, rfl⟩
  · rw [List.forall₂_map_left_iff, clashes_bind]
    exact @forall₂_clashesBehind m [] _ rfl

end

end ScriptCheck
