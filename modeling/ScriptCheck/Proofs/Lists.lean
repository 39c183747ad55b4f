import Mathlib.Data.List.Forall2
import Mathlib.Data.List.TakeWhile

/-!
# The front and the end of a list, and its order

* `head_cases` — what comes first has a property, or nothing that comes first has it
* `takeWhile_front`, `dropWhile_front` — a run is taken from the front up to the first element that
  does not belong to it
* `exists_first_not` — the first element that does not have a property
* `exists_of_bind_eq_ok`, `exists_mapM_eq_ok`, `mapM_eq_error` — what can fail is done for all
  elements, or up to the first one for which it fails
* `foldl_max_le_iff`, `foldl_max_mem` — the greatest of some numbers
* `exists_map_eq` — a list without repetitions is mapped to every list of its length
* `pairwise_of_sublistForall₂` — what is related to things in order is in order
-/

namespace ScriptCheck

variable {α : Type} {p : α → Bool} {x : α} {xs ys zs : List α}

theorem head_cases (p : α → Prop) (xs : List α) :
    (∃ x ys, xs = x :: ys ∧ p x) ∨ ∀ x ∈ xs.head?, ¬ p x := by
  cases xs with
  | nil => exact .inr nofun
  | cons x ys =>
    by_cases hx : p x
    · exact .inl ⟨x, ys, rfl, hx⟩
    · refine .inr fun y hy => ?_
      obtain rfl : x = y := Option.some.inj hy
      exact hx

theorem head?_dropWhile (h : x ∈ (xs.dropWhile p).head?) : p x = false := by
  have := List.head?_dropWhile_not p xs
  rw [Option.mem_def.1 h] at this
  simpa using this

theorem takeWhile_front (hxs : ∀ x ∈ xs, p x = true) (hys : ∀ y ∈ ys.head?, p y = false) :
    (xs ++ ys).takeWhile p = xs := by
  rw [List.takeWhile_append_of_pos hxs]
  cases ys with
  | nil => simp
  | cons y ys => simp [hys y rfl]

theorem dropWhile_front (hxs : ∀ x ∈ xs, p x = true) (hys : ∀ y ∈ ys.head?, p y = false) :
    (xs ++ ys).dropWhile p = ys := by
  rw [List.dropWhile_append_of_pos hxs]
  cases ys with
  | nil => simp
  | cons y ys => simp [hys y rfl]

/-- What is not last in the end of a list is not last in the list. -/
theorem mem_dropLast_append (h : zs = xs ++ ys) (hx : x ∈ ys.dropLast) : x ∈ zs.dropLast := by
  have hys : ys ≠ [] := by
    rintro rfl
    simp at hx
  rw [h, List.dropLast_append_of_ne_nil hys]
  exact List.mem_append_right xs hx

/-- What comes to something for every element comes to it for all of them. -/
theorem mapM_eq_pure_map {m : Type → Type} [Monad m] [LawfulMonad m] {β : Type} {f : α → m β}
    {g : α → β} (h : ∀ x ∈ xs, f x = pure (g x)) : xs.mapM f = pure (xs.map g) := by
  induction xs with
  | nil => exact List.mapM_nil
  | cons x xs ih =>
    have hrest := ih fun y hy => h y (List.mem_cons_of_mem x hy)
    rw [List.mapM_cons, h x List.mem_cons_self, pure_bind, hrest, pure_bind, List.map_cons]

/-- What is found for every element is found for all of them. -/
theorem mapM_eq_some_map {β : Type} {f : α → Option β} {g : α → β}
    (h : ∀ x ∈ xs, f x = some (g x)) : xs.mapM f = some (xs.map g) := mapM_eq_pure_map h

/-- The first element that does not have a property, if there is one. -/
theorem exists_first_not {p : α → Prop} (h : ¬ ∀ x ∈ xs, p x) :
    ∃ front x back, xs = front ++ x :: back ∧ (∀ y ∈ front, p y) ∧ ¬ p x := by
  induction xs with
  | nil => exact absurd nofun h
  | cons x xs ih =>
    by_cases hx : p x
    · obtain ⟨front, y, back, rfl, hfront, hy⟩ := ih fun hxs => h (List.forall_mem_cons.2 ⟨hx, hxs⟩)
      exact ⟨x :: front, y, back, rfl, List.forall_mem_cons.2 ⟨hx, hfront⟩, hy⟩
    · exact ⟨[], x, xs, rfl, nofun, hx⟩

section

variable {β γ ε : Type} {f : α → Except ε β}

/-- What comes to something in two steps comes to something in the first one. -/
theorem exists_of_bind_eq_ok {y : Except ε β} {g : β → Except ε γ} {c : γ}
    (h : y >>= g = .ok c) : ∃ b, y = .ok b ∧ g b = .ok c := by
  cases y with
  | error e => contradiction
  | ok b => exact ⟨b, rfl, h⟩

/-- What fails for no element does not fail for the list. -/
theorem exists_mapM_eq_ok (h : ∀ x ∈ xs, ∃ y, f x = .ok y) : ∃ ys, xs.mapM f = .ok ys := by
  induction xs with
  | nil => exact ⟨[], rfl⟩
  | cons x xs ih =>
    obtain ⟨y, hy⟩ := h x List.mem_cons_self
    obtain ⟨ys, hys⟩ := ih fun z hz => h z (List.mem_cons_of_mem x hz)
    refine ⟨y :: ys, ?_⟩
    rw [List.mapM_cons, hy, hys]
    rfl

/-- What fails for an element first fails in this way for the list. -/
theorem mapM_eq_error {e : ε} (hxs : ∀ y ∈ xs, ∃ z, f y = .ok z) (hx : f x = .error e) :
    (xs ++ x :: ys).mapM f = .error e := by
  obtain ⟨zs, hzs⟩ := exists_mapM_eq_ok hxs
  rw [List.mapM_append, hzs, List.mapM_cons, hx]
  rfl

end

/-- The greatest number is no greater than a bound if no number is. -/
theorem foldl_max_le_iff {ns : List Nat} {m n : Nat} :
    ns.foldl max n ≤ m ↔ n ≤ m ∧ ∀ k ∈ ns, k ≤ m := by
  induction ns generalizing n with
  | nil => simp
  | cons k ns ih => rw [List.foldl_cons, ih, Nat.max_le, List.forall_mem_cons, and_assoc]

/-- The greatest number is one of the numbers. -/
theorem foldl_max_mem (ns : List Nat) (n : Nat) : ns.foldl max n ∈ n :: ns := by
  induction ns generalizing n with
  | nil => exact List.mem_cons_self
  | cons k ns ih =>
    rw [List.foldl_cons]
    rcases List.mem_cons.1 (ih (max n k)) with hmax | hmem
    · rw [hmax]
      rcases Nat.le_total n k with hle | hle
      · simp [Nat.max_eq_right hle]
      · simp [Nat.max_eq_left hle]
    · exact List.mem_cons_of_mem n (List.mem_cons_of_mem k hmem)

/-- A list without repetitions is mapped to every list of its length. -/
theorem exists_map_eq {as bs : List Nat} (has : as.Nodup) (hlength : as.length = bs.length) :
    ∃ f : Nat → Nat, as.map f = bs := by
  refine ⟨fun a => bs.getD (as.idxOf a) 0, List.ext_getElem (by simpa using hlength) ?_⟩
  intro i hi hi'
  rw [List.getElem_map, has.idxOf_getElem i]
  simp [hi']

section

variable {β : Type} {R : α → β → Prop} {S : β → β → Prop} {T : α → α → Prop} {as : List α}
  {bs : List β}

theorem exists_of_mem_sublistForall₂ (h : as.SublistForall₂ R bs) : ∀ a ∈ as, ∃ b ∈ bs, R a b := by
  obtain ⟨cs, hcs, hsub⟩ := List.sublistForall₂_iff.1 h
  intro a ha
  obtain ⟨i, hi, rfl⟩ := List.getElem_of_mem ha
  have hi' : i < cs.length := hcs.length_eq ▸ hi
  exact ⟨cs[i], hsub.subset (List.getElem_mem hi'), hcs.get hi hi'⟩

theorem pairwise_of_sublistForall₂ (h : as.SublistForall₂ R bs) (hbs : bs.Pairwise S)
    (hT : ∀ a a' b b', R a b → R a' b' → S b b' → T a a') : as.Pairwise T := by
  induction h with
  | nil => exact .nil
  | @cons a b as bs hab h ih =>
    obtain ⟨hb, hbs⟩ := List.pairwise_cons.1 hbs
    refine List.pairwise_cons.2 ⟨fun a' ha' => ?_, ih hbs⟩
    obtain ⟨b', hb', hab'⟩ := exists_of_mem_sublistForall₂ h a' ha'
    exact hT a a' b b' hab hab' (hb b' hb')
  | cons_right _ ih => exact ih hbs.of_cons

end

end ScriptCheck
