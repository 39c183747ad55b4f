/-!
# Values numbered in the order in which they arrive

The statements of a module are known by their numbers. A number is a type of its own, so that it is
not mistaken for an offset or a size.
-/

namespace ScriptCheck

/-- The number of a statement in its module; the first one has the number zero. -/
structure StmtId where
  index : Nat
  deriving DecidableEq, Repr

/-- Values with the numbers zero, one and so on. -/
structure Numbered (α : Type) where
  toArray : Array α
  deriving DecidableEq, Repr

namespace Numbered

variable {α : Type}

/-- No values. -/
def empty : Numbered α := ⟨#[]⟩

/-- The values in the order of their numbers. -/
def toList (v : Numbered α) : List α := v.toArray.toList

/-- The values of a list, numbered from the front. -/
def ofList (xs : List α) : Numbered α := ⟨xs.toArray⟩

/-- How many values there are. -/
def size (v : Numbered α) : Nat := v.toArray.size

/-- Gives a value the next number. -/
def push (v : Numbered α) (x : α) : StmtId × Numbered α := (⟨v.size⟩, ⟨v.toArray.push x⟩)

/-- The value with a number. -/
def get? (v : Numbered α) (id : StmtId) : Option α := v.toArray[id.index]?

/-- The value with the smallest number. -/
def first? (v : Numbered α) : Option α := v.toArray[0]?

/-- The value with the greatest number. -/
def last? (v : Numbered α) : Option α := v.toArray.back?

/-- The values with their numbers, in order. -/
def keyed (v : Numbered α) : List (StmtId × α) :=
  v.toList.zipIdx.map fun (x, i) => (⟨i⟩, x)

@[simp] theorem toList_ofList (xs : List α) : (ofList xs).toList = xs := by
  simp [ofList, toList]

@[simp] theorem toList_push (v : Numbered α) (x : α) :
    (v.push x).2.toList = v.toList ++ [x] := by
  simp [push, toList]

theorem get?_push_self (v : Numbered α) (x : α) : (v.push x).2.get? (v.push x).1 = some x := by
  simp [push, get?, size]

end Numbered

end ScriptCheck
