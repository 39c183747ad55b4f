/-!
# Byte offsets

Positions in a script count the bytes of its UTF-8 form.
-/

namespace ScriptCheck.Text

/-- The bytes that a text takes. -/
def byteSize (cs : List Char) : Nat := cs.foldr (fun c n => c.utf8Size + n) 0

@[simp] theorem byteSize_nil : byteSize [] = 0 := rfl

@[simp] theorem byteSize_cons (c : Char) (cs : List Char) :
    byteSize (c :: cs) = c.utf8Size + byteSize cs := rfl

@[simp] theorem byteSize_append (cs ds : List Char) :
    byteSize (cs ++ ds) = byteSize cs + byteSize ds := by
  induction cs with
  | nil => simp
  | cons c cs ih => simp [ih, Nat.add_assoc]

/-- The bytes of a string are those of its characters. -/
@[simp] theorem byteSize_toList (s : String) : byteSize s.toList = s.utf8ByteSize := by
  rw [← String.ofList_toList (s := s), String.toList_ofList]
  induction s.toList with
  | nil => rfl
  | cons c cs ih => simp [ih, String.ofList_cons]

/-- Goes on with `takeBytes?`, the characters taken so far in front, last one first. -/
def takeBytesFrom (taken : List Char) : List Char → Nat → Option (List Char)
  | _, 0 => some taken.reverse
  | [], _ + 1 => none
  | c :: cs, n + 1 =>
    if c.utf8Size ≤ n + 1 then takeBytesFrom (c :: taken) cs (n + 1 - c.utf8Size) else none

/-- The characters before a byte offset. There are none to give if the offset lies inside a
character or behind the end. -/
def takeBytes? (cs : List Char) (offset : Nat) : Option (List Char) := takeBytesFrom [] cs offset

end ScriptCheck.Text
