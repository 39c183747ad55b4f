/-!
# What a text shows without its control sequences

A text can hold control characters, and control sequences that tell a terminal how to show what
follows. Where they are not wanted they are left out, and only the rest is shown.

A sequence starts with an escape character, and its form says where it ends. White space that breaks
a sequence off is shown, and with it the text up to the next control character; there the sequence
goes on.

* `Sequence.next` — how a sequence goes on, or that it has ended
* `Mode.step` — whether a character is shown, and where in a text or sequence the next one stands
* `visible` — the characters that are shown
-/

namespace ScriptCheck.Text

/-! ## Characters -/

/-- The character that starts a control sequence. -/
def escapeChar : Char := '\x1b'

/-- Whether the character ends a control sequence of whatever form: cancel and substitute. -/
def isCancel (c : Char) : Bool := c == '\x18' || c == '\x1a'

/-- Whether the character is a control that is shown like a blank. -/
def isShownControl (c : Char) : Bool := c == '\t' || c == '\n' || c == '\x0c' || c == '\r'

/-- Whether a text shows the character. -/
def isShown (c : Char) : Bool :=
  isShownControl c || 0x20 ≤ c.toNat && c.toNat != 0x7F

/-- Whether the code point lies in a closed range. -/
def liesIn (c : Char) (first last : Nat) : Bool := first ≤ c.toNat && c.toNat ≤ last

/-- Whether the terminator of a string, 9C, is one of the bytes that encode the character. It can
only be one of the bytes behind the first, each of which holds six bits. -/
def hasTerminatorByte (c : Char) : Bool :=
  c.toNat ≥ 0x80 && c.toNat % 0x40 == 0x1C ||
    c.toNat ≥ 0x800 && c.toNat / 0x40 % 0x40 == 0x1C ||
    c.toNat ≥ 0x10000 && c.toNat / 0x1000 % 0x40 == 0x1C

/-! ## Sequences -/

/-- A control sequence, as far as it has been read. -/
inductive Sequence where
  /-- An escape character. -/
  | escape
  /-- An escape character and what stands between it and the last character. -/
  | intermediate
  /-- A control sequence proper: parameters, and a letter at its end. -/
  | control
  /-- The beginning of a device control string. -/
  | device
  /-- A device control string up to its parameters. -/
  | deviceParameters
  /-- A device control string up to what stands between its parameters and its content. -/
  | deviceIntermediate
  /-- The content of a device control string, or another string for a program. -/
  | content
  /-- A command for the operating system. -/
  | command
  deriving DecidableEq, Repr

namespace Sequence

/-- Whether white space breaks the sequence off. Strings swallow it. -/
def isBreakable : Sequence → Bool
  | .escape | .intermediate | .control => true
  | _ => false

/-- The sequence behind an escape character and another character. -/
def ofIntroducer (c : Char) : Option Sequence :=
  match c with
  | '[' => some .control
  | 'P' => some .device
  | ']' => some .command
  | 'X' | '^' | '_' => some .content
  | _ =>
    if liesIn c 0x20 0x2F then some .intermediate
    else if liesIn c 0x30 0x7E then none
    else some .escape

/-- How a sequence goes on with a character that neither starts a new one nor cancels it. -/
def next (c : Char) : Sequence → Option Sequence
  | .escape => ofIntroducer c
  | .intermediate => if liesIn c 0x30 0x7E then none else some .intermediate
  | .control => if liesIn c 0x40 0x7E then none else some .control
  | .device =>
    if liesIn c 0x20 0x2F then some .deviceIntermediate
    else if liesIn c 0x30 0x3F then some .deviceParameters
    else if liesIn c 0x40 0x7E then some .content
    else some .device
  | .deviceParameters =>
    if liesIn c 0x20 0x2F then some .deviceIntermediate
    else if liesIn c 0x3C 0x7E then some .content
    else some .deviceParameters
  | .deviceIntermediate =>
    if liesIn c 0x30 0x7E then some .content else some .deviceIntermediate
  | .content => if hasTerminatorByte c then none else some .content
  | .command => if c == '\x07' then none else some .command

end Sequence

/-! ## Texts -/

/-- Where a character stands. -/
inductive Mode where
  /-- In a text. -/
  | text
  /-- In a sequence. -/
  | inside (s : Sequence)
  /-- In a text, up to the next control character. There a sequence goes on. -/
  | suspended (s : Sequence)
  deriving DecidableEq, Repr

namespace Mode

/-- The mode behind a character that is not shown, in a sequence. -/
def afterHidden (c : Char) (s : Sequence) : Mode :=
  if c == escapeChar then .inside .escape
  else if isCancel c then .text
  else
    match s.next c with
    | some s => .inside s
    | none => .text

/-- Whether a character is shown, and the mode behind it. -/
def step (c : Char) : Mode → Bool × Mode
  | .text =>
    if isShown c then (true, .text)
    else (false, if c == escapeChar then .inside .escape else .text)
  | .inside s =>
    if s.isBreakable && isShownControl c then (true, .suspended s)
    else (false, afterHidden c s)
  | .suspended s =>
    if isShown c then (true, if c.toNat < 0x80 then .suspended s else .text)
    else (false, afterHidden c s)

end Mode

/-- The characters that are shown of a text whose first character stands in some mode. -/
def visibleFrom (mode : Mode) : List Char → List Char
  | [] => []
  | c :: cs =>
    let (shown, mode) := mode.step c
    if shown then c :: visibleFrom mode cs else visibleFrom mode cs

/-- What a text shows. -/
def visible (s : String) : String := String.ofList (visibleFrom .text s.toList)

/-- A text of nothing but shown characters is shown as it is. -/
theorem visibleFrom_text {cs : List Char} (h : cs.all isShown = true) :
    visibleFrom .text cs = cs := by
  induction cs with
  | nil => rfl
  | cons c cs ih =>
    simp only [List.all_cons, Bool.and_eq_true] at h
    simp [visibleFrom, Mode.step, h.1, ih h.2]

/-- Nothing is shown but what a text shows. -/
theorem isShown_of_mem_visibleFrom {mode : Mode} {c : Char} {cs : List Char}
    (h : c ∈ visibleFrom mode cs) : isShown c = true := by
  induction cs generalizing mode with
  | nil => simp [visibleFrom] at h
  | cons d ds ih =>
    have shown : (mode.step d).1 = true → isShown d = true := by
      unfold Mode.step
      cases mode with
      | text => dsimp only; split <;> simp_all
      | inside s => dsimp only; split <;> simp_all [isShown]
      | suspended s => dsimp only; split <;> simp_all
    simp only [visibleFrom] at h
    split at h
    · next hd =>
      rcases List.mem_cons.1 h with rfl | h
      · exact shown hd
      · exact ih h
    · exact ih h

end ScriptCheck.Text
