import ScriptCheck.Text.Emoji
import ScriptCheck.Text.Ligature

/-!
# Column width

How many columns of a terminal a text takes. Some sequences take fewer columns than their
characters do: ligatures, an emoji with a selector or a skin tone, emoji that are joined into one, a
flag of two regional indicators, and a flag with the code of a subdivision.

In each of these it is the later characters that change the width of the earlier ones. A text is
therefore measured from its end, and `Follower` is what a character has to know of the text behind
it.
-/

namespace ScriptCheck.Text

/-! ## Sequences -/

/-- The keycap encloses the character before it. -/
def keycap : Char := '\u20E3'

/-- The black flag, which a code of tags turns into the flag of a subdivision. -/
def blackFlag : Char := Char.ofNat 0x1F3F4

/-- The end of a code of tags. -/
def endTag : Char := Char.ofNat 0xE007F

/-- Whether the character is the tag of a letter. -/
def isLetterTag (c : Char) : Bool := 0xE0061 ≤ c.toNat && c.toNat ≤ 0xE007A

/-- Whether the character is the tag of a digit. -/
def isDigitTag (c : Char) : Bool := 0xE0030 ≤ c.toNat && c.toNat ≤ 0xE0039

/-- The code of a subdivision, as far as it has been read from its end: up to six letters, or up to
three digits with no more than four letters behind them. -/
inductive TagCode where
  | letters (n : Nat)
  | digits (n : Nat)
  deriving DecidableEq, Repr

namespace TagCode

/-- Nothing of the code has been read. -/
def empty : TagCode := .letters 0

/-- One more tag in front of the code. -/
def before? (c : Char) : TagCode → Option TagCode
  | .letters n =>
    if isLetterTag c && n < 6 then some (.letters (n + 1))
    else if isDigitTag c && n ≤ 4 then some (.digits 1)
    else none
  | .digits n => if isDigitTag c && n < 3 then some (.digits (n + 1)) else none

/-- Whether the code can name a subdivision. -/
def isComplete : TagCode → Bool
  | .letters n => 3 ≤ n
  | .digits n => n == 3

end TagCode

/-- A selector asks for one of the presentations of the character before it. -/
inductive Selector where
  | text
  | emoji
  deriving DecidableEq, Repr

/-- The selector that a character is. -/
def Selector.ofChar? (c : Char) : Option Selector :=
  if c == '\uFE0E' then some .text
  else if c == '\uFE0F' then some .emoji
  else none

/-- What a character has to know of the text behind it, a selector apart. -/
inductive Tail where
  /-- Nothing that matters. -/
  | plain
  /-- An emoji. -/
  | emoji
  /-- A skin tone. -/
  | skinTone
  /-- One regional indicator. -/
  | indicator
  /-- Two or more regional indicators. -/
  | indicators
  /-- A joiner and an emoji. -/
  | joined
  /-- A keycap, a joiner and an emoji. -/
  | joinedKeycap
  /-- A regional indicator, a joiner and an emoji. -/
  | joinedIndicator
  /-- An even number of regional indicators, a joiner and an emoji. -/
  | joinedEven
  /-- Regional indicators, three or another odd number, a joiner and an emoji. -/
  | joinedOdd
  /-- The code of a subdivision, its end tag, a joiner and an emoji. -/
  | tagged (code : TagCode)
  /-- The end of a ligature. -/
  | ligature (l : LigatureTail)
  deriving DecidableEq, Repr

/-- What a character has to know of the text behind it: the selector that stands directly behind
it, if there is one, and the rest. -/
structure Follower where
  tail : Tail
  selector : Option Selector
  deriving DecidableEq, Repr

/-- Nothing follows that matters. -/
def Follower.nothing : Follower := ⟨.plain, none⟩

/-- What a character is to the one before it. -/
def Tail.ofChar (c : Char) : Tail :=
  if isRegionalIndicator c then .indicator
  else if isSkinTone c then .skinTone
  else if isEmojiPresentation c then .emoji
  else
    match LigatureTail.ofChar? c with
    | some l => .ligature l
    | none => .plain

/-- Puts a selector before what follows. It hides what it stands before, except the end of a
ligature, and joined emoji behind an emoji selector. -/
def Follower.select (f : Follower) (s : Selector) : Follower :=
  match f.tail, s with
  | .ligature l, s => ⟨.ligature l, some s⟩
  | .joined, .emoji => ⟨.joined, some .emoji⟩
  | .joinedKeycap, .emoji => ⟨.joinedKeycap, some .emoji⟩
  | _, s => ⟨.plain, some s⟩

/-- What is left of a follower whose selector had no effect: of what it stood before, only the end
of a ligature counts on. -/
def Follower.dropSelector (f : Follower) : Follower :=
  match f.tail, f.selector with
  | _, none => f
  | .ligature l, some _ => ⟨.ligature l, none⟩
  | _, some _ => .nothing

/-- A character that counts for itself, before a text of so many columns. -/
def measureAlone (c : Char) (columns : Nat) : Nat × Tail := (columns + charWidth c, Tail.ofChar c)

/-- A character before a text of so many columns, with no selector between them: the columns of
both, and what they are to the next character on the left. -/
def measureBefore (c : Char) (columns : Nat) : Tail → Nat × Tail
  | .plain => measureAlone c columns
  | .emoji => if c == joiner then (columns, .joined) else measureAlone c columns
  | .skinTone =>
    if isModifierBase c then (columns, .emoji)
    else if c == joiner then (columns, .joined)
    else measureAlone c columns
  | .indicator =>
    if isRegionalIndicator c then (columns + 1, .indicators) else measureAlone c columns
  | .indicators =>
    if isRegionalIndicator c then (columns + 1, .indicators)
    else if c == joiner then (columns, .joined)
    else measureAlone c columns
  | .joined =>
    if c == keycap then (columns, .joinedKeycap)
    else if c == endTag then (columns, .tagged .empty)
    else if isRegionalIndicator c then (columns + 1, .joinedIndicator)
    else if isSkinTone c then (columns, .skinTone)
    else if isEmojiPresentation c then (columns, .emoji)
    else measureAlone c columns
  | .joinedKeycap => measureAlone c columns
  | .joinedIndicator =>
    if isRegionalIndicator c then (columns - 1, .joinedEven) else measureAlone c columns
  | .joinedEven =>
    if isRegionalIndicator c then (columns + 3, .joinedOdd)
    else if c == joiner then (columns, .joined)
    else measureAlone c columns
  | .joinedOdd =>
    if isRegionalIndicator c then (columns - 1, .joinedEven)
    else if c == joiner then (columns, .joined)
    else measureAlone c columns
  | .tagged code =>
    if c == blackFlag && code.isComplete then (columns, .emoji)
    else
      match code.before? c with
      | some code => (columns, .tagged code)
      | none => measureAlone c columns
  | .ligature l =>
    match l.before? c columns with
    | some (width, l?) => (width, (l?.map Tail.ligature).getD .plain)
    | none => measureAlone c columns

/-- The columns that an emoji with its selector adds: none if it is joined to the emoji behind. -/
def selectedWidth : Tail → Nat
  | .joined => 0
  | .joinedKeycap => 0
  | _ => 2

/-- One more character in front of a text that has been measured. -/
def measureChar (c : Char) (measured : Nat × Follower) : Nat × Follower :=
  let (columns, follower) := measured
  if follower.selector == some .emoji && isPresentationBase c then
    (columns + selectedWidth follower.tail, ⟨.emoji, none⟩)
  else if follower.selector == some .text && isNarrowedByText c then
    (columns + 1, .nothing)
  else
    match Selector.ofChar? c with
    | some s => (columns, follower.dropSelector.select s)
    | none =>
      let (width, tail) := measureBefore c columns follower.dropSelector.tail
      (width, ⟨tail, none⟩)

/-- The columns that a text takes. -/
def columnWidth (cs : List Char) : Nat := (cs.foldr measureChar (0, .nothing)).1

end ScriptCheck.Text
