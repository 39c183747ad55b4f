import ScriptCheck.Text.CharWidth

/-!
# Ligatures

Letters that are shown as one, and take fewer columns than each of them alone. Which letters they
are depends on the script; some need a joiner between them. Marks that a display ignores may stand
anywhere inside.

* `LigatureTail` — what stands behind a letter that could become part of a ligature
* `LigatureTail.before?` — one more character in front of it
-/

namespace ScriptCheck.Text

/-! ## Letters -/

/-- The letters that join like alef. -/
def alefRanges : CharRanges :=
  [(0x622, 0x623), (0x625, 0x625), (0x627, 0x627), (0x671, 0x673), (0x675, 0x675), (0x773, 0x774),
   (0x870, 0x882)]

/-- The letters that join like lam. -/
def lamRanges : CharRanges :=
  [(0x644, 0x644), (0x6B5, 0x6B8), (0x76A, 0x76A), (0x8A6, 0x8A6), (0x8C7, 0x8C7)]

/-- The letters of Khmer that take no room when they are written below another letter. -/
def khmerSubscriptRanges : CharRanges :=
  [(0x1780, 0x1782), (0x1784, 0x1787), (0x1789, 0x178C), (0x178E, 0x1793), (0x1795, 0x1798),
   (0x179B, 0x179D), (0x17A0, 0x17A0), (0x17A2, 0x17A2), (0x17A7, 0x17A7), (0x17AB, 0x17AC),
   (0x17AF, 0x17AF)]

/-- The consonants of Tifinagh. -/
def tifinaghRanges : CharRanges := [(0x2D31, 0x2D65), (0x2D6F, 0x2D6F)]

/-- The tones of Lisu that other tones can stand in front of. -/
def lisuLastToneRanges : CharRanges := [(0xA4FC, 0xA4FD)]

/-- The tones of Lisu that can stand in front of other tones. -/
def lisuFirstToneRanges : CharRanges := [(0xA4F8, 0xA4FB)]

/-- The sign that writes a letter of Khmer below the one before it. -/
def coeng : Char := '\u17D2'

/-- The sign that binds two consonants of Tifinagh. -/
def tifinaghBinder : Char := '\u2D7F'

/-- The letter i of Old Turkic. -/
def orkhonLetterI : Char := Char.ofNat 0x10C03

/-- The letter ec of Old Turkic. -/
def orkhonLetterEc : Char := Char.ofNat 0x10C32

/-! ## Characters in between -/

/-- The joiner joins letters, and makes one emoji of two. -/
def joiner : Char := '\u200D'

/-- The characters without width that the letters of Arabic do not join across. -/
def joinBreakerRanges : CharRanges :=
  [(0x605, 0x605), (0x890, 0x891), (0x8E2, 0x8E2), (0x9BE, 0x9BE), (0x9D7, 0x9D7), (0xB3E, 0xB3E),
   (0xB57, 0xB57), (0xBBE, 0xBBE), (0xBD7, 0xBD7), (0xCC0, 0xCC0), (0xCC2, 0xCC2), (0xCC7, 0xCC8),
   (0xCCA, 0xCCB), (0xCD5, 0xCD6), (0xD3E, 0xD3E), (0xD4E, 0xD4E), (0xD57, 0xD57), (0xDCF, 0xDCF),
   (0xDDF, 0xDDF), (0x1160, 0x11FF), (0x180E, 0x180E), (0x1B35, 0x1B35), (0x1B3B, 0x1B3B),
   (0x1B3D, 0x1B3D), (0x1B43, 0x1B43), (0x200C, 0x200D), (0x2065, 0x2069), (0x302E, 0x302F),
   (0x3164, 0x3164), (0xA8FA, 0xA8FA), (0xD7B0, 0xD7C6), (0xD7CB, 0xD7FB), (0xFF9E, 0xFFA0),
   (0xFFF0, 0xFFF8), (0x111C2, 0x111C3), (0x1133E, 0x1133E), (0x11357, 0x11357),
   (0x114B0, 0x114B0), (0x114BD, 0x114BD), (0x115AF, 0x115AF), (0x11930, 0x11930),
   (0x1193F, 0x1193F), (0x11941, 0x11941), (0x11A3A, 0x11A3A), (0x11A84, 0x11A89),
   (0x11D46, 0x11D46), (0x11F02, 0x11F02), (0x1D165, 0x1D165), (0x1D16E, 0x1D172),
   (0xE0000, 0xE0000), (0xE0002, 0xE001F), (0xE0080, 0xE00FF), (0xE01F0, 0xE0FFF)]

/-- Whether the letters of Arabic join across the character. -/
def isJoinTransparent (c : Char) : Bool := isWidthless c && !joinBreakerRanges.has c

/-- The marks that a display ignores. -/
def ignoredMarkRanges : CharRanges :=
  [(0x34F, 0x34F), (0x17B4, 0x17B5), (0x180B, 0x180D), (0x180F, 0x180F), (0xFE00, 0xFE0F),
   (0xE0100, 0xE01EF)]

/-! ## Tails -/

/-- The end of what may become a ligature. A letter that needs a joiner in front of it has it if it
is joined. -/
inductive LigatureTail where
  /-- An alef of Arabic, with or without marks before it. -/
  | alef
  /-- A lamed of Hebrew. -/
  | lamed (joined : Bool)
  /-- A ya of Buginese. -/
  | ya (joined : Bool)
  /-- A vowel sign i of Buginese and a joined ya. -/
  | voweledYa
  /-- A consonant of Tifinagh. -/
  | tifinagh (joined : Bool)
  /-- The binder of Tifinagh and a consonant. -/
  | boundTifinagh
  /-- A tone of Lisu. -/
  | lisuTone
  /-- An i of Old Turkic. -/
  | orkhonI (joined : Bool)
  /-- A letter of Khmer that takes no room as a subscript. -/
  | khmerLetter
  deriving DecidableEq, Repr

namespace LigatureTail

/-- The tail that a character alone is. -/
def ofChar? (c : Char) : Option LigatureTail :=
  if alefRanges.has c then some .alef
  else if c == '\u05DC' then some (.lamed false)
  else if c == '\u1A10' then some (.ya false)
  else if tifinaghRanges.has c then some (.tifinagh false)
  else if lisuLastToneRanges.has c then some .lisuTone
  else if c == orkhonLetterI then some (.orkhonI false)
  else if khmerSubscriptRanges.has c then some .khmerLetter
  else none

/-- The tail behind a joiner. -/
def join : LigatureTail → LigatureTail
  | .lamed _ => .lamed true
  | .ya _ => .ya true
  | .tifinagh _ => .tifinagh true
  | .orkhonI _ => .orkhonI true
  | t => t

/-- Whether the tail stays what it is behind a character. -/
def passes (c : Char) : LigatureTail → Bool
  | .alef => isJoinTransparent c
  | _ => ignoredMarkRanges.has c

/-- A letter before the tail that forms a ligature with it or makes it longer: the columns of both
if the tail has been counted among so many, and what they are to the next character on the left. -/
def letterBefore? (c : Char) (columns : Nat) : LigatureTail → Option (Nat × Option LigatureTail)
  | .alef => if lamRanges.has c then some (columns, none) else none
  | .lamed true => if c == '\u05D0' then some (columns, none) else none
  | .ya true => if c == '\u1A17' then some (columns, some .voweledYa) else none
  | .voweledYa => if c == '\u1A15' then some (columns, none) else none
  | .tifinagh joined =>
    if c == tifinaghBinder then some (columns + 1, some .boundTifinagh)
    else if joined && tifinaghRanges.has c then some (columns, none)
    else none
  | .boundTifinagh => if tifinaghRanges.has c then some (columns - 1, none) else none
  | .lisuTone => if lisuFirstToneRanges.has c then some (columns, none) else none
  | .orkhonI true => if c == orkhonLetterEc then some (columns, none) else none
  | .khmerLetter => if c == coeng then some (columns - 1, none) else none
  | _ => none

/-- One more character before the tail, if the two belong together: the columns of both, and what
they are to the next character on the left. -/
def before? (c : Char) (columns : Nat) (t : LigatureTail) : Option (Nat × Option LigatureTail) :=
  if t.passes c then some (columns, some t)
  else if c == joiner && t != .alef then some (columns, some t.join)
  else t.letterBefore? c columns

end LigatureTail

end ScriptCheck.Text
