import ScriptCheck.Text.Blank
import ScriptCheck.Text.Bytes
import ScriptCheck.Text.Quoted
import ScriptCheck.Token

/-!
# Lexemes

A script falls into lexemes: every character belongs to exactly one, and each lexeme is as long as
it can be. Text that is no part of the language becomes a lexeme too, and is reported.

* `Lexeme.split` — the first lexeme of a text and the rest; `Lexeme.raw_split` says that nothing
  is lost
* `lexemes` — all lexemes of a text
* `PlacedLexeme` — a lexeme with its byte offset, its token and its errors
-/

namespace ScriptCheck

open Text

/-! ## Errors -/

/-- What can be wrong with a lexeme. -/
inductive LexFault where
  | unexpectedChar (c : Char)
  | unterminatedString
  | unknownEscape (c : Char)
  deriving DecidableEq, Repr

/-- The wording of a fault. -/
def LexFault.message : LexFault → String
  | .unexpectedChar c => "unexpected character " ++ quotedChar c
  | .unterminatedString => "unterminated string literal"
  | .unknownEscape c => "unknown escape sequence `\\" ++ c.toString ++ "`"

/-- A fault and the byte offset at which it is reported. -/
structure LexError where
  fault : LexFault
  pos : Nat
  deriving DecidableEq, Repr

/-! ## The body of a string -/

/-- The characters that a backslash introduces by a letter. -/
inductive Escape where
  | newline
  | tab
  | carriageReturn
  | null
  | backslash
  | doubleQuote
  | singleQuote
  deriving DecidableEq, Repr

namespace Escape

/-- The letter behind the backslash. -/
def letter : Escape → Char
  | .newline => 'n'
  | .tab => 't'
  | .carriageReturn => 'r'
  | .null => '0'
  | .backslash => '\\'
  | .doubleQuote => '"'
  | .singleQuote => '\''

/-- The character that is meant. -/
def value : Escape → Char
  | .newline => '\n'
  | .tab => '\t'
  | .carriageReturn => '\r'
  | .null => '\x00'
  | .backslash => '\\'
  | .doubleQuote => '"'
  | .singleQuote => '\''

/-- The escape with that letter. -/
def ofLetter? : Char → Option Escape
  | 'n' => some .newline
  | 't' => some .tab
  | 'r' => some .carriageReturn
  | '0' => some .null
  | '\\' => some .backslash
  | '"' => some .doubleQuote
  | '\'' => some .singleQuote
  | _ => none

@[simp] theorem ofLetter?_letter (e : Escape) : ofLetter? e.letter = some e := by
  cases e <;> rfl

theorem letter_of_ofLetter? {c : Char} {e : Escape} (h : ofLetter? c = some e) : e.letter = c := by
  unfold ofLetter? at h
  split at h <;> simp_all <;> subst h <;> rfl

end Escape

/-- A unit of a string's body. -/
inductive StringElement where
  /-- A character that stands for itself. -/
  | plain (c : Char)
  /-- A backslash and the letter of an escape. -/
  | escape (e : Escape)
  /-- A backslash and another character: kept as it is, and reported. -/
  | unknown (c : Char)
  /-- A backslash at the end of the line. -/
  | trailing
  deriving DecidableEq, Repr

namespace StringElement

/-- A backslash and the character behind it. -/
def ofEscaped (c : Char) : StringElement :=
  match Escape.ofLetter? c with
  | some e => .escape e
  | none => .unknown c

/-- How the element is written. -/
def raw : StringElement → List Char
  | .plain c => [c]
  | .escape e => ['\\', e.letter]
  | .unknown c => ['\\', c]
  | .trailing => ['\\']

/-- What the element stands for. -/
def value : StringElement → List Char
  | .plain c => [c]
  | .escape e => [e.value]
  | .unknown c => ['\\', c]
  | .trailing => ['\\']

/-- The fault of an element that starts at a byte offset. -/
def error? (pos : Nat) : StringElement → Option LexError
  | .unknown c => some ⟨.unknownEscape c, pos⟩
  | _ => none

/-- The errors of a row of elements that starts at a byte offset. -/
def errors (pos : Nat) : List StringElement → List LexError
  | [] => []
  | e :: es => (e.error? pos).toList ++ errors (pos + byteSize e.raw) es

@[simp] theorem raw_plain (c : Char) : (plain c).raw = [c] := rfl

@[simp] theorem raw_trailing : trailing.raw = ['\\'] := rfl

@[simp] theorem raw_ofEscaped (c : Char) : (ofEscaped c).raw = ['\\', c] := by
  unfold ofEscaped
  split
  · next e h => simp [raw, Escape.letter_of_ofLetter? h]
  · rfl

end StringElement

/-- Where the body of a string ends: its elements, whether a closing quote follows them, and the
text behind. -/
structure StringBody where
  elements : List StringElement
  closed : Bool
  rest : List Char

/-- Goes on with `StringBody.split`, the elements read so far in front, last one first. -/
def StringBody.splitFrom (quote : Char) (read : List StringElement) : List Char → StringBody
  | [] => ⟨read.reverse, false, []⟩
  | c :: cs =>
    if isLineEnd c then ⟨read.reverse, false, c :: cs⟩
    else if c == quote then ⟨read.reverse, true, cs⟩
    else if c == '\\' then
      match cs with
      | [] => ⟨(.trailing :: read).reverse, false, []⟩
      | d :: ds =>
        if isLineEnd d then ⟨(.trailing :: read).reverse, false, d :: ds⟩
        else splitFrom quote (.ofEscaped d :: read) ds
    else splitFrom quote (.plain c :: read) cs

/-- The body of a string, up to its closing quote or, if it has none, to the end of the line. -/
def StringBody.split (quote : Char) (cs : List Char) : StringBody := splitFrom quote [] cs

/-- How the body is written, with its closing quote if it has one. -/
def StringBody.raw (quote : Char) (body : StringBody) : List Char :=
  body.elements.flatMap StringElement.raw ++ if body.closed then [quote] else []

theorem StringBody.raw_splitFrom (quote : Char) (read : List StringElement) (cs : List Char) :
    (splitFrom quote read cs).raw quote ++ (splitFrom quote read cs).rest =
      read.reverse.flatMap StringElement.raw ++ cs := by
  fun_induction splitFrom quote read cs <;> simp_all [StringBody.raw]

/-- The body and the text behind it are the text that was split. -/
theorem StringBody.raw_split (quote : Char) (cs : List Char) :
    (StringBody.split quote cs).raw quote ++ (StringBody.split quote cs).rest = cs := by
  simpa [StringBody.split] using StringBody.raw_splitFrom quote [] cs

/-! ## Lexemes -/

/-- The ends of a line. A carriage return and a line feed together are one. -/
inductive LineEnd where
  | lineFeed
  | carriageReturn
  | carriageReturnLineFeed
  | lineSeparator
  | paragraphSeparator
  deriving DecidableEq, Repr

/-- How a line end is written. -/
def LineEnd.raw : LineEnd → List Char
  | .lineFeed => ['\n']
  | .carriageReturn => ['\r']
  | .carriageReturnLineFeed => ['\r', '\n']
  | .lineSeparator => ['\u2028']
  | .paragraphSeparator => ['\u2029']

/-- The line end at the beginning of a text that starts with the character `c`, and the text behind
it. -/
def LineEnd.split? (c : Char) (cs : List Char) : Option (LineEnd × List Char) :=
  match c, cs with
  | '\n', cs => some (.lineFeed, cs)
  | '\r', '\n' :: rest => some (.carriageReturnLineFeed, rest)
  | '\r', cs => some (.carriageReturn, cs)
  | '\u2028', cs => some (.lineSeparator, cs)
  | '\u2029', cs => some (.paragraphSeparator, cs)
  | _, _ => none

theorem LineEnd.raw_split? {c : Char} {cs rest : List Char} {e : LineEnd}
    (h : LineEnd.split? c cs = some (e, rest)) : e.raw ++ rest = c :: cs := by
  unfold LineEnd.split? at h
  split at h <;> cases h <;> rfl

/-- Whether a word can start with the character: an ASCII letter or the underscore. -/
def isWordStart (c : Char) : Bool := c.isAlpha || c == '_'

/-- Whether a word can go on with the character: an ASCII letter, an ASCII digit or the
underscore. -/
def isWordPart (c : Char) : Bool := c.isAlphanum || c == '_'

/-- A piece of a script. -/
inductive Lexeme where
  | lineEnd (e : LineEnd)
  | blanks (cs : List Char)
  | equals
  | colon
  | semicolon
  | string (quote : Char) (body : List StringElement) (closed : Bool)
  | number (digits : List Char)
  | word (letters : List Char)
  | unknown (c : Char)
  deriving DecidableEq, Repr

namespace Lexeme

/-- How the lexeme is written. -/
def raw : Lexeme → List Char
  | .lineEnd e => e.raw
  | .blanks cs => cs
  | .equals => ['=']
  | .colon => [':']
  | .semicolon => [';']
  | .string quote body closed =>
    quote :: body.flatMap StringElement.raw ++ (if closed then [quote] else [])
  | .number digits => digits
  | .word letters => letters
  | .unknown c => [c]

/-- The text of the lexeme's token. -/
def text : Lexeme → List Char
  | .string _ body _ => body.flatMap StringElement.value
  | l => l.raw

/-- The kind of the lexeme's token. -/
def kind : Lexeme → TokenKind
  | .lineEnd _ => .newline
  | .blanks _ => .whitespace
  | .equals => .equals
  | .colon => .colon
  | .semicolon => .semicolon
  | .string _ _ _ => .string
  | .number _ => .number
  | .word letters =>
    match Keyword.ofSpelling? (String.ofList letters) with
    | some k => .keyword k
    | none => .identifier
  | .unknown _ => .unknown

/-- No lexeme stands for the end of the input. -/
theorem kind_ne_ending (l : Lexeme) : l.kind ≠ .ending := by
  cases l with
  | word letters =>
    rw [kind]
    split <;> simp
  | _ => simp [kind]

/-- The errors of a lexeme that starts at a byte offset, in the order in which they are reported:
that a string has no closing quote is known only at its end. -/
def errors (pos : Nat) : Lexeme → List LexError
  | .string quote body closed =>
    StringElement.errors (pos + quote.utf8Size) body ++
      (if closed then [] else [⟨.unterminatedString, pos⟩])
  | .unknown c => [⟨.unexpectedChar c, pos⟩]
  | _ => []

/-- The lexeme that is a single mark. -/
def ofMark? : Char → Option Lexeme
  | '=' => some .equals
  | ':' => some .colon
  | ';' => some .semicolon
  | _ => none

theorem raw_ofMark? {c : Char} {l : Lexeme} (h : ofMark? c = some l) : l.raw = [c] := by
  unfold ofMark? at h
  split at h <;> cases h <;> rfl

/-- The first lexeme of a text that starts with the character `c`, and the text behind it. -/
def split (c : Char) (cs : List Char) : Lexeme × List Char :=
  match LineEnd.split? c cs, ofMark? c with
  | some (e, rest), _ => (.lineEnd e, rest)
  | none, some l => (l, cs)
  | none, none =>
    if isBlank c then (.blanks (c :: cs.takeWhile isInlineBlank), cs.dropWhile isInlineBlank)
    else if c = '"' ∨ c = '\'' then
      let body := StringBody.split c cs
      (.string c body.elements body.closed, body.rest)
    else if c.isDigit then (.number (c :: cs.takeWhile Char.isDigit), cs.dropWhile Char.isDigit)
    else if isWordStart c then (.word (c :: cs.takeWhile isWordPart), cs.dropWhile isWordPart)
    else (.unknown c, cs)

/-- The lexeme and the text behind it are the text that was split. -/
theorem raw_split (c : Char) (cs : List Char) :
    (split c cs).1.raw ++ (split c cs).2 = c :: cs := by
  unfold split
  split
  · next h => exact LineEnd.raw_split? h
  · next h => simp [raw_ofMark? h]
  · repeat' split
    · simp [raw]
    · simpa [raw, StringBody.raw] using StringBody.raw_split c cs
    · simp [raw]
    · simp [raw]
    · rfl

theorem raw_ne_nil_split (c : Char) (cs : List Char) : (split c cs).1.raw ≠ [] := by
  unfold split
  split
  · next e _ _ => cases e <;> simp [raw, LineEnd.raw]
  · next h => simp [raw_ofMark? h]
  · repeat' split
    all_goals simp [raw]

/-- The text behind the first lexeme is shorter. -/
theorem length_split_lt (c : Char) (cs : List Char) :
    (split c cs).2.length < (c :: cs).length := by
  have h := congrArg List.length (raw_split c cs)
  have := List.length_pos_iff.2 (raw_ne_nil_split c cs)
  simp only [List.length_append] at h
  omega

end Lexeme

/-! ## Whole texts -/

/-- Goes on with `lexemes`, the lexemes found so far in front, last one first. -/
def lexemesFrom (found : List Lexeme) : List Char → List Lexeme
  | [] => found.reverse
  | c :: cs => lexemesFrom ((Lexeme.split c cs).1 :: found) (Lexeme.split c cs).2
termination_by cs => cs.length
decreasing_by exact Lexeme.length_split_lt c cs

/-- The lexemes of a text. -/
def lexemes (cs : List Char) : List Lexeme := lexemesFrom [] cs

theorem lexemesFrom_append (found older : List Lexeme) (cs : List Char) :
    lexemesFrom (found ++ older) cs = older.reverse ++ lexemesFrom found cs := by
  fun_induction lexemesFrom found cs with
  | case1 found => simp [lexemesFrom]
  | case2 found c cs ih => rw [lexemesFrom, ← List.cons_append, ih]

@[simp] theorem lexemes_nil : lexemes [] = [] := by simp [lexemes, lexemesFrom]

theorem lexemes_cons (c : Char) (cs : List Char) :
    lexemes (c :: cs) = (Lexeme.split c cs).1 :: lexemes (Lexeme.split c cs).2 := by
  simpa [lexemes, lexemesFrom] using
    lexemesFrom_append [] [(Lexeme.split c cs).1] (Lexeme.split c cs).2

/-! ## Positions -/

/-- A lexeme and the byte offset of its start. -/
structure PlacedLexeme where
  pos : Nat
  lexeme : Lexeme
  deriving DecidableEq, Repr

namespace PlacedLexeme

/-- The token of a lexeme. -/
def token (l : PlacedLexeme) : Token := ⟨l.lexeme.kind, l.pos, String.ofList l.lexeme.text⟩

/-- The errors of a lexeme. -/
def errors (l : PlacedLexeme) : List LexError := l.lexeme.errors l.pos

end PlacedLexeme

/-- Goes on with `placeLexemes`, the lexemes placed so far in front, last one first. -/
def placeLexemesFrom (placed : List PlacedLexeme) (pos : Nat) : List Lexeme → List PlacedLexeme
  | [] => placed.reverse
  | l :: ls => placeLexemesFrom (⟨pos, l⟩ :: placed) (pos + byteSize l.raw) ls

/-- Lexemes that stand one behind the other, the first one at a byte offset. -/
def placeLexemes (pos : Nat) (ls : List Lexeme) : List PlacedLexeme := placeLexemesFrom [] pos ls

theorem placeLexemesFrom_append (placed older : List PlacedLexeme) (pos : Nat)
    (ls : List Lexeme) :
    placeLexemesFrom (placed ++ older) pos ls =
      older.reverse ++ placeLexemesFrom placed pos ls := by
  induction ls generalizing placed pos with
  | nil => simp [placeLexemesFrom]
  | cons l ls ih => rw [placeLexemesFrom, placeLexemesFrom, ← List.cons_append, ih]

@[simp] theorem placeLexemes_nil (pos : Nat) : placeLexemes pos [] = [] := rfl

theorem placeLexemes_cons (pos : Nat) (l : Lexeme) (ls : List Lexeme) :
    placeLexemes pos (l :: ls) = ⟨pos, l⟩ :: placeLexemes (pos + byteSize l.raw) ls := by
  simpa [placeLexemes, placeLexemesFrom] using
    placeLexemesFrom_append [] [⟨pos, l⟩] (pos + byteSize l.raw) ls

/-- The lexemes of a script, each with its byte offset. -/
def scan (source : String) : List PlacedLexeme := placeLexemes 0 (lexemes source.toList)

/-- The tokens of a script. -/
def tokens (source : String) : List Token := (scan source).map PlacedLexeme.token

/-- The lexical errors of a script. -/
def lexErrors (source : String) : List LexError := (scan source).flatMap PlacedLexeme.errors

end ScriptCheck
