import ScriptCheck.Token.Lexeme

/-!
# Reading tokens one at a time

A cursor stands on one token of a script. It starts on the beginning of the input and stays on the
end once it is there. The errors of the tokens it has come across wait until they are taken.
-/

namespace ScriptCheck

/-- A place in a script: the current token, and the text behind it with its byte offset. -/
structure Cursor where
  current : Token
  pos : Nat
  rest : List Char
  /-- The errors that wait, last one first. -/
  latestErrors : List LexError
  deriving DecidableEq, Repr

namespace Cursor

/-- A cursor before the first token. -/
def start (source : String) : Cursor := ⟨⟨.beginning, 0, ""⟩, 0, source.toList, []⟩

/-- Whether the cursor is at the end of the input. -/
def atEnd (cur : Cursor) : Bool := cur.current.kind == .ending

/-- Moves to the next token. -/
def next (cur : Cursor) : Cursor :=
  match cur.rest with
  | [] => { cur with current := ⟨.ending, cur.pos, ""⟩ }
  | c :: cs =>
    let (lexeme, rest) := Lexeme.split c cs
    let placed : PlacedLexeme := ⟨cur.pos, lexeme⟩
    { current := placed.token
      pos := cur.pos + Text.byteSize lexeme.raw
      rest := rest
      latestErrors := placed.errors.reverse ++ cur.latestErrors }

/-- Moves on by so many tokens, or to the end of the input. -/
def skip (cur : Cursor) : Nat → Cursor
  | 0 => cur
  | n + 1 => if cur.atEnd then cur else cur.next.skip n

/-- Moves to the next token and gives it, unless that is the end of the input. -/
def pull (cur : Cursor) : Option Token × Cursor :=
  let cur := cur.skip 1
  (if cur.atEnd then none else some cur.current, cur)

/-- The errors that wait, in order. -/
def pending (cur : Cursor) : List LexError := cur.latestErrors.reverse

/-- The errors that wait, and the cursor without them. -/
def takeErrors (cur : Cursor) : List LexError × Cursor :=
  (cur.pending, { cur with latestErrors := [] })

/-- The tokens behind the current one. -/
def remaining (cur : Cursor) : List Token :=
  (placeLexemes cur.pos (lexemes cur.rest)).map PlacedLexeme.token

end Cursor

end ScriptCheck
