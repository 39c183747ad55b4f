/-!
# Tokens

What a script is made of, as the statements see it: each token has a kind, the byte offset at which
it starts, and a text.
-/

namespace ScriptCheck

/-- The words that cannot be names. -/
inductive Keyword where
  | function
  | var
  | type
  | ret
  deriving DecidableEq, Repr

/-- How a keyword is spelled. -/
def Keyword.spelling : Keyword → String
  | .function => "function"
  | .var => "var"
  | .type => "type"
  | .ret => "return"

/-- The keyword with that spelling. -/
def Keyword.ofSpelling? : String → Option Keyword
  | "function" => some .function
  | "var" => some .var
  | "type" => some .type
  | "return" => some .ret
  | _ => none

/-- The kinds of tokens. Two of them stand for no text: the beginning and the end of the input. -/
inductive TokenKind where
  | keyword (word : Keyword)
  | equals
  | colon
  | semicolon
  | number
  | string
  | identifier
  | newline
  | whitespace
  | unknown
  | beginning
  | ending
  deriving DecidableEq, Repr

namespace TokenKind

/-- Every kind. -/
def all : List TokenKind :=
  [.keyword .function, .keyword .var, .keyword .type, .keyword .ret, .equals, .colon, .semicolon,
   .number, .string, .identifier, .newline, .whitespace, .unknown, .beginning, .ending]

/-- The name of a kind in listings. -/
def label : TokenKind → String
  | .keyword .function => "Function"
  | .keyword .var => "Var"
  | .keyword .type => "Type"
  | .keyword .ret => "Return"
  | .equals => "Equals"
  | .colon => "Colon"
  | .semicolon => "Semicolon"
  | .number => "Literal"
  | .string => "StringLiteral"
  | .identifier => "Identifier"
  | .newline => "Newline"
  | .whitespace => "Whitespace"
  | .unknown => "Unknown"
  | .beginning => "BOF"
  | .ending => "EOF"

/-- The kind with that name. -/
def ofLabel? (s : String) : Option TokenKind := all.find? (·.label == s)

/-- Whether the kind is that of a keyword. -/
def isKeyword : TokenKind → Bool
  | .keyword _ => true
  | _ => false

/-- What a message calls a token of this kind. -/
def describe : TokenKind → String
  | .keyword word => "'" ++ word.spelling ++ "'"
  | .equals => "'='"
  | .colon => "':'"
  | .semicolon => "';'"
  | .number => "number"
  | .string => "string"
  | .identifier => "identifier"
  | .newline => "newline"
  | .whitespace => "whitespace"
  | .unknown => "unknown character"
  | .beginning => "beginning of input"
  | .ending => "end of input"

/-- Trivia stand between the tokens that statements are read from. -/
def isTrivia : TokenKind → Bool
  | .whitespace => true
  | .unknown => true
  | _ => false

/-- A terminator ends a statement. -/
def isTerminator : TokenKind → Bool
  | .semicolon => true
  | .newline => true
  | _ => false

end TokenKind

/-- A token: its kind, the byte offset of its start, and its text. The text of a string token is
the text that the string stands for; all others have the text that they cover. -/
structure Token where
  kind : TokenKind
  pos : Nat
  text : String
  deriving DecidableEq, Repr

end ScriptCheck
