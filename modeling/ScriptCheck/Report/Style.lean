/-!
# Styled text

A report is a row of spans, some of which have a style. It can be written plainly or for a terminal,
where a style is switched on in front of its span and off behind it. A terminal takes its orders
from control sequences: numbers, between an escape character and a letter.

* `Color`, `Style` — how text is to look
* `Style.codes` — what a terminal is told of a style, one order after the other
* `writeSpans` — a row of spans, plainly or for a terminal
-/

namespace ScriptCheck

/-! ## Styles -/

/-- The colours that have a name. -/
inductive ColorName where
  | black
  | red
  | green
  | yellow
  | blue
  | magenta
  | cyan
  | white
  deriving DecidableEq, Repr

/-- A colour: by its name, by its place in a palette of 256 colours, or by its parts. -/
inductive Color where
  | named (name : ColorName)
  | palette (place : UInt8)
  | rgb (red green blue : UInt8)
  deriving DecidableEq, Repr

/-- How text is to look on a terminal. -/
structure Style where
  foreground : Option Color := none
  background : Option Color := none
  bold : Bool := false
  dimmed : Bool := false
  italic : Bool := false
  underline : Bool := false
  strikethrough : Bool := false
  /-- Colours that have a name are taken from among the bright ones. -/
  intense : Bool := false
  /-- Whatever was on before is switched off first. -/
  reset : Bool := true
  deriving DecidableEq, Repr

/-- What can be switched on for text, its colours apart. -/
inductive Attribute where
  | bold
  | dimmed
  | italic
  | underline
  | strikethrough
  deriving DecidableEq, Repr

/-- All attributes, in the order in which they are switched on. -/
def Attribute.all : List Attribute := [.bold, .dimmed, .italic, .underline, .strikethrough]

/-- What has a colour: the text, or the ground on which it stands. -/
inductive Layer where
  | foreground
  | background
  deriving DecidableEq, Repr

/-- Both layers, in the order in which their colours are set. -/
def Layer.all : List Layer := [.foreground, .background]

namespace Style

/-- Whether an attribute belongs to a style. -/
def has (s : Style) : Attribute → Bool
  | .bold => s.bold
  | .dimmed => s.dimmed
  | .italic => s.italic
  | .underline => s.underline
  | .strikethrough => s.strikethrough

/-- The colour of a layer, if the style says one. -/
def color (s : Style) : Layer → Option Color
  | .foreground => s.foreground
  | .background => s.background

end Style

/-! ## Orders to a terminal -/

/-- The number of a colour among those that have a name. -/
def ColorName.code : ColorName → Nat
  | .black => 0
  | .red => 1
  | .green => 2
  | .yellow => 3
  | .blue => 4
  | .magenta => 5
  | .cyan => 6
  | .white => 7

/-- The number that switches an attribute on. -/
def Attribute.code : Attribute → Nat
  | .bold => 1
  | .dimmed => 2
  | .italic => 3
  | .underline => 4
  | .strikethrough => 9

/-- The number from which the colours of a layer are counted. -/
def Layer.base : Layer → Nat
  | .foreground => 30
  | .background => 40

/-- The order that sets the colour of a layer. The bright colours follow the others in the
palette. -/
def Color.codes (layer : Layer) (intense : Bool) : Color → List Nat
  | .named name =>
    if intense then [layer.base + 8, 5, 8 + name.code] else [layer.base + name.code]
  | .palette place => [layer.base + 8, 5, place.toNat]
  | .rgb red green blue => [layer.base + 8, 2, red.toNat, green.toNat, blue.toNat]

/-- The orders that switch a style on. -/
def Style.codes (s : Style) : List (List Nat) :=
  (if s.reset then [[0]] else []) ++ (Attribute.all.filter s.has).map (fun x => [x.code]) ++
    Layer.all.flatMap fun layer => ((s.color layer).map (Color.codes layer s.intense)).toList

/-- The control sequence of an order. -/
def controlSequence (codes : List Nat) : String :=
  "\x1b[" ++ ";".intercalate (codes.map toString) ++ "m"

/-- The control sequence that switches every style off. -/
def resetSequence : String := controlSequence [0]

/-- The control sequences that switch a style on. -/
def Style.sequence (s : Style) : String := String.join (s.codes.map controlSequence)

/-! ## Spans -/

/-- Text, in a style or in none. -/
structure Span where
  style : Option Style
  text : String
  deriving DecidableEq, Repr

/-- The span for a terminal. -/
def Span.colored (s : Span) : String :=
  match s.style with
  | some style => style.sequence ++ s.text ++ resetSequence
  | none => s.text

/-- A row of spans, with or without the control sequences of a terminal. -/
def writeSpans (color : Bool) (spans : List Span) : String :=
  String.join (spans.map fun s => if color then s.colored else s.text)

end ScriptCheck
