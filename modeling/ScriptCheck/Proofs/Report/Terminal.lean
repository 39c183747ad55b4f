import Mathlib.Data.Fintype.Pi
import ScriptCheck.Decimal.Double
import ScriptCheck.Report.Style
import ScriptCheck.Text.Visible

/-!
# What a terminal shows

A terminal receives characters and control sequences. It shows the characters; the control sequences
hold orders that say how the text behind them looks. The orders for a style do what the style says,
whatever colours and attributes it has: they add its attributes, and set its colours, to what was on
before, or start anew.

* `Item`, `items` — the characters and the control sequences in a text
* `withoutSequences` — a text without the control sequences in it
* `codesOf_parametersOf` — an order is read back from its control sequence
* `Appearance`, `Appearance.obey` — how text looks on a terminal, and what orders change about it
* `Cell`, `look`, `lookBehind` — what a terminal shows, and how text looks behind it
* `Style.onto` — what a style says about the look of a text
* `lookBehind_items` — the control sequences of a style do what it says
-/

namespace ScriptCheck

open Text

/-! ## Texts with control sequences -/

/-- What a terminal receives: a character to show, or a control sequence with its parameters. -/
inductive Item where
  | char (c : Char)
  | sequence (parameters : List Char)
  deriving DecidableEq, Repr

/-- Whether a character can stand in the parameters of a control sequence for styles. -/
def isParameter (c : Char) : Bool := c.isDigit || c == ';'

/-- The characters of a control sequence for styles. -/
def sequenceChars (parameters : List Char) : List Char :=
  escapeChar :: '[' :: parameters ++ ['m']

/-- The parameters of the control sequence with which a text begins. -/
def parameters? : List Char → Option (List Char)
  | c :: '[' :: cs =>
    if c = escapeChar ∧ (cs.dropWhile isParameter).head? = some 'm'
    then some (cs.takeWhile isParameter)
    else none
  | _ => none

/-- Goes on with `items` where so many characters still belong to a control sequence. -/
def itemsFrom : Nat → List Char → List Item
  | _, [] => []
  | n + 1, _ :: cs => itemsFrom n cs
  | 0, c :: cs =>
    match parameters? (c :: cs) with
    | some parameters => .sequence parameters :: itemsFrom (parameters.length + 2) cs
    | none => .char c :: itemsFrom 0 cs

/-- The characters and the control sequences in a text. Other escape characters are characters. -/
def items (cs : List Char) : List Item := itemsFrom 0 cs

/-- The character, if it is one. -/
def Item.char? : Item → Option Char
  | .char c => some c
  | .sequence _ => none

/-- A text without the control sequences in it. -/
def withoutSequences (s : String) : String :=
  String.ofList ((items s.toList).filterMap Item.char?)

section

variable {cs ds parameters : List Char}

/-- No control sequence begins with another character. -/
theorem parameters?_of_ne {c : Char} (h : c ≠ escapeChar) (cs : List Char) :
    parameters? (c :: cs) = none := by
  unfold parameters?
  split
  · next heq =>
    obtain ⟨rfl, -⟩ := List.cons.inj heq
    exact if_neg fun hand => h hand.1
  · rfl

theorem parameters?_sequenceChars (h : parameters.all isParameter = true) (cs : List Char) :
    parameters? (sequenceChars parameters ++ cs) = some parameters := by
  rw [List.all_eq_true] at h
  have hsplit : sequenceChars parameters ++ cs =
      escapeChar :: '[' :: (parameters ++ 'm' :: cs) := by
    simp [sequenceChars]
  have hend : isParameter 'm' = false := rfl
  rw [hsplit, parameters?, List.dropWhile_append_of_pos h, List.takeWhile_append_of_pos h,
    List.dropWhile_cons_of_neg (by simp [hend]), List.takeWhile_cons_of_neg (by simp [hend])]
  simp

/-- Characters that belong to a control sequence are passed over. -/
theorem itemsFrom_append (cs ds : List Char) : itemsFrom cs.length (cs ++ ds) = items ds := by
  induction cs with
  | nil => rfl
  | cons c cs ih => exact ih

/-- A text without escape characters has no control sequences. -/
theorem items_append (h : escapeChar ∉ cs) (ds : List Char) :
    items (cs ++ ds) = cs.map .char ++ items ds := by
  induction cs with
  | nil => rfl
  | cons c cs ih =>
    have hc : c ≠ escapeChar := fun heq => h (heq ▸ List.mem_cons_self)
    have hcs : escapeChar ∉ cs := fun hmem => h (List.mem_cons_of_mem c hmem)
    rw [items, List.cons_append, itemsFrom, parameters?_of_ne hc]
    exact congrArg (Item.char c :: ·) (ih hcs)

/-- A control sequence is read as a whole. -/
theorem items_sequenceChars (h : parameters.all isParameter = true) (ds : List Char) :
    items (sequenceChars parameters ++ ds) = .sequence parameters :: items ds := by
  have hsplit : sequenceChars parameters ++ ds =
      escapeChar :: ('[' :: parameters ++ ['m'] ++ ds) := rfl
  have hlength : parameters.length + 2 = ('[' :: parameters ++ ['m']).length := by simp
  have hparameters := parameters?_sequenceChars h ds
  rw [hsplit] at hparameters
  rw [hsplit, items, itemsFrom, hparameters]
  dsimp only
  rw [hlength, itemsFrom_append]

example : items "\x1b[1;31mm\x1b[b".toList =
    [.sequence ['1', ';', '3', '1'], .char 'm', .char escapeChar, .char '[', .char 'b'] := by
  decide

end

/-! ## Orders -/

/-- The parameters of an order. -/
def parametersOf (codes : List Nat) : List Char := (";".intercalate (codes.map toString)).toList

/-- The order that parameters give. A number that is left out is zero. -/
def codesOf (parameters : List Char) : List Nat := (parameters.splitOn ';').map Decimal.ofDigits

theorem toList_controlSequence (codes : List Nat) :
    (controlSequence codes).toList = sequenceChars (parametersOf codes) := by
  simp [controlSequence, sequenceChars, parametersOf, escapeChar]

theorem parametersOf_eq (codes : List Nat) :
    parametersOf codes = [';'].intercalate (codes.map (Nat.toDigits 10)) := by
  rw [parametersOf, String.toList_intercalate, List.map_map]
  congr 1
  exact List.map_congr_left fun n _ => Nat.toList_repr

/-- They are digits and the marks between them. -/
theorem isParameter_parametersOf (codes : List Nat) :
    (parametersOf codes).all isParameter = true := by
  have hdigits (n : Nat) : (Nat.toDigits 10 n).all isParameter = true := by
    refine List.all_eq_true.2 fun c hc => ?_
    simp [isParameter, Nat.isDigit_of_mem_toDigits (by decide) (by decide) hc]
  rw [parametersOf_eq]
  induction codes with
  | nil => rfl
  | cons n codes ih =>
    cases codes with
    | nil => simp [hdigits]
    | cons m codes =>
      rw [List.map_cons, List.map_cons, List.intercalate_cons_cons, List.all_append,
        List.all_append, hdigits, ← List.map_cons, ih]
      rfl

/-- **An order is read back from its parameters.** -/
theorem codesOf_parametersOf {codes : List Nat} (h : codes ≠ []) :
    codesOf (parametersOf codes) = codes := by
  have hmark (n : Nat) : ';' ∉ Nat.toDigits 10 n := fun hmem =>
    absurd (Nat.isDigit_of_mem_toDigits (by decide) (by decide) hmem) (by decide)
  rw [codesOf, parametersOf_eq, List.splitOn_intercalate, List.map_map]
  · have hread : Decimal.ofDigits ∘ Nat.toDigits 10 = id := funext Decimal.ofDigits_toDigits
    rw [hread, List.map_id]
  · simpa using fun n _ => hmark n
  · simpa using h

/-! ## What a terminal shows -/

theorem Attribute.mem_all (x : Attribute) : x ∈ Attribute.all := by
  cases x <;> decide

theorem Layer.mem_all (layer : Layer) : layer ∈ Layer.all := by
  cases layer <;> decide

instance : Fintype Attribute := .ofList Attribute.all Attribute.mem_all

instance : Fintype Layer := .ofList Layer.all Layer.mem_all

/-- How text looks on a terminal: which attributes are on, and the colours that are set. -/
structure Appearance where
  on : Attribute → Bool
  color : Layer → Option Color
  deriving DecidableEq

/-- The attribute that a number switches on. -/
def Attribute.ofCode? (code : Nat) : Option Attribute := Attribute.all.find? (·.code = code)

/-- The layer for which the numbers that begin with a digit set a colour. -/
def Layer.ofTens? (tens : Nat) : Option Layer := Layer.all.find? (·.base = 10 * tens)

/-- The colour with a number. -/
def ColorName.ofCode? : Nat → Option ColorName
  | 0 => some .black
  | 1 => some .red
  | 2 => some .green
  | 3 => some .yellow
  | 4 => some .blue
  | 5 => some .magenta
  | 6 => some .cyan
  | 7 => some .white
  | _ => none

namespace Appearance

/-- How text looks when nothing is switched on. -/
def plain : Appearance := ⟨fun _ => false, fun _ => none⟩

/-- With an attribute on. -/
def switchOn (a : Appearance) (x : Attribute) : Appearance :=
  { a with on := Function.update a.on x true }

/-- With another colour for a layer. -/
def setColor (a : Appearance) (layer : Layer) (color : Color) : Appearance :=
  { a with color := Function.update a.color layer (some color) }

/-- How text looks behind a number that is an order of its own. Numbers that no style uses are
passed over. -/
def obeyOne (a : Appearance) (code : Nat) : Appearance :=
  if code = 0 then plain
  else
    match Attribute.ofCode? code with
    | some x => a.switchOn x
    | none =>
      match Layer.ofTens? (code / 10), ColorName.ofCode? (code % 10) with
      | some layer, some name => a.setColor layer (.named name)
      | _, _ => a

/-- How text looks behind some orders in one control sequence. -/
def obey (a : Appearance) : List Nat → Appearance
  | [] => a
  | 38 :: 5 :: place :: codes =>
    (a.setColor .foreground (.palette (.ofNat place))).obey codes
  | 48 :: 5 :: place :: codes =>
    (a.setColor .background (.palette (.ofNat place))).obey codes
  | 38 :: 2 :: r :: g :: b :: codes =>
    (a.setColor .foreground (.rgb (.ofNat r) (.ofNat g) (.ofNat b))).obey codes
  | 48 :: 2 :: r :: g :: b :: codes =>
    (a.setColor .background (.rgb (.ofNat r) (.ofNat g) (.ofNat b))).obey codes
  | code :: codes => (a.obeyOne code).obey codes

/-- How text looks behind an item. -/
def behind (a : Appearance) : Item → Appearance
  | .char _ => a
  | .sequence parameters => a.obey (codesOf parameters)

example : plain.behind (.sequence ['1', ';', '3', '8', ';', '5', ';', '9', ';', '4', '6']) =
    ((plain.switchOn .bold).setColor .foreground (.palette 9)).setColor .background
      (.named .cyan) := by
  decide

end Appearance

/-- A character on a terminal. -/
structure Cell where
  char : Char
  appearance : Appearance
  deriving DecidableEq

/-- What a terminal shows on which text looks some way at first. -/
def look (a : Appearance) : List Item → List Cell
  | [] => []
  | .char c :: items => ⟨c, a⟩ :: look a items
  | .sequence parameters :: items => look (a.behind (.sequence parameters)) items

/-- How text looks on a terminal behind some items. -/
def lookBehind (a : Appearance) (items : List Item) : Appearance :=
  items.foldl Appearance.behind a

/-- Text that looks some way. -/
def paint (a : Appearance) (text : String) : List Cell := text.toList.map (⟨·, a⟩)

theorem look_append (a : Appearance) (is js : List Item) :
    look a (is ++ js) = look a is ++ look (lookBehind a is) js := by
  induction is generalizing a with
  | nil => rfl
  | cons i is ih =>
    cases i with
    | char c => exact congrArg (Cell.mk c a :: ·) (ih a)
    | sequence parameters => exact ih _

theorem lookBehind_append (a : Appearance) (is js : List Item) :
    lookBehind a (is ++ js) = lookBehind (lookBehind a is) js := List.foldl_append

/-- Characters are shown as text looks where they come. -/
theorem look_map_char (a : Appearance) (cs : List Char) :
    look a (cs.map .char) = cs.map (⟨·, a⟩) := by
  induction cs with
  | nil => rfl
  | cons c cs ih => exact congrArg (Cell.mk c a :: ·) ih

/-- Characters change nothing about how text looks. -/
theorem lookBehind_map_char (a : Appearance) (cs : List Char) :
    lookBehind a (cs.map .char) = a := by
  induction cs with
  | nil => rfl
  | cons c cs ih => exact ih

/-- Nothing is shown of control sequences. -/
theorem look_map_sequence (a : Appearance) (ps : List (List Char)) :
    look a (ps.map .sequence) = [] := by
  induction ps generalizing a with
  | nil => rfl
  | cons p ps ih => exact ih _

/-- A terminal obeys the orders in its control sequences one after the other. -/
theorem lookBehind_map_sequence (a : Appearance) {orders : List (List Nat)}
    (h : ∀ codes ∈ orders, codes ≠ []) :
    lookBehind a ((orders.map parametersOf).map .sequence) = orders.foldl Appearance.obey a := by
  induction orders generalizing a with
  | nil => rfl
  | cons codes orders ih =>
    obtain ⟨hcodes, horders⟩ := List.forall_mem_cons.1 h
    have hbehind : a.behind (.sequence (parametersOf codes)) = a.obey codes :=
      congrArg a.obey (codesOf_parametersOf hcodes)
    rw [List.foldl_cons, ← ih _ horders, ← hbehind]
    rfl

theorem filterMap_map_sequence (ps : List (List Char)) :
    (ps.map .sequence).filterMap Item.char? = [] := by
  induction ps with
  | nil => rfl
  | cons p ps ih => exact ih

theorem filterMap_map_char (cs : List Char) : (cs.map .char).filterMap Item.char? = cs := by
  induction cs with
  | nil => rfl
  | cons c cs ih => exact congrArg (c :: ·) ih

/-! ## Styles -/

/-- The colour that is shown for a colour. The bright ones are those of the palette. -/
def Color.shown (intense : Bool) : Color → Color
  | .named name => if intense then .palette (.ofNat (8 + name.code)) else .named name
  | color => color

namespace Style

/-- The colour that is shown on a layer, if a style says one. -/
def shown (s : Style) (layer : Layer) : Option Color := (s.color layer).map (Color.shown s.intense)

/-- How text looks when a style is switched on where it looks some way: the style adds attributes
and replaces colours, unless it starts anew. -/
def onto (s : Style) (a : Appearance) : Appearance :=
  let before := if s.reset then .plain else a
  ⟨fun x => s.has x || before.on x, fun layer => (s.shown layer).or (before.color layer)⟩

/-- How text looks in a style. -/
def appearance (s : Style) : Appearance := s.onto .plain

/-- The parameters of the control sequences that switch a style on. -/
def parameters (s : Style) : List (List Char) := s.codes.map parametersOf

/-- What a terminal receives of a style. -/
def items (s : Style) : List Item := s.parameters.map .sequence

end Style

/-- An attribute is switched on by its number. -/
theorem Appearance.obey_attribute (a : Appearance) (x : Attribute) :
    a.obey [x.code] = a.switchOn x := by
  cases x <;> rfl

/-- The colour of a layer is set by its order. -/
theorem Appearance.obey_color (a : Appearance) (layer : Layer) (intense : Bool) (color : Color) :
    a.obey (color.codes layer intense) = a.setColor layer (color.shown intense) := by
  cases color with
  | named name => cases layer <;> cases intense <;> cases name <;> rfl
  | palette place =>
    have hplace : UInt8.ofNat place.toNat = place := UInt8.ofNat_toNat
    cases layer <;> exact congrArg (fun p => a.setColor _ (.palette p)) hplace
  | rgb red green blue =>
    cases layer <;> simp [Color.codes, Layer.base, Appearance.obey, Color.shown]

/-- Attributes are switched on one after the other. -/
theorem Appearance.foldl_attributes (a : Appearance) (xs : List Attribute) :
    (xs.map fun x => [x.code]).foldl obey a =
      { a with on := fun x => decide (x ∈ xs) || a.on x } := by
  induction xs generalizing a with
  | nil => simp
  | cons x xs ih =>
    rw [List.map_cons, List.foldl_cons, obey_attribute, ih]
    congr 1
    funext y
    by_cases hy : y = x <;> simp [switchOn, hy]

/-- The colour of a layer is set if a style says one. -/
theorem Appearance.foldl_color (a : Appearance) (s : Style) (layer : Layer) :
    ((s.color layer).map (Color.codes layer s.intense)).toList.foldl obey a =
      { a with color := Function.update a.color layer ((s.shown layer).or (a.color layer)) } := by
  rw [Style.shown]
  cases s.color layer with
  | none => exact congrArg (Appearance.mk a.on) (Function.update_eq_self layer a.color).symm
  | some color => exact a.obey_color layer s.intense color

/-- The colours of layers are set one after the other. -/
theorem Appearance.foldl_colors (a : Appearance) (s : Style) (layers : List Layer) :
    (layers.flatMap fun layer =>
        ((s.color layer).map (Color.codes layer s.intense)).toList).foldl obey a =
      { a with color := fun layer =>
          if layer ∈ layers then (s.shown layer).or (a.color layer) else a.color layer } := by
  induction layers generalizing a with
  | nil => simp
  | cons layer layers ih =>
    rw [List.flatMap_cons, List.foldl_append, foldl_color, ih]
    congr 1
    funext l
    by_cases hl : l = layer
    · simp [hl, ← Option.or_assoc]
    · simp [hl]

section

variable {s : Style} {p : List Char}

/-- No order of a style is empty. -/
theorem ne_nil_of_mem_codes {codes : List Nat} (h : codes ∈ s.codes) : codes ≠ [] := by
  rcases List.mem_append.1 h with h | hcolor
  · rcases List.mem_append.1 h with hreset | hattribute
    · split at hreset
      · rw [List.mem_singleton.1 hreset]
        exact List.cons_ne_nil 0 []
      · contradiction
    · obtain ⟨x, -, rfl⟩ := List.mem_map.1 hattribute
      exact List.cons_ne_nil _ []
  · obtain ⟨layer, -, hcodes⟩ := List.mem_flatMap.1 hcolor
    obtain ⟨color, -, rfl⟩ := Option.map_eq_some_iff.1 (Option.mem_toList.1 hcodes)
    unfold Color.codes
    repeat' split
    all_goals exact List.cons_ne_nil _ _

/-- Only digits and the marks between them stand in the parameters of a style. -/
theorem isParameter_of_mem_parameters (h : p ∈ s.parameters) : p.all isParameter = true := by
  obtain ⟨codes, -, rfl⟩ := List.mem_map.1 h
  exact isParameter_parametersOf codes

theorem toList_sequence (s : Style) : s.sequence.toList = s.parameters.flatMap sequenceChars := by
  rw [Style.sequence, String.toList_join, List.flatMap_map, Style.parameters, List.flatMap_map]
  simp only [toList_controlSequence]

example :
    let s : Style :=
      { foreground := some (.rgb 255 0 7), background := some (.named .cyan), underline := true,
        intense := true, reset := false }
    s.sequence = "\x1b[4m\x1b[38;2;255;0;7m\x1b[48;5;14m" := by
  decide

theorem items_sequence (s : Style) (ds : List Char) :
    items (s.sequence.toList ++ ds) = s.items ++ items ds := by
  rw [toList_sequence, Style.items]
  have hparameters := @isParameter_of_mem_parameters s
  generalize s.parameters = ps at hparameters
  induction ps with
  | nil => rfl
  | cons p ps ih =>
    rw [List.flatMap_cons, List.append_assoc,
      items_sequenceChars (hparameters List.mem_cons_self),
      ih fun hp => hparameters (List.mem_cons_of_mem p hp)]
    rfl

/-- The orders of a style do to the look of a text what the style says. -/
theorem foldl_codes (s : Style) (a : Appearance) : s.codes.foldl Appearance.obey a = s.onto a := by
  have hreset : (if s.reset then [[0]] else []).foldl Appearance.obey a =
      if s.reset then .plain else a := by
    split <;> rfl
  rw [Style.codes, List.foldl_append, List.foldl_append, hreset, Appearance.foldl_attributes,
    Appearance.foldl_colors, Style.onto]
  congr 1
  · funext x
    simp [Attribute.mem_all]
  · funext layer
    exact if_pos layer.mem_all

/-- **The control sequences of a style switch it on.** -/
theorem lookBehind_items (s : Style) (a : Appearance) : lookBehind a s.items = s.onto a := by
  rw [Style.items, Style.parameters, lookBehind_map_sequence a fun _ => ne_nil_of_mem_codes,
    foldl_codes]

end

end ScriptCheck
