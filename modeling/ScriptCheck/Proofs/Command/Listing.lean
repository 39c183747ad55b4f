import ScriptCheck.Command.Check
import ScriptCheck.Proofs.Lists

/-!
# Reading a token listing back

A listing has a line for each token: its position, the name of its kind and its text in quotes. No
part of a line can be mistaken for another one, and the quoted form of a text lets no line end
through, so the tokens can be read back from their listing.

* `unescape`, `unescape_escaped` — a character in quotes
* `readQuoted?`, `readQuoted?_quotedChars` — a text in quotes
* `readLine?`, `readLine?_listedLine` — a line
* `listing_reads_back` — the listing of a script
-/

namespace ScriptCheck

open Text

/-- What stands in front of the first character of a kind, and what stands behind it. -/
def cutAt (mark : Char) (cs : List Char) : List Char × List Char :=
  (cs.takeWhile (· ≠ mark), (cs.dropWhile (· ≠ mark)).tail)

theorem cutAt_append {mark : Char} {front : List Char} (h : mark ∉ front) (back : List Char) :
    cutAt mark (front ++ mark :: back) = (front, back) := by
  have hfront : ∀ c ∈ front, decide (c ≠ mark) = true :=
    fun c hc => decide_eq_true fun heq => h (heq ▸ hc)
  have hmark : ∀ c ∈ (mark :: back).head?, decide (c ≠ mark) = false := by simp
  rw [cutAt, takeWhile_front hfront hmark, dropWhile_front hfront hmark, List.tail_cons]

theorem length_cutAt_le (mark : Char) (cs : List Char) : (cutAt mark cs).2.length ≤ cs.length := by
  have hdrop := (List.dropWhile_suffix (l := cs) (· ≠ mark)).length_le
  rw [cutAt, List.length_tail]
  omega

/-! ## Digits -/

namespace Text

/-- What is none of the digits of a base is in no number. -/
theorem not_mem_toDigits {base : Nat} {c : Char} (hbase : 1 < base)
    (h : ∀ d < base, c ≠ Nat.digitChar d) (n : Nat) : c ∉ Nat.toDigits base n := by
  induction n using Nat.strongRecOn with
  | ind n ih =>
    by_cases hn : n < base
    · rw [Nat.toDigits_of_lt_base hn, List.mem_singleton]
      exact h n hn
    · have hle := Nat.le_of_not_lt hn
      rw [Nat.toDigits_of_base_le hbase hle, List.mem_append, List.mem_singleton]
      rintro (hc | hc)
      · exact ih (n / base) (Nat.div_lt_self (by omega) hbase) hc
      · exact h (n % base) (Nat.mod_lt n (by omega)) hc

/-- What a hexadecimal digit stands for. -/
def hexDigit (c : Char) : Nat :=
  if c.isDigit then c.toNat - '0'.toNat else c.toNat - 'a'.toNat + 10

/-- What a row of hexadecimal digits stands for. -/
def hexadecimal (digits : List Char) : Nat := digits.foldl (fun n c => 16 * n + hexDigit c) 0

theorem hexDigit_digitChar : ∀ d < 16, hexDigit d.digitChar = d := by decide

theorem hexadecimal_toDigits (n : Nat) : hexadecimal (Nat.toDigits 16 n) = n := by
  induction n using Nat.strongRecOn with
  | ind n ih =>
    by_cases hn : n < 16
    · rw [Nat.toDigits_of_lt_base hn, hexadecimal, List.foldl_cons, List.foldl_nil,
        hexDigit_digitChar n hn, Nat.mul_zero, Nat.zero_add]
    · have hquotient := ih (n / 16) (by omega)
      rw [hexadecimal] at hquotient
      rw [Nat.toDigits_of_base_le (by decide) (by omega), hexadecimal, List.foldl_append,
        hquotient, List.foldl_cons, List.foldl_nil, hexDigit_digitChar _ (by omega)]
      omega

/-! ## Quoted text -/

/-- The character for which the beginning of a quoted text stands, and what is behind it. The text
starts with the character `c`. -/
def unescape (c : Char) (cs : List Char) : Char × List Char :=
  match c, cs with
  | '\\', 'u' :: '\x7b' :: cs =>
    (Char.ofNat (hexadecimal (cutAt '\x7d' cs).1), (cutAt '\x7d' cs).2)
  | '\\', letter :: cs =>
    match Escape.ofLetter? letter with
    | some e => (e.value, cs)
    | none => ('\\', letter :: cs)
  | c, cs => (c, cs)

theorem length_unescape_le (c : Char) (cs : List Char) : (unescape c cs).2.length ≤ cs.length := by
  unfold unescape
  split
  · next cs =>
    exact Nat.le_trans (length_cutAt_le _ cs) (by simp only [List.length_cons]; omega)
  · split
    · exact Nat.le_succ _
    · exact Nat.le_refl _
  · exact Nat.le_refl _

/-- The text up to the next quote, and what is behind the quote. -/
def readQuoted? (quote : Char) : List Char → Option (List Char × List Char)
  | [] => none
  | c :: cs =>
    if c = quote then some ([], cs)
    else (readQuoted? quote (unescape c cs).2).map fun (ds, rest) => ((unescape c cs).1 :: ds, rest)
termination_by cs => cs.length
decreasing_by exact Nat.lt_succ_of_le (length_unescape_le c cs)

/-- **A character is read back from its quoted form, whatever follows.** -/
theorem unescape_escaped (c : Char) (rest : List Char) :
    ∃ d ds, escaped '"' c = d :: ds ∧ d ≠ '"' ∧ unescape d (ds ++ rest) = (c, rest) := by
  rw [escaped]
  split
  · next letter hletter =>
    -- a backslash and a letter
    refine ⟨'\\', [letter], rfl, by decide, ?_⟩
    unfold escapeLetter? at hletter
    split at hletter <;> cases hletter <;> rfl
  · next hnone =>
    have hbackslash : c ≠ '\\' := by
      rintro rfl
      contradiction
    split
    · next hquote =>
      rw [beq_iff_eq.1 hquote]
      exact ⟨'\\', ['"'], rfl, by decide, rfl⟩
    · next hquote =>
      have hplain : unescape c rest = (c, rest) := by simp [unescape, hbackslash]
      split
      · exact ⟨c, [], rfl, by simpa using hquote, hplain⟩
      · -- the number of the character, up to the brace that closes it: no digit is one
        refine ⟨'\\', 'u' :: '\x7b' :: Nat.toDigits 16 c.toNat ++ ['\x7d'], rfl, by decide, ?_⟩
        have hclosing : '\x7d' ∉ Nat.toDigits 16 c.toNat :=
          not_mem_toDigits (by decide) (by decide) _
        simp [unescape, cutAt_append hclosing, hexadecimal_toDigits]

/-- **A text is read back from its quoted form.** -/
theorem readQuoted?_quotedChars (cs rest : List Char) :
    readQuoted? '"' (cs.flatMap (escaped '"') ++ '"' :: rest) = some (cs, rest) := by
  induction cs with
  | nil => simp [readQuoted?]
  | cons c cs ih =>
    obtain ⟨d, ds, hescaped, hd, hunescape⟩ :=
      unescape_escaped c (cs.flatMap (escaped '"') ++ '"' :: rest)
    rw [List.flatMap_cons, List.append_assoc, hescaped, List.cons_append, readQuoted?, if_neg hd,
      hunescape, ih]
    rfl

/-- The quoted form of a text stands on one line. -/
theorem lineFeed_not_mem_quotedChars (cs : List Char) : '\n' ∉ quotedChars '"' cs := by
  have hescaped (c : Char) : '\n' ∉ escaped '"' c := by
    rw [escaped]
    split
    · next letter hletter =>
      unfold escapeLetter? at hletter
      split at hletter <;> cases hletter <;> decide
    · next hnone =>
      have hfeed : c ≠ '\n' := by
        rintro rfl
        contradiction
      repeat' split
      · simp [hfeed.symm]
      · simp [hfeed.symm]
      · have hdigits : '\n' ∉ Nat.toDigits 16 c.toNat := not_mem_toDigits (by decide) (by decide) _
        simp [codeEscape, hdigits]
  simp [quotedChars, hescaped]

end Text

/-! ## Lines -/

namespace Command

/-- What a listing has on the line of a token. -/
def listedLine (t : Token) : List Char :=
  (toString t.pos).toList ++ ' ' :: (t.kind.label.toList ++ ' ' :: quotedChars '"' t.text.toList)

/-- The token of a line. -/
def readLine? (cs : List Char) : Option Token := do
  let (digits, behind) := cutAt ' ' cs
  let (label, quotation) := cutAt ' ' behind
  let kind ← TokenKind.ofLabel? (String.ofList label)
  match quotation with
  | '"' :: body =>
    match readQuoted? '"' body with
    | some (text, []) => some ⟨kind, Decimal.ofDigits digits, String.ofList text⟩
    | _ => none
  | _ => none

/-- The tokens of a listing, in which every line is ended. -/
def readListing? (listing : String) : Option (List Token) :=
  (listing.toList.splitOn '\n').dropLast.mapM readLine?

theorem toList_listToken (t : Token) : (listToken t).toList = listedLine t ++ ['\n'] := by
  simp [listToken, listedLine, quoted]

theorem ofLabel?_label (kind : TokenKind) : TokenKind.ofLabel? kind.label = some kind := by
  cases kind with
  | keyword word => cases word <;> rfl
  | _ => rfl

/-- Neither a blank nor a line end is part of a label. -/
theorem not_mem_label (kind : TokenKind) : ' ' ∉ kind.label.toList ∧ '\n' ∉ kind.label.toList := by
  cases kind with
  | keyword word => cases word <;> decide
  | _ => decide

/-- **A line ends where it seems to.** -/
theorem lineFeed_not_mem_listedLine (t : Token) : '\n' ∉ listedLine t := by
  have hpos : '\n' ∉ Nat.toDigits 10 t.pos := not_mem_toDigits (by decide) (by decide) _
  have hlabel := (not_mem_label t.kind).2
  have hquoted := lineFeed_not_mem_quotedChars t.text.toList
  simp [listedLine, hpos, hlabel, hquoted]

/-- **A token is read back from its line.** -/
theorem readLine?_listedLine (t : Token) : readLine? (listedLine t) = some t := by
  have hpos : ' ' ∉ (toString t.pos).toList := by
    rw [Nat.toString_eq_repr, Nat.toList_repr]
    exact not_mem_toDigits (by decide) (by decide) _
  have hlabel := (not_mem_label t.kind).1
  have hquoted := readQuoted?_quotedChars t.text.toList []
  rw [readLine?, listedLine, cutAt_append hpos]
  dsimp only
  rw [cutAt_append hlabel]
  simp [ofLabel?_label, quotedChars, hquoted, Decimal.ofDigits_toDigits]

/-! ## Listings -/

/-- A listing falls into the lines of its tokens. -/
theorem splitOn_listing (ts : List Token) :
    (String.join (ts.map listToken)).toList.splitOn '\n' = ts.map listedLine ++ [[]] := by
  rw [String.toList_join, List.flatMap_map]
  induction ts with
  | nil => rfl
  | cons t ts ih =>
    rw [List.flatMap_cons, toList_listToken, List.append_assoc, List.singleton_append,
      List.splitOn_append_cons_self_of_not_mem (lineFeed_not_mem_listedLine t), ih]
    rfl

/-- **The tokens are read back from their listing.** -/
theorem readListing?_listing (ts : List Token) :
    readListing? (String.join (ts.map listToken)) = some ts := by
  rw [readListing?, splitOn_listing, List.dropLast_concat, List.mapM_map]
  have hlines : ts.mapM (readLine? ∘ listedLine) = some (ts.map id) :=
    mapM_eq_some_map fun t _ => readLine?_listedLine t
  rw [hlines, List.map_id]

/-- **The listing of a script has a line for each token, in order, and nothing else. Each line, and
so the whole listing, can be read back, so scripts with different tokens have different
listings.** -/
theorem listing_reads_back (source : SourceFile) (m : Module) :
    (∃ lines : List (List Char),
      (Emission.tokens.print source m).toList = lines.flatMap (· ++ ['\n']) ∧
      (∀ line ∈ lines, '\n' ∉ line) ∧
      lines.length = (tokens source.text).length ∧
      List.Forall₂ (fun line t => readLine? line = some t) lines (tokens source.text)) ∧
    readListing? (Emission.tokens.print source m) = some (tokens source.text) ∧
    ∀ (other : SourceFile) (m' : Module),
      Emission.tokens.print other m' = Emission.tokens.print source m ↔
        tokens other.text = tokens source.text := by
  have hread (f : SourceFile) (m : Module) :
      readListing? (Emission.tokens.print f m) = some (tokens f.text) := readListing?_listing _
  refine ⟨⟨(tokens source.text).map listedLine, ?_, ?_, List.length_map _, ?_⟩, hread source m,
    fun other m' => ⟨fun heq => ?_, fun heq => ?_⟩⟩
  · rw [Emission.print, String.toList_join, List.flatMap_map, List.flatMap_map]
    simp only [toList_listToken]
  · intro l hl
    obtain ⟨t, -, rfl⟩ := List.mem_map.1 hl
    exact lineFeed_not_mem_listedLine t
  · rw [List.forall₂_map_left_iff, List.forall₂_same]
    exact fun t _ => readLine?_listedLine t
  · have hother := hread other m'
    rw [heq, hread source m] at hother
    exact (Option.some.inj hother).symm
  · rw [Emission.print, Emission.print, heq]

end Command

end ScriptCheck
