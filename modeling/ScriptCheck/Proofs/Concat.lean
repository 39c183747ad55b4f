import ScriptCheck.Proofs.Report
import ScriptCheck.Proofs.Token.Place
import ScriptCheck.Proofs.Tree.Relocate

/-!
# One source behind another

Where a source ends with a terminator, it can be cut off from what follows: both parts give what
they give alone. A carriage return at the end of the first part and a line feed at the beginning of
the second one become a single line end, which changes no statement and no error.

* `PlacedLexeme.Alike` — the same lexeme in another place, or another spelling of a line end
* `exists_lexemes_append` — the lexemes of two texts, one behind the other
* `reportByToken_alike` — alike lexemes are reported alike
* `parse_append` — the statements and the diagnostics of two sources, one behind the other
-/

namespace ScriptCheck

open Text

/-! ## Moving errors and lexemes -/

section

variable (f : Nat → Nat)

/-- The error in another place. -/
def LexError.relocate (e : LexError) : LexError := { e with pos := f e.pos }

/-- The label in another place. -/
def Label.relocate (l : Label) : Label := { l with pos := f l.pos }

/-- The diagnostic and its labels in other places. -/
def Diagnostic.relocate (d : Diagnostic) : Diagnostic :=
  { d with pos := f d.pos, labels := d.labels.map (·.relocate f) }

@[simp] theorem LexError.toDiagnostic_relocate (e : LexError) :
    (e.relocate f).toDiagnostic = e.toDiagnostic.relocate f := rfl

@[simp] theorem ParseError.toDiagnostic_relocate (e : ParseError) :
    (e.relocate f).toDiagnostic = e.toDiagnostic.relocate f := rfl

end

@[simp] theorem Diagnostic.relocate_id (d : Diagnostic) : d.relocate id = d := by
  have hlabel : (fun l : Label => l.relocate id) = id := rfl
  rw [relocate, hlabel, List.map_id]
  rfl

/-- Whether a lexeme is the same as another one for reading and reporting, in the place to which `f`
moves it. -/
structure PlacedLexeme.Alike (f : Nat → Nat) (l m : PlacedLexeme) : Prop where
  token : l.token.Alike f m.token
  errors : m.errors = l.errors.map (·.relocate f)

theorem StringElement.errors_add (n pos : Nat) (es : List StringElement) :
    errors (pos + n) es = (errors pos es).map (·.relocate (· + n)) := by
  induction es generalizing pos with
  | nil => rfl
  | cons e es ih =>
    have hpos : pos + n + byteSize e.raw = pos + byteSize e.raw + n := by omega
    have hhere : e.error? (pos + n) = (e.error? pos).map (·.relocate (· + n)) := by
      cases e <;> rfl
    rw [errors, errors, hpos, ih, hhere, List.map_append]
    cases e.error? pos <;> rfl

/-- The errors of a lexeme move with it. -/
theorem Lexeme.errors_add (n pos : Nat) (l : Lexeme) :
    l.errors (pos + n) = (l.errors pos).map (·.relocate (· + n)) := by
  cases l with
  | string quote body closed =>
    have hpos : pos + n + quote.utf8Size = pos + quote.utf8Size + n := by omega
    rw [errors, errors, hpos, StringElement.errors_add, List.map_append]
    cases closed <;> rfl
  | _ => rfl

/-! ## Alike lexemes -/

theorem alike_of_add (n pos : Nat) (l : Lexeme) :
    PlacedLexeme.Alike (· + n) ⟨pos, l⟩ ⟨pos + n, l⟩ :=
  ⟨⟨rfl, rfl, fun _ => rfl⟩, l.errors_add n pos⟩

theorem placeLexemes_alike (n pos : Nat) (ls : List Lexeme) :
    List.Forall₂ (PlacedLexeme.Alike (· + n)) (placeLexemes pos ls)
      (placeLexemes (pos + n) ls) := by
  induction ls generalizing pos with
  | nil => exact .nil
  | cons l ls ih =>
    have hpos : pos + n + byteSize l.raw = pos + byteSize l.raw + n := by omega
    rw [placeLexemes_cons, placeLexemes_cons, hpos]
    exact .cons (alike_of_add n pos l) (ih _)

/-- Line ends are alike however they are written. -/
theorem alike_lineEnd (pos : Nat) (e e' : LineEnd) :
    PlacedLexeme.Alike id ⟨pos, .lineEnd e⟩ ⟨pos, .lineEnd e'⟩ :=
  ⟨⟨rfl, rfl, nofun⟩, rfl⟩

/-! ## The lexemes of two texts -/

theorem Lexeme.stops_of_isTerminator {l : Lexeme} (h : l.kind.isTerminator = true)
    {cs : List Char} (hcs : l = .lineEnd .carriageReturn → ∀ c ∈ cs.head?, c ≠ '\n') :
    l.Stops cs := by
  intro c hc
  cases l with
  | lineEnd e =>
    cases e with
    | carriageReturn => simpa [takes] using hcs rfl c hc
    | _ => rfl
  | semicolon => rfl
  | word letters =>
    rw [kind] at h
    split at h <;> contradiction
  | _ => contradiction

theorem Lexeme.errors_of_newline {l : Lexeme} (h : l.kind = .newline) (pos : Nat) :
    l.errors pos = [] := by
  cases l with
  | string | unknown => contradiction
  | _ => rfl

/-- A row that ends with a terminator stops before every text, unless a line feed goes with it. -/
theorem Apart.of_isTerminator {ls : List Lexeme} {cs : List Char} (h : Apart [] ls)
    (hlast : ∀ l ∈ ls.getLast?, l.kind.isTerminator = true)
    (hcs : .lineEnd .carriageReturn ∈ ls.getLast? → ∀ c ∈ cs.head?, c ≠ '\n') : Apart cs ls := by
  rcases List.eq_nil_or_concat ls with rfl | ⟨init, l, rfl⟩
  · trivial
  · rw [List.concat_eq_append] at h hlast hcs ⊢
    rw [append_iff] at h ⊢
    obtain ⟨hinit, hwf, -⟩ := h
    refine ⟨hinit.congr ?_, hwf, ?_, trivial⟩
    · obtain ⟨c, ds, hc⟩ := List.exists_cons_of_ne_nil hwf.raw_ne_nil
      simp [hc]
    · refine l.stops_of_isTerminator (hlast l (by simp)) ?_
      rintro rfl
      exact hcs (by simp)

/-- **A text behind another one that ends with a terminator has its own lexemes behind those of the
other one. Only a line feed at its beginning can belong to the line end in front of it.** -/
theorem exists_lexemes_append {as bs : List Char}
    (h : ∀ l ∈ (lexemes as).getLast?, l.kind.isTerminator = true) :
    ∃ front blank rest, lexemes (as ++ bs) = front ++ rest ∧ lexemes bs = blank ++ rest ∧
      (∀ l ∈ blank, l.kind = .newline) ∧
      byteSize (front.flatMap Lexeme.raw) =
        byteSize (blank.flatMap Lexeme.raw) + byteSize as ∧
      List.Forall₂ (PlacedLexeme.Alike id) (placeLexemes 0 (lexemes as))
        (placeLexemes 0 front) := by
  have hraw := flatMap_raw_lexemes as
  have hapart := apart_lexemes as
  by_cases hcr : ∃ init bs', lexemes as = init ++ [.lineEnd .carriageReturn] ∧ bs = '\n' :: bs'
  · -- the two line ends become one, and the second text starts behind it
    obtain ⟨init, bs, has, rfl⟩ := hcr
    rw [has] at hraw hapart ⊢
    rw [Apart.append_iff] at hapart
    have hfront : Apart bs (init ++ [.lineEnd .carriageReturnLineFeed]) := by
      rw [Apart.append_iff]
      exact ⟨hapart.1.congr rfl, trivial, fun c _ => rfl, trivial⟩
    have hblank : Apart bs [.lineEnd .lineFeed] := ⟨trivial, fun c _ => rfl, trivial⟩
    refine ⟨init ++ [.lineEnd .carriageReturnLineFeed], [.lineEnd .lineFeed], lexemes bs, ?_,
      lexemes_append hblank, by simp [Lexeme.kind], ?_, ?_⟩
    · rw [← lexemes_append hfront, ← hraw]
      simp [Lexeme.raw, LineEnd.raw]
    · rw [← hraw]
      simp [Lexeme.raw, LineEnd.raw]
      omega
    · rw [placeLexemes_append, placeLexemes_append]
      refine List.rel_append (placeLexemes_alike 0 0 init) ?_
      exact .cons (alike_lineEnd _ _ _) .nil
  · have hfront : Apart bs (lexemes as) := by
      refine hapart.of_isTerminator h fun hlast c hc hlf => ?_
      obtain ⟨init, hinit⟩ := List.getLast?_eq_some_iff.1 hlast
      obtain ⟨bs', hbs⟩ := List.head?_eq_some_iff.1 hc
      exact hcr ⟨init, bs', hinit, by rw [hbs, hlf]⟩
    refine ⟨lexemes as, [], lexemes bs, ?_, rfl, by simp, ?_, placeLexemes_alike 0 0 _⟩
    · rw [← lexemes_append hfront, hraw]
    · rw [hraw]
      simp

/-! ## Reporting alike lexemes -/

theorem map_pos_alike {f : Nat → Nat} {ls ms : List PlacedLexeme}
    (h : List.Forall₂ (PlacedLexeme.Alike f) ls ms) :
    ms.map PlacedLexeme.pos = (ls.map PlacedLexeme.pos).map f := by
  induction h with
  | nil => rfl
  | cons hl _ ih =>
    rw [List.map_cons, List.map_cons, List.map_cons, ih]
    congr 1
    exact hl.token.pos

/-- **Alike lexemes are reported alike, in the other places.** -/
theorem reportByToken_alike {f : Nat → Nat} (hf : Function.Injective f) {ls ms : List PlacedLexeme}
    (h : List.Forall₂ (PlacedLexeme.Alike f) ls ms) (es : List ParseError) :
    reportByToken ms (es.map (·.relocate f)) = (reportByToken ls es).map (·.relocate f) := by
  induction h generalizing es with
  | nil => simp
  | @cons l m ls ms hl _ ih =>
    have hpos : m.pos = f l.pos := hl.token.pos
    have herrors : m.errors.map LexError.toDiagnostic =
        (l.errors.map LexError.toDiagnostic).map (·.relocate f) := by
      rw [hl.errors]
      simp
    obtain ⟨e, later, rfl, he⟩ | hhead := head_cases (·.pos = l.pos) es
    · have he' : (e.relocate f).pos = m.pos := by
        rw [hpos, ← he]
        rfl
      rw [List.map_cons, reportByToken_here he, reportByToken_here he', ih, herrors]
      simp
    · have hhead' : ∀ e ∈ (es.map (·.relocate f)).head?, e.pos ≠ m.pos := by
        intro e he
        rw [List.head?_map] at he
        obtain ⟨e', he', rfl⟩ := Option.map_eq_some_iff.1 he
        rw [hpos]
        exact fun heq => hhead e' he' (hf heq)
      rw [reportByToken_later hhead, reportByToken_later hhead', ih, herrors, List.map_append]

theorem significantTokens_alike {f : Nat → Nat} {ls ms : List PlacedLexeme}
    (h : List.Forall₂ (PlacedLexeme.Alike f) ls ms) :
    List.Forall₂ (Token.Alike f) (significantTokens ls) (significantTokens ms) := by
  refine List.rel_filter ?_ (List.rel_map (fun l m hl => hl.token) h)
  intro t u ht
  show _ ↔ (!u.kind.isTrivia) = true
  rw [ht.kind]

theorem significantTokens_append (ls ms : List PlacedLexeme) :
    significantTokens (ls ++ ms) = significantTokens ls ++ significantTokens ms := by
  rw [significantTokens, List.map_append, List.filter_append]
  rfl

/-! ## Sources -/

theorem Ended.alike {f : Nat → Nat} {ts us : List Token} (hts : Ended ts)
    (h : List.Forall₂ (Token.Alike f) ts us) : Ended us := by
  have hkinds : us.map Token.kind = ts.map Token.kind := by
    induction h with
    | nil => rfl
    | cons ht _ ih => rw [List.map_cons, List.map_cons, ht.kind, ih hts.tail]
  intro u hu
  have hlast : u.kind ∈ (us.map Token.kind).getLast? := by
    rw [List.getLast?_map]
    exact Option.mem_map_of_mem Token.kind hu
  rw [hkinds, List.getLast?_map] at hlast
  obtain ⟨t, ht, hkind⟩ := Option.map_eq_some_iff.1 hlast
  rw [← hkind]
  exact hts t ht

/-- Line ends in front of a text are read to nothing. -/
theorem readStatements_newlines {ts : List Token} (h : ∀ t ∈ ts, t.kind = .newline)
    (inputEnd : Nat) (us : List Token) :
    readStatements inputEnd (ts ++ us) = readStatements inputEnd us := by
  induction ts with
  | nil => rfl
  | cons t ts ih =>
    rw [List.cons_append, readStatements_newline _ (h t List.mem_cons_self)]
    exact ih fun u hu => h u (List.mem_cons_of_mem t hu)

/-- A parse error is reported at one of the lexemes or at the end of the input. -/
theorem pos_of_mem_errors {inputEnd : Nat} {ls : List PlacedLexeme} {e : ParseError}
    (he : e ∈ (readStatements inputEnd (significantTokens ls)).errors) :
    e.pos = inputEnd ∨ ∃ l ∈ ls, e.pos = l.pos := by
  have hmem := (errors_sublist inputEnd (significantTokens ls)).subset (List.mem_map_of_mem he)
  rcases List.mem_append.1 hmem with hmem | hmem
  · obtain ⟨t, ht, hpos⟩ := List.mem_map.1 hmem
    obtain ⟨l, hl, rfl⟩ := List.mem_map.1 (List.mem_of_mem_filter ht)
    exact .inr ⟨l, hl, hpos.symm⟩
  · exact .inl (List.mem_singleton.1 hmem)

/-- The lexemes of two sources, of which the first one ends with a terminator. Only line ends at the
beginning of the second one can be lost. -/
theorem exists_scan_append {a : String} (h : Ended (tokens a)) (b : String) :
    ∃ front blank rest back, scan (a ++ b) = front ++ back ∧ scan b = blank ++ rest ∧
      (∀ l ∈ blank, l.lexeme.kind = .newline) ∧ (∀ l ∈ blank, ∀ m ∈ rest, l.pos < m.pos) ∧
      List.Forall₂ (PlacedLexeme.Alike id) (scan a) front ∧
      List.Forall₂ (PlacedLexeme.Alike (· + a.utf8ByteSize)) rest back := by
  have hlast : ∀ l ∈ (lexemes a.toList).getLast?, l.kind.isTerminator = true := by
    intro l hl
    rw [← map_lexeme_placeLexemes 0 (lexemes a.toList), List.getLast?_map] at hl
    obtain ⟨m, hm, rfl⟩ := Option.map_eq_some_iff.1 hl
    refine h m.token ?_
    rw [tokens, List.getLast?_map]
    exact Option.mem_map_of_mem PlacedLexeme.token hm
  obtain ⟨front, blank, rest, hab, hb, hblank, hsize, hfront⟩ :=
    @exists_lexemes_append a.toList b.toList hlast
  have hraw : ∀ l ∈ blank ++ rest, l.raw ≠ [] := by
    intro l hl
    rw [← hb] at hl
    exact ((apart_lexemes b.toList).wellFormed l hl).raw_ne_nil
  refine ⟨placeLexemes 0 front, placeLexemes 0 blank,
    placeLexemes (0 + byteSize (blank.flatMap Lexeme.raw)) rest,
    placeLexemes (0 + byteSize (blank.flatMap Lexeme.raw) + a.utf8ByteSize) rest, ?_, ?_, ?_, ?_,
    hfront, placeLexemes_alike _ _ rest⟩
  · rw [scan, String.toList_append, hab, placeLexemes_append, hsize, byteSize_toList,
      Nat.add_assoc]
  · rw [scan, hb, placeLexemes_append]
  · intro l hl
    refine hblank l.lexeme ?_
    rw [← map_lexeme_placeLexemes 0 blank]
    exact List.mem_map_of_mem hl
  · intro l hl m hm
    have hbefore := pos_of_mem_placeLexemes (fun l hl => hraw l (List.mem_append_left _ hl)) hl
    have hbehind := pos_of_mem_placeLexemes (fun l hl => hraw l (List.mem_append_right _ hl)) hm
    omega

section

variable {f : Nat → Nat} {ls ms front blank rest back : List PlacedLexeme}

theorem readStatements_significantTokens_blank (hblank : ∀ l ∈ blank, l.lexeme.kind = .newline)
    (inputEnd : Nat) :
    readStatements inputEnd (significantTokens (blank ++ rest)) =
      readStatements inputEnd (significantTokens rest) := by
  rw [significantTokens_append]
  refine readStatements_newlines (fun t ht => ?_) inputEnd _
  obtain ⟨l, hl, rfl⟩ := List.mem_map.1 (List.mem_of_mem_filter ht)
  exact hblank l hl

/-- Alike tokens behind a text that ends with a terminator, and line ends in front of them: reading
goes the same way. -/
theorem readStatements_significantTokens_append (h : Ended (significantTokens ls))
    (hfront : List.Forall₂ (PlacedLexeme.Alike id) ls front)
    (hblank : ∀ l ∈ blank, l.lexeme.kind = .newline)
    (hback : List.Forall₂ (PlacedLexeme.Alike f) rest back) (frontEnd inputEnd : Nat) :
    readStatements (f inputEnd) (significantTokens (front ++ back)) =
      readStatements frontEnd (significantTokens ls) ++
        (readStatements inputEnd (significantTokens (blank ++ rest))).relocate f := by
  have htokens := significantTokens_alike hfront
  have hread := readStatements_alike htokens frontEnd
  rw [Reading.relocate_id] at hread
  rw [readStatements_significantTokens_blank hblank, significantTokens_append,
    readStatements_append (h.alike htokens) _ frontEnd,
    readStatements_alike (significantTokens_alike hback)]
  exact congrArg (· ++ _) hread

/-- Alike lexemes behind lexemes at which all errors of reading are, and line ends in front of them:
they are reported the same way. -/
theorem reportByToken_alike_append {es fs : List ParseError} (hf : Function.Injective f)
    (hfront : List.Forall₂ (PlacedLexeme.Alike id) ls front)
    (hblank : ∀ l ∈ blank, l.lexeme.kind = .newline)
    (hback : List.Forall₂ (PlacedLexeme.Alike f) rest back)
    (hes : (es.map ParseError.pos).Sublist (ls.map PlacedLexeme.pos))
    (hfs : ∀ e ∈ fs, ∀ l ∈ blank, e.pos ≠ l.pos)
    (hmoved : ∀ e ∈ fs, ∀ l ∈ ls, f e.pos ≠ l.pos) :
    reportByToken (front ++ back) (es ++ fs.map (·.relocate f)) =
      reportByToken ls es ++ (reportByToken (blank ++ rest) fs).map (·.relocate f) := by
  have hposes : front.map PlacedLexeme.pos = ls.map PlacedLexeme.pos := by
    rw [map_pos_alike hfront, List.map_id]
  have hfront_es : reportByToken front es = reportByToken ls es := by
    have hreport := reportByToken_alike Function.injective_id hfront es
    have herror : (fun e : ParseError => e.relocate id) = id := rfl
    rw [herror, List.map_id] at hreport
    rw [hreport]
    simp
  have hnothing : reportByToken blank [] = [] := by
    rw [reportByToken_eq_nil_iff]
    refine ⟨List.flatMap_eq_nil_iff.2 fun l hl => ?_, rfl⟩
    exact l.lexeme.errors_of_newline (hblank l hl) l.pos
  -- line ends have no errors of their own, and none of reading is at them
  have hblank_fs : reportByToken (blank ++ rest) fs = reportByToken rest fs := by
    have happend := @reportByToken_append blank [] fs (List.nil_sublist _) hfs rest
    rwa [hnothing] at happend
  have hmoved' : ∀ e ∈ fs.map (·.relocate f), ∀ l ∈ front, e.pos ≠ l.pos := by
    intro e he l hl
    obtain ⟨e', he', rfl⟩ := List.mem_map.1 he
    have hmem : l.pos ∈ ls.map PlacedLexeme.pos := hposes ▸ List.mem_map_of_mem hl
    obtain ⟨m, hm, hpos⟩ := List.mem_map.1 hmem
    rw [← hpos]
    exact hmoved e' he' m hm
  rw [reportByToken_append (hposes ▸ hes) hmoved', hfront_es, hblank_fs,
    reportByToken_alike hf hback]

end

/-- **Where a source ends with a terminator, reading it together with what follows gives what both
give alone, whatever is wrong in them; only the positions of the second one move.** -/
theorem parse_append (a b : String)
    (h : a = "" ∨
      ∃ t, (tokens a).getLast? = some t ∧ (t.kind = .semicolon ∨ t.kind = .newline)) :
    (parse (a ++ b)).module.statements.toList =
        (parse a).module.statements.toList ++
          (parse b).module.statements.toList.map (·.relocate (· + a.utf8ByteSize)) ∧
      (parse (a ++ b)).diagnostics =
        (parse a).diagnostics ++
          (parse b).diagnostics.map (·.relocate (· + a.utf8ByteSize)) := by
  have hended : Ended (tokens a) := by
    rcases h with rfl | ⟨u, hu, hkind⟩
    · simp [tokens, scan, Ended]
    · intro t ht
      obtain rfl : u = t := Option.some.inj (hu.symm.trans ht)
      rcases hkind with hkind | hkind <;> rw [hkind] <;> rfl
  obtain ⟨front, blank, rest, back, hab, hb, hblank, hbefore, hfront, hback⟩ :=
    exists_scan_append hended b
  have hinputEnd : (a ++ b).utf8ByteSize = b.utf8ByteSize + a.utf8ByteSize := by
    rw [String.utf8ByteSize_append, Nat.add_comm]
  have hreading := readStatements_significantTokens_append hended.filter hfront hblank hback
    a.utf8ByteSize b.utf8ByteSize
  rw [← hab, ← hb, ← hinputEnd] at hreading
  constructor
  · simp only [parse, hreading, Numbered.toList_ofList, Reading.statements_append]
    rfl
  · have hpos : ∀ t ∈ significantTokens (scan a), t.pos < a.utf8ByteSize := by
      intro t ht
      obtain ⟨l, hl, rfl⟩ := List.mem_map.1 (List.mem_of_mem_filter ht)
      exact pos_of_mem_scan hl
    have hes := (errors_sublist_of_ended hended.filter hpos).trans
      ((List.filter_sublist (l := (scan a).map PlacedLexeme.token)).map Token.pos)
    rw [List.map_map] at hes
    show reportByToken (scan (a ++ b)) _ = _
    rw [hreading, Reading.errors_append, hab]
    have hinj : Function.Injective (· + a.utf8ByteSize) := fun m n hmn => Nat.add_right_cancel hmn
    refine (reportByToken_alike_append hinj hfront hblank hback hes ?_ ?_).trans ?_
    · -- the errors of the second source are behind the line ends that it starts with
      intro e he l hl
      have hl' := pos_of_mem_scan (hb ▸ List.mem_append_left rest hl)
      rw [hb, readStatements_significantTokens_blank hblank] at he
      obtain hpos | ⟨m, hm, hpos⟩ := pos_of_mem_errors he
      · omega
      · have := hbefore l hl m hm
        omega
    · -- and once they are moved, behind the whole first source
      intro e he l hl
      have := pos_of_mem_scan hl
      omega
    · rw [← hb]
      rfl

/-- A line end that is written in two sources, with an error on either side of it. -/
theorem parse_append_split_lineEnd :
    (parse ("=\r" ++ "\n=")).diagnostics =
      [⟨.grammatical, 0, "expected expression", []⟩,
        ⟨.grammatical, 3, "expected expression", []⟩] := by
  have hfirst : scan "=\r" = [⟨0, .equals⟩, ⟨1, .lineEnd .carriageReturn⟩] := by
    have hlexemes : lexemes "=\r".toList = [.equals, .lineEnd .carriageReturn] :=
      lexemes_eq_iff.2
        ⟨rfl, trivial, fun c _ => rfl, trivial, Lexeme.stops_nil _, trivial⟩
    rw [scan, hlexemes]
    rfl
  have hsecond : scan "\n=" = [⟨0, .lineEnd .lineFeed⟩, ⟨1, .equals⟩] := by
    have hlexemes : lexemes "\n=".toList = [.lineEnd .lineFeed, .equals] :=
      lexemes_eq_iff.2
        ⟨rfl, trivial, fun c _ => rfl, trivial, Lexeme.stops_nil _, trivial⟩
    rw [scan, hlexemes]
    rfl
  have hlast : (tokens "=\r").getLast? = some ⟨.newline, 1, "\r"⟩ := by
    rw [tokens, hfirst]
    rfl
  have hfirst' : (parse "=\r").diagnostics =
      [⟨.grammatical, 0, "expected expression", []⟩] := by
    have htokens : significantTokens (scan "=\r") = [⟨.equals, 0, "="⟩, ⟨.newline, 1, "\r"⟩] := by
      rw [hfirst]
      decide
    have hread : readStatements "=\r".utf8ByteSize (significantTokens (scan "=\r")) =
        ⟨[], [⟨.expectedExpression, 0⟩]⟩ := by
      rw [htokens, readStatements_round _ (by decide)]
      show _ ++ readStatements _ [] = _
      rw [readStatements_nil]
      rfl
    rw [parse, hread, hfirst]
    rfl
  have hsecond' : (parse "\n=").diagnostics =
      [⟨.grammatical, 1, "expected expression", []⟩] := by
    have htokens : significantTokens (scan "\n=") = [⟨.newline, 0, "\n"⟩, ⟨.equals, 1, "="⟩] := by
      rw [hsecond]
      decide
    have hread : readStatements "\n=".utf8ByteSize (significantTokens (scan "\n=")) =
        ⟨[], [⟨.expectedExpression, 1⟩]⟩ := by
      rw [htokens, readStatements_newline _ rfl, readStatements_round _ (by decide)]
      show _ ++ readStatements _ [] = _
      rw [readStatements_nil]
      rfl
    rw [parse, hread, hsecond]
    rfl
  rw [(parse_append "=\r" "\n=" (.inr ⟨_, hlast, .inr rfl⟩)).2, hfirst', hsecond']
  rfl

end ScriptCheck
