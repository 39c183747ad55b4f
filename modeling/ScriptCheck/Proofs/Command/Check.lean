import ScriptCheck.Command.Run
import ScriptCheck.Proofs.Report.Markers

/-!
# What a check comes to

A check hands every diagnostic on, in order, and prints what is wanted of the source whether or not
there are diagnostics. The verdict and the exit code tell how many there have been. Only a sink that
fails stops a check, and the one that draws fails at the first diagnostic with a marker for which
there is no room.

* `found`, `output` — what is wrong with a source, and what is printed of it
* `Sink.addAll_eq`, `Sink.addAll_eq_fault` — what a sink takes
* `Checker.check_of_foldlM`, `Checker.check_of_fault` — a check, whatever its sink
* `Checker.checkAll_collect` — checks one after the other, of which the diagnostics are kept
* `Checker.check_draw`, `Checker.check_draw_broken` — a check that draws
* `run_check`, `run_check_broken` — the whole program
* `DrawsAll`, `BreaksOff`, `check_reports_diagnostics` — all of this together
-/

namespace ScriptCheck.Command

/-- What is wrong with a source. -/
def found (source : SourceFile) : List Diagnostic := (compile source.text).diagnostics

/-- What is printed of a source. -/
def output (source : SourceFile) : Option Emission → String
  | none => ""
  | some .tokens => String.join ((tokens source.text).map listToken)
  | some .module => (compile source.text).module.toJson.pretty 0 ++ "\n"
  | some .table => (compile source.text).module.locals.toJson.pretty 0 ++ "\n"

/-- The verdict when there have been so many diagnostics. -/
def verdictOn (count : Nat) : Verdict := if count = 0 then .clean else .faulty count

theorem verdictOn_eq_clean_iff {α : Type} {xs : List α} :
    verdictOn xs.length = .clean ↔ xs = [] := by
  rw [verdictOn]
  cases xs <;> simp

/-! ## Sinks -/

namespace Sink

variable {σ : Type} {sink : Sink σ} {source : SourceFile} {state mid final : σ}
  {d : Diagnostic} {ds front back : List Diagnostic} {fault : RenderFault}

/-- After diagnostics that it takes, a sink goes on with those behind them. -/
theorem addAll_append (h : front.foldlM (sink source) state = .ok mid) :
    sink.addAll source state (front ++ back) = sink.addAll source mid back := by
  induction front generalizing state with
  | nil =>
    obtain rfl := Except.ok.inj h
    rfl
  | cons d front ih =>
    rw [List.foldlM_cons] at h
    obtain ⟨next, hd, hfront⟩ := exists_of_bind_eq_ok h
    rw [List.cons_append, addAll, hd]
    exact ih hfront

/-- A sink that takes diagnostics one after the other takes them all. -/
theorem addAll_eq (h : ds.foldlM (sink source) state = .ok final) :
    sink.addAll source state ds = (final, none) := by
  rw [← List.append_nil ds, addAll_append h]
  rfl

/-- A sink that fails has what it took before. -/
theorem addAll_eq_fault (h : front.foldlM (sink source) state = .ok mid)
    (hd : sink source mid d = .error fault) :
    sink.addAll source state (front ++ d :: back) = (mid, some fault) := by
  rw [addAll_append h, addAll, hd]

/-- Diagnostics are kept in order. -/
theorem foldlM_collect (kept : List Diagnostic) :
    ds.foldlM (collect source) kept = .ok (kept ++ ds) := by
  induction ds generalizing kept with
  | nil => rw [List.append_nil]; rfl
  | cons d ds ih =>
    rw [List.foldlM_cons]
    show ds.foldlM (collect source) (kept ++ [d]) = _
    rw [ih, List.append_assoc, List.singleton_append]

/-- Diagnostics are drawn one below the other. -/
theorem foldlM_draw {config : Config} {color : Bool} {drawings : List (List Span)}
    (h : ds.mapM (fun d => d.render source config) = .ok drawings) (drawn : String) :
    ds.foldlM (draw config color source) drawn =
      .ok (drawn ++ String.join (drawings.map (writeSpans color))) := by
  induction ds generalizing drawings drawn with
  | nil =>
    obtain rfl : [] = drawings := Except.ok.inj h
    rw [List.map_nil, String.join_nil, String.append_empty]
    rfl
  | cons d ds ih =>
    rw [List.mapM_cons] at h
    obtain ⟨spans, hd, h⟩ := exists_of_bind_eq_ok h
    obtain ⟨rest, hds, h⟩ := exists_of_bind_eq_ok h
    obtain rfl : spans :: rest = drawings := Except.ok.inj h
    rw [List.foldlM_cons, draw, hd, List.map_cons, String.join_cons, ← String.append_assoc]
    exact ih hds _

end Sink

/-! ## Checks -/

namespace Checker

variable {σ : Type} {sink : Sink σ} {checker : Checker σ} {source : SourceFile}
  {emission : Option Emission} {mid final : σ} {d : Diagnostic} {front back : List Diagnostic}
  {fault : RenderFault}

theorem verdict_eq (checker : Checker σ) : checker.verdict = verdictOn checker.count := by
  obtain ⟨emitted, count⟩ := checker
  cases count <;> rfl

theorem print_eq (source : SourceFile) (emission : Option Emission) :
    (emission.map (·.print source (compile source.text).module)).getD "" =
      output source emission := by
  rcases emission with _ | emission
  · rfl
  · cases emission <;> rfl

/-- **A check whose sink does not fail hands on every diagnostic, prints what is wanted and tells
how many diagnostics there have been.** -/
theorem check_of_foldlM (h : (found source).foldlM (sink source) checker.emitted = .ok final) :
    checker.check sink source emission =
      ⟨⟨final, checker.count + (found source).length⟩, output source emission,
        verdictOn (checker.count + (found source).length)⟩ := by
  have hsink : sink.addAll source checker.emitted (compile source.text).diagnostics =
      (final, none) := Sink.addAll_eq h
  simp only [check, checkCompiled, hsink, print_eq, verdict_eq]
  rfl

/-- **A check whose sink fails prints nothing.** -/
theorem check_of_fault (hfound : found source = front ++ d :: back)
    (hfront : front.foldlM (sink source) checker.emitted = .ok mid)
    (hd : sink source mid d = .error fault) :
    checker.check sink source emission =
      ⟨⟨mid, checker.count + (found source).length⟩, "", .broken fault⟩ := by
  have hsink : sink.addAll source checker.emitted (compile source.text).diagnostics =
      (mid, some fault) := by
    show sink.addAll source checker.emitted (found source) = _
    rw [hfound, Sink.addAll_eq_fault hfront hd]
  simp only [check, checkCompiled, hsink]
  rfl

/-! ## Checks one after the other -/

/-- Checks sources one after the other. -/
def checkAll (sink : Sink σ) (checker : Checker σ) (jobs : List (SourceFile × Option Emission)) :
    Checker σ :=
  jobs.foldl (fun checker job => (checker.check sink job.1 job.2).checker) checker

/-- A check that keeps the diagnostics. -/
theorem check_collect (checker : Checker (List Diagnostic)) (source : SourceFile)
    (emission : Option Emission) :
    checker.check .collect source emission =
      ⟨⟨checker.emitted ++ found source, checker.count + (found source).length⟩,
        output source emission, verdictOn (checker.count + (found source).length)⟩ :=
  check_of_foldlM (Sink.foldlM_collect checker.emitted)

/-- **Checks one after the other keep the diagnostics of one source behind those of the other.** -/
theorem checkAll_collect (checker : Checker (List Diagnostic))
    (jobs : List (SourceFile × Option Emission)) :
    checker.checkAll .collect jobs =
      ⟨checker.emitted ++ jobs.flatMap (found ·.1),
        checker.count + (jobs.flatMap (found ·.1)).length⟩ := by
  induction jobs generalizing checker with
  | nil => simp [checkAll]
  | cons job jobs ih =>
    have hstep : checker.checkAll .collect (job :: jobs) =
        (checker.check .collect job.1 job.2).checker.checkAll .collect jobs := rfl
    rw [hstep, ih, check_collect]
    simp [Nat.add_assoc]

/-! ## Checks that draw -/

/-- What there is to see of diagnostics that are drawn one below the other. -/
def Drawn (source : SourceFile) (config : Config) (color : Bool) (ds : List Diagnostic)
    (text : String) : Prop :=
  ∃ drawings, ds.mapM (fun d => d.render source config) = .ok drawings ∧
    text = String.join (drawings.map (writeSpans color))

section

variable {config : Config} {color : Bool} {ds : List Diagnostic}

/-- Diagnostics whose markers fit can be drawn. -/
theorem exists_drawn (h : ∀ d ∈ ds, d.MarkersFit source) (config : Config) (color : Bool) :
    ∃ text, Drawn source config color ds text := by
  have hrender : ∀ d ∈ ds, ∃ spans, d.render source config = .ok spans := fun d hd =>
    Diagnostic.exists_render (h d hd) config
  obtain ⟨drawings, hdrawings⟩ := exists_mapM_eq_ok hrender
  exact ⟨_, drawings, hdrawings, rfl⟩

/-- **A check that draws, of a source whose markers all fit.** -/
theorem check_draw (checker : Checker String) (config : Config) (color : Bool)
    (emission : Option Emission) (h : ∀ d ∈ found source, d.MarkersFit source) :
    ∃ text, Drawn source config color (found source) text ∧
      checker.check (.draw config color) source emission =
        ⟨⟨checker.emitted ++ text, checker.count + (found source).length⟩, output source emission,
          verdictOn (checker.count + (found source).length)⟩ := by
  obtain ⟨text, drawings, hdrawings, rfl⟩ := exists_drawn h config color
  exact ⟨_, ⟨drawings, hdrawings, rfl⟩, check_of_foldlM (Sink.foldlM_draw hdrawings _)⟩

/-- **A check that draws, of a source with a marker that does not fit: it stops at the first
diagnostic with such a marker.** -/
theorem check_draw_broken (checker : Checker String) (config : Config) (color : Bool)
    (emission : Option Emission) (h : ¬ ∀ d ∈ found source, d.MarkersFit source) :
    ∃ front d back p text, found source = front ++ d :: back ∧
      (∀ e ∈ front, e.MarkersFit source) ∧ p ∈ d.places ∧
      markerLimit < source.columnsBefore p ∧ Drawn source config color front text ∧
      checker.check (.draw config color) source emission =
        ⟨⟨checker.emitted ++ text, checker.count + (found source).length⟩, "",
          .broken (.markerTooFar (source.columnsBefore p))⟩ := by
  obtain ⟨front, d, back, hfound, hfront, hd⟩ := exists_first_not h
  obtain ⟨p, hp, hlimit, hrender⟩ := Diagnostic.exists_render_eq_error hd
  obtain ⟨text, drawings, hdrawings, rfl⟩ := exists_drawn hfront config color
  refine ⟨front, d, back, p, _, hfound, hfront, hp, hlimit, ⟨drawings, hdrawings, rfl⟩, ?_⟩
  refine check_of_fault hfound (Sink.foldlM_draw hdrawings _) ?_
  rw [Sink.draw, hrender config]
  rfl

end

end Checker

/-! ## Runs of the program -/

section

variable {args : List String} {readText : String → Except ReadError String} {request : Request}
  {source : SourceFile}

/-- The check that a run of the program makes. -/
def checkedBy (request : Request) (env : Environment) (source : SourceFile) : Checked String :=
  (Checker.mk "" 0).check (.draw .standard (request.coloring.applies env)) source request.emission

/-- What a run of the program makes of its check. -/
theorem run_of_request (env : Environment) (hrequest : Request.ofArguments args = .ok request)
    (hsource : request.source readText = .ok source) :
    (run args env readText).code =
        (Request.ending (checkedBy request env source).verdict).1.toNat ∧
      (run args env readText).stdout = (checkedBy request env source).printed ∧
      (run args env readText).stderr = (checkedBy request env source).checker.emitted ++
        (Request.ending (checkedBy request env source).verdict).2 := by
  have hrun : run args env readText = request.checkSource env source := by
    rw [run, hrequest]
    show request.run env readText = _
    rw [Request.run, hsource]
  rw [hrun]
  exact ⟨rfl, rfl, rfl⟩

/-- **A run whose markers all fit: its diagnostics are drawn, what is wanted is printed, and the
exit code and the last line tell whether there are diagnostics, and how many.** -/
theorem run_check (env : Environment) (hrequest : Request.ofArguments args = .ok request)
    (hsource : request.source readText = .ok source)
    (h : ∀ d ∈ found source, d.MarkersFit source) :
    (run args env readText).code = (if found source = [] then 0 else 1) ∧
      (run args env readText).stdout = output source request.emission ∧
      ∃ text,
        Checker.Drawn source .standard (request.coloring.applies env) (found source) text ∧
        (run args env readText).stderr = text ++ if found source = [] then "" else
          "compilation failed with " ++ toString (found source).length ++ " error(s)\n" := by
  obtain ⟨hcode, hstdout, hstderr⟩ := run_of_request env hrequest hsource
  obtain ⟨text, hdrawn, hcheck⟩ := Checker.check_draw ⟨"", 0⟩ .standard
    (request.coloring.applies env) request.emission h
  have hchecked : checkedBy request env source =
      ⟨⟨text, (found source).length⟩, output source request.emission,
        verdictOn (found source).length⟩ := by
    rw [checkedBy, hcheck, String.empty_append, Nat.zero_add]
  rw [hcode, hstdout, hstderr, hchecked]
  by_cases hfound : found source = []
  · rw [hfound]
    exact ⟨rfl, rfl, text, hfound ▸ hdrawn, rfl⟩
  · have hlength : (found source).length ≠ 0 := mt List.length_eq_zero_iff.1 hfound
    rw [if_neg hfound, if_neg hfound, verdictOn, if_neg hlength]
    exact ⟨rfl, rfl, text, hdrawn, rfl⟩

/-- **A run with a marker that does not fit breaks off and prints nothing.** -/
theorem run_check_broken (env : Environment) (hrequest : Request.ofArguments args = .ok request)
    (hsource : request.source readText = .ok source)
    (h : ¬ ∀ d ∈ found source, d.MarkersFit source) :
    (run args env readText).code = 101 ∧ (run args env readText).stdout = "" := by
  obtain ⟨hcode, hstdout, -⟩ := run_of_request env hrequest hsource
  obtain ⟨-, -, -, p, text, -, -, -, -, -, hcheck⟩ := Checker.check_draw_broken ⟨"", 0⟩ .standard
    (request.coloring.applies env) request.emission h
  rw [hcode, hstdout, checkedBy, hcheck]
  exact ⟨rfl, rfl⟩

end

/-! ## All together -/

/-- What a source comes to whose diagnostics can all be drawn. -/
structure DrawsAll (source : SourceFile) (emission : Option Emission) : Prop where
  check (checker : Checker String) (config : Config) (color : Bool) :
    ∃ text, Checker.Drawn source config color (found source) text ∧
      checker.check (.draw config color) source emission =
        ⟨⟨checker.emitted ++ text, checker.count + (found source).length⟩, output source emission,
          verdictOn (checker.count + (found source).length)⟩
  run {args : List String} {readText : String → Except ReadError String} {request : Request}
    (env : Environment) (hrequest : Request.ofArguments args = .ok request)
    (hsource : request.source readText = .ok source) (hemission : request.emission = emission) :
    (run args env readText).code = (if found source = [] then 0 else 1) ∧
      (run args env readText).stdout = output source emission ∧
      ∃ text,
        Checker.Drawn source .standard (request.coloring.applies env) (found source) text ∧
        (run args env readText).stderr = text ++ if found source = [] then "" else
          "compilation failed with " ++ toString (found source).length ++ " error(s)\n"

/-- What a source comes to with a diagnostic that cannot be drawn. -/
structure BreaksOff (source : SourceFile) (emission : Option Emission) : Prop where
  check (checker : Checker String) (config : Config) (color : Bool) :
    ∃ front d back p text, found source = front ++ d :: back ∧
      (∀ e ∈ front, e.MarkersFit source) ∧ p ∈ d.places ∧
      markerLimit < source.columnsBefore p ∧ Checker.Drawn source config color front text ∧
      checker.check (.draw config color) source emission =
        ⟨⟨checker.emitted ++ text, checker.count + (found source).length⟩, "",
          .broken (.markerTooFar (source.columnsBefore p))⟩
  run {args : List String} {readText : String → Except ReadError String} {request : Request}
    (env : Environment) (hrequest : Request.ofArguments args = .ok request)
    (hsource : request.source readText = .ok source) (hemission : request.emission = emission) :
    (run args env readText).code = 101 ∧ (run args env readText).stdout = ""

/-- **A check hands on every diagnostic of a source, in order and once, prints what is wanted of it
whether or not there are diagnostics, and tells how many there have been, over all sources so far.
A check that draws does so as well if there is room for all markers. If not, it stops at the first
diagnostic with a marker for which there is no room, and prints nothing.** -/
theorem check_reports_diagnostics (source : SourceFile) (emission : Option Emission) :
    (∀ {σ : Type} (sink : Sink σ) (checker : Checker σ) (final : σ),
      (found source).foldlM (sink source) checker.emitted = .ok final →
        checker.check sink source emission =
          ⟨⟨final, checker.count + (found source).length⟩, output source emission,
            verdictOn (checker.count + (found source).length)⟩) ∧
      (∀ jobs : List (SourceFile × Option Emission),
        let all := jobs.flatMap (found ·.1) ++ found source
        ((Checker.mk [] 0).checkAll .collect jobs).check .collect source emission =
            ⟨⟨all, all.length⟩, output source emission, verdictOn all.length⟩ ∧
          (verdictOn all.length = .clean ↔ (∀ job ∈ jobs, found job.1 = []) ∧ found source = [])) ∧
      ((∀ d ∈ found source, d.MarkersFit source) → DrawsAll source emission) ∧
      ((∃ d ∈ found source, ¬ d.MarkersFit source) → BreaksOff source emission) := by
  refine ⟨fun sink checker final h => Checker.check_of_foldlM h, fun jobs => ⟨?_, ?_⟩,
    fun hfit => ⟨?_, ?_⟩, fun htoofar => ?_⟩
  · rw [Checker.checkAll_collect, Checker.check_collect]
    simp
  · rw [verdictOn_eq_clean_iff, List.append_eq_nil_iff, List.flatMap_eq_nil_iff]
  · exact fun checker config color => Checker.check_draw checker config color emission hfit
  · rintro args readText request env hrequest hsource rfl
    exact run_check env hrequest hsource hfit
  · have hfit : ¬ ∀ d ∈ found source, d.MarkersFit source := by
      obtain ⟨d, hd, hnot⟩ := htoofar
      exact fun h => hnot (h d hd)
    refine ⟨fun checker config color => ?_, ?_⟩
    · exact Checker.check_draw_broken checker config color emission hfit
    rintro args readText request env hrequest hsource rfl
    exact run_check_broken env hrequest hsource hfit

/-- A script with an error fails its check, and one with an error too far to the right breaks it
off. -/
theorem run_check_both_ways :
    (run ["check", "-s", "var = 1"] ⟨none, none⟩ fun _ => .ok "").code = 1 ∧
      (run ["check", "--emit=tokens", "main"] ⟨none, none⟩ fun _ =>
        .ok (signBehind (markerLimit + 1))).code = 101 ∧
      (run ["check", "--emit=tokens", "main"] ⟨none, none⟩ fun _ =>
        .ok (signBehind (markerLimit + 1))).stdout = "" := by
  obtain ⟨-, -, hdraws, -⟩ :=
    check_reports_diagnostics (.ofText literalName "var = 1" none) none
  obtain ⟨-, -, -, hbreaks⟩ := check_reports_diagnostics
    (.ofText "main" (signBehind (markerLimit + 1)) (some "main")) (some .tokens)
  have hfit : ∀ d ∈ found (.ofText literalName "var = 1" none),
      d.MarkersFit (.ofText literalName "var = 1" none) := by decide +kernel
  have hfound : found (.ofText literalName "var = 1" none) ≠ [] := by decide +kernel
  have htoofar : ∃ d ∈ found (.ofText "main" (signBehind (markerLimit + 1)) (some "main")),
      ¬ d.MarkersFit (.ofText "main" (signBehind (markerLimit + 1)) (some "main")) :=
    exists_not_markersFit rfl (Nat.lt_succ_self markerLimit)
  have hrequest : Request.ofArguments ["check", "-s", "var = 1"] =
      .ok ⟨"var = 1", true, none, .auto, 0⟩ := by decide +kernel
  have hrequest' : Request.ofArguments ["check", "--emit=tokens", "main"] =
      .ok ⟨"main", false, some .tokens, .auto, 0⟩ := by decide +kernel
  refine ⟨?_, (hbreaks htoofar).run _ hrequest' rfl rfl⟩
  rw [((hdraws hfit).run _ hrequest rfl rfl).1, if_neg hfound]

end ScriptCheck.Command
