/-
  Commands that narrow what they print.

  A filter on the command line looks at the texts of elements, so with a filter the texts are asked
  for, and taken out again before anything is printed.  The command without the filter does not ask
  for them at all, and the command with details prints them.

      without a store, texts not asked for are all that is missing      (`analyze_detailed`)
      requests made before do not matter                       (`Mirrors.analyze_analyzed`)
      a filter keeps what its counterparts with texts tell to keep      (`narrow_eq_ok_iff`)

  Main result, `filter_narrows_output`.
-/
import CodeSurvey.Command.Run
import CodeSurvey.Proofs.Conjunction
import CodeSurvey.Proofs.Toggles

namespace CodeSurvey

open Analysis Extract Syntax Query

/-! ## §1. Texts that are not asked for. -/

/-- A request that asks for texts, or does not. -/
def Analysis.Request.detailed (r : Request) (details : Bool) : Request :=
  { r with details := details }

/-- The findings without the texts of the elements. -/
def Analysis.Findings.withoutTexts (f : Findings) : Findings :=
  { f with elements := f.elements.map Element.withoutText }

namespace Analysis.Result

/-- The result without the texts of the elements. -/
def withoutTexts (result : Result) : Result :=
  result.withElements (result.elements.map Element.withoutText)

theorem withoutTexts_mk (path language format : String) (outcome : Except String Findings) :
    (⟨path, language, format, outcome⟩ : Result).withoutTexts
      = ⟨path, language, format, outcome.map Findings.withoutTexts⟩ := by
  cases outcome with
  | error message => rfl
  | ok findings => rfl

theorem success_withElements (result : Result) (elements : List Element) :
    (result.withElements elements).success = result.success := by
  unfold success withElements
  cases result.outcome <;> rfl

theorem withElements_withElements (result : Result) (elements elements' : List Element) :
    (result.withElements elements).withElements elements' = result.withElements elements' := by
  unfold withElements
  cases result.outcome <;> rfl

theorem elements_withoutTexts (result : Result) :
    result.withoutTexts.elements = result.elements.map Element.withoutText := by
  obtain ⟨path, language, format, outcome⟩ := result
  cases outcome with
  | error message => rfl
  | ok findings => rfl

end Analysis.Result

namespace Engine

section Storeless

variable {h : Host} {e : Engine} {r : Request}

theorem elementsWanted_detailed (r : Request) (plugin : Plugin) (p : Parsed) :
    elementsWanted (r.detailed false) plugin p
      = List.map Element.withoutText <$> elementsWanted (r.detailed true) plugin p := by
  have htrim : trimElement (r.detailed false)
      = Element.withoutText ∘ trimElement (r.detailed true) := rfl
  unfold elementsWanted
  rw [htrim]
  show (if r.elements then _ else _) = _ <$> (if r.elements then _ else _)
  split
  · rw [Functor.map_map]
    simp only [List.map_map]
  · rfl

/-- **A survey that does not ask for texts** finds what one that does finds, without them. -/
theorem survey_detailed (h : Host) (e : Engine) (r : Request) (path source language : String) :
    (survey h e (r.detailed false) path source language).1
      = (survey h e (r.detailed true) path source language).1.map Findings.withoutTexts := by
  cases hparse : e.grammars.parse h.parser source language path with
  | error f =>
      rw [survey_of_unparsed hparse, survey_of_unparsed hparse]
      rfl
  | ok p =>
      have hwanted := elementsWanted_detailed r (e.plugins.resolve language) p
      rcases hfound : (elementsWanted (r.detailed true) (e.plugins.resolve language) p).run e.memo
        with ⟨message | elements, memo⟩
      · have hfewer : (elementsWanted (r.detailed false) (e.plugins.resolve language) p).run e.memo
            = (.error message, memo) := by
          rw [hwanted, run_map, hfound]
          rfl
        obtain ⟨_, heq⟩ := survey_of_no_elements hparse hfound
        obtain ⟨_, heq'⟩ := survey_of_no_elements hparse hfewer
        rw [heq, heq']
        rfl
      · have hfewer : (elementsWanted (r.detailed false) (e.plugins.resolve language) p).run e.memo
            = (.ok (elements.map Element.withoutText), memo) := by
          rw [hwanted, run_map, hfound]
          rfl
        obtain ⟨_, heq⟩ := survey_of_elements hparse hfound
        obtain ⟨_, heq'⟩ := survey_of_elements hparse hfewer
        rw [heq, heq']
        rfl

theorem analyze_detailed (hoff : e.store.enabled = false) (h : Host) (r : Request) :
    (analyze h e (r.detailed false)).1
      = (analyze h e (r.detailed true)).1.map Result.withoutTexts := by
  have hask : ask h e (r.detailed false)
      = (ask h e (r.detailed true)).map fun q => { q with request := r.detailed false } :=
    ask_congr rfl rfl rfl (fun _ _ _ _ => rfl) fun _ _ _ _ => rfl
  rw [analyze_storeless hoff, analyze_storeless hoff, hask]
  cases hasked : ask h e (r.detailed true) with
  | error known =>
      -- what is known without a survey has no elements
      rcases known with f | result
      · rfl
      · obtain ⟨path, message, -, -, rfl⟩ := ask_eq_known_iff.1 hasked
        rfl
  | ok q =>
      have hrequest : q.request = r.detailed true := request_of_ask hasked
      refine congrArg Except.ok ?_
      show Result.mk q.path q.language (r.detailed false).format
          ((survey h _ (r.detailed false) q.path q.source q.language).1.mapError _)
        = (Result.mk q.path q.language q.request.format
          ((survey h _ q.request q.path q.source q.language).1.mapError _)).withoutTexts
      rw [hrequest, survey_detailed, Result.withoutTexts_mk]
      cases (survey h (e.asked h.disk).missed (r.detailed true) q.path q.source q.language).1 with
      | error f => rfl
      | ok findings => rfl

end Storeless

/-! ## §2. Requests one after the other. -/

/-- The engine after some requests. -/
def analyzed (h : Host) (e : Engine) (requests : List Request) : Engine :=
  requests.foldl (fun e r => (analyze h e r).2) e

/-- **Requests made before do not matter**: each is answered as it would be first and without a
store. -/
theorem Mirrors.analyze_analyzed {parser : Parser} {known : List Asking} (hkeys : KeysApart known)
    {disk : Files.Disk} {r : Request} {requests : List Request} :
    ∀ {a b : Engine}, Mirrors parser known a b →
      (∀ r' ∈ r :: requests, ∀ q, ask ⟨disk, parser⟩ a r' = .ok q → q ∈ known) →
      (Engine.analyze ⟨disk, parser⟩ (analyzed ⟨disk, parser⟩ a requests) r).1
        = (Engine.analyze ⟨disk, parser⟩ b r).1 := by
  induction requests with
  | nil =>
      intro a b hm hknown
      exact (hm.analyze hkeys disk r (hknown r List.mem_cons_self)).1
  | cons first requests ih =>
      intro a b hm hknown
      have hfirst := hm.analyze hkeys disk first (hknown first (by simp))
      have hlater := ih hfirst.2 fun r' hr' q hq => by
        refine hknown r' ?_ q ((ask_analyze ⟨disk, parser⟩ a r' first).symm.trans hq)
        rcases List.mem_cons.1 hr' with rfl | hr'
        · exact List.mem_cons_self
        · exact List.mem_cons_of_mem _ (List.mem_cons_of_mem _ hr')
      exact hlater.trans
        (analyze_after_analyze hm.off (hm.plugins ▸ hm.onlyCompile) ⟨disk, parser⟩ r first)

end Engine

/-! ## §3. Commands. -/

namespace Command

open Engine

/-- The options with and without details and a filter. -/
def AnalyzeOptions.showing (o : AnalyzeOptions) (details : Bool) (filter : Option String) :
    AnalyzeOptions :=
  { o with details := details, filter := filter }

/-- The command with a filter, the one without it, and the one with details. -/
def AnalyzeOptions.variants (o : AnalyzeOptions) (expr : String) : List AnalyzeOptions :=
  [o.showing false (some expr), o.showing false none, o.showing true none]

/-- The engine after some commands about a file. -/
def afterCommands (h : Host) (e : Engine) (commands : List AnalyzeOptions) : Engine :=
  analyzed h e (commands.map fun o => o.request o.path)

/-- The elements of the one list whose counterparts in the other satisfy an expression. -/
def counterpartsKept (clauses : Filter.Expr) (language : String) (shown full : List Element) :
    List Element :=
  ((shown.zip full).filter fun pair =>
    clauses.accepts (Text.normalized language) (.declaration pair.2.name pair.2.text)).map Prod.fst

theorem counterpartsKept_map (clauses : Filter.Expr) (language : String) (f : Element → Element)
    (full : List Element) :
    counterpartsKept clauses language (full.map f) full
      = (full.filter fun element =>
          clauses.accepts (Text.normalized language)
            (.declaration element.name element.text)).map f := by
  unfold counterpartsKept
  induction full with
  | nil => rfl
  | cons element full ih =>
      rw [List.map_cons, List.zip_cons_cons, List.filter_cons, List.filter_cons]
      split
      · rw [List.map_cons, List.map_cons, ih]
      · exact ih

/-- What a filter leaves of a result with texts, told by the result without. -/
theorem narrow_eq_ok_iff {o : AnalyzeOptions} {expr : String} {full narrowed : Result} :
    (o.showing false (some expr)).narrow full = .ok narrowed ↔
      ∃ clauses, Filter.Expr.parse expr = .ok clauses ∧
        Filter.Answerable clauses (fun e => .declaration e.name e.text) full.elements ∧
        narrowed = full.withoutTexts.withElements
          (counterpartsKept clauses full.language full.withoutTexts.elements full.elements) := by
  have hnarrow : (o.showing false (some expr)).narrow full
      = (Engine.filterElements full expr).map fun kept =>
          full.withElements (kept.map Element.withoutText) := rfl
  rw [hnarrow]
  constructor
  · intro h
    cases hkept : Engine.filterElements full expr with
    | error err =>
        rw [hkept] at h
        cases h
    | ok kept =>
        rw [hkept] at h
        cases h
        obtain ⟨clauses, hparse, hanswer, rfl⟩ := Filter.keep_eq_ok_iff.1 hkept
        refine ⟨clauses, hparse, hanswer, ?_⟩
        rw [Result.elements_withoutTexts, counterpartsKept_map, Result.withoutTexts,
          Result.withElements_withElements]
  · rintro ⟨clauses, hparse, hanswer, rfl⟩
    have hkept : Engine.filterElements full expr = .ok _ :=
      Filter.keep_eq_ok_iff.2 ⟨clauses, hparse, hanswer, rfl⟩
    rw [hkept, Result.elements_withoutTexts, counterpartsKept_map, Result.withoutTexts,
      Result.withElements_withElements]
    rfl

theorem analyzeFile_of_plain {h : Host} {e : Engine} {o : AnalyzeOptions} {result : Result}
    (hfilter : o.filter = none) (hresult : (analyze h e (o.request o.path)).1 = .ok result) :
    analyzeFile h e o = printed (resultReport result) o.compact result.success := by
  have hnarrow : o.narrow result = .ok result := by
    unfold AnalyzeOptions.narrow
    rw [hfilter]
  unfold analyzeFile
  rw [hresult]
  dsimp only
  rw [hnarrow]

/-- Whatever is printed comes from a result, narrowed. -/
theorem exists_result_of_stdout {h : Host} {e : Engine} {o : AnalyzeOptions}
    (hprints : (analyzeFile h e o).stdout ≠ "") :
    ∃ result narrowed, (analyze h e (o.request o.path)).1 = .ok result ∧
      o.narrow result = .ok narrowed ∧
      analyzeFile h e o = printed (resultReport narrowed) o.compact narrowed.success := by
  unfold analyzeFile at hprints ⊢
  cases hresult : (analyze h e (o.request o.path)).1 with
  | error f =>
      rw [hresult] at hprints
      exact absurd rfl hprints
  | ok result =>
      rw [hresult] at hprints
      dsimp only at hprints ⊢
      cases hnarrow : o.narrow result with
      | error err =>
          rw [hnarrow] at hprints
          exact absurd rfl hprints
      | ok narrowed => exact ⟨result, narrowed, rfl, hnarrow, rfl⟩

theorem runAnalyze_of_file {h : Host} {dir path : String}
    (hfile : h.disk.isDirectory (Files.Path.ofText (Files.Path.joinText dir path)) = false)
    (e : Engine) {o : AnalyzeOptions} (hpath : o.path = path) :
    runAnalyze h e dir o = analyzeFile h e o := by
  unfold runAnalyze
  rw [hpath]
  dsimp only
  rw [hfile]
  rfl

/-- Each of the commands asks for the texts, or does not, and for nothing else that differs. -/
theorem request_of_variant {o command : AnalyzeOptions} {expr : String}
    (h : command ∈ o.variants expr) : ∃ details,
      command.request command.path = ((o.showing false none).request o.path).detailed details := by
  simp only [AnalyzeOptions.variants, List.mem_cons, List.not_mem_nil, or_false] at h
  rcases h with rfl | rfl | rfl
  · exact ⟨true, rfl⟩
  · exact ⟨false, rfl⟩
  · exact ⟨true, rfl⟩

/-- **Whichever commands came before**, the answers are those of one engine without a store. -/
theorem exists_storeless (parser : Parser) (root : Option String) (settings : Settings)
    (steps : Steps) (disk : Files.Disk) (o : AnalyzeOptions) (expr : String)
    (hsteps : ∀ step ∈ steps, step.2.OnlyCompiles)
    (hkeys : KeysApart (askings parser (new root settings) (steps ++
      [(disk, .analyze ((o.showing true none).request o.path)),
        (disk, .analyze ((o.showing false none).request o.path))]))) :
    let h : Host := ⟨disk, parser⟩
    let e := after parser (new root settings) steps
    let r := (o.showing false none).request o.path
    ∃ b : Engine, b.store.enabled = false ∧
      ∀ commands : List AnalyzeOptions, (∀ c ∈ commands, c ∈ o.variants expr) →
        ∀ details, (analyze h (afterCommands h e commands) (r.detailed details)).1
          = (analyze h b (r.detailed details)).1 := by
  intro h e r
  rw [askings_append] at hkeys
  generalize hknown : askings parser (new root settings) steps ++ _ = known at hkeys
  obtain ⟨-, hm⟩ := Mirrors.run hkeys (mirrors_new parser known root settings) hsteps
    fun q hq => hknown ▸ List.mem_append_left _ hq
  -- the two requests are among what is known
  have hasked : ∀ details q, ask h e (r.detailed details) = .ok q → q ∈ known := by
    intro details q hask
    rw [← hknown]
    refine List.mem_append_right _ ?_
    cases details with
    | true => exact mem_askings_cons _ rfl hask
    | false =>
        rw [← ask_analyze h e (r.detailed false) (r.detailed true)] at hask
        exact List.mem_append_right _ (mem_askings_cons _ rfl hask)
  refine ⟨_, hm.off, fun commands hcommands details => ?_⟩
  refine Mirrors.analyze_analyzed hkeys hm fun r' hr' q hq => ?_
  rcases List.mem_cons.1 hr' with rfl | hr'
  · exact hasked details q hq
  · obtain ⟨command, hcommand, rfl⟩ := List.mem_map.1 hr'
    obtain ⟨details', heq⟩ := request_of_variant (hcommands command hcommand)
    rw [heq] at hq
    exact hasked details' q hq

/-- **A filter only narrows.**  Whatever was done with an engine, and whichever of the three
commands have been carried out before each of them: if the command with a filter prints anything, it
prints what the command without the filter prints, with those of its elements whose counterparts
satisfy the filter in what the command with details prints.  No element has a text. -/
theorem filter_narrows_output (parser : Parser) (root : Option String) (settings : Settings)
    (steps : Steps) (disk : Files.Disk) (dir : String) (o : AnalyzeOptions) (expr : String)
    (before before' before'' : List AnalyzeOptions)
    (hsteps : ∀ step ∈ steps, step.2.OnlyCompiles)
    (hkeys : KeysApart (askings parser (new root settings) (steps ++
      [(disk, .analyze ((o.showing true none).request o.path)),
        (disk, .analyze ((o.showing false none).request o.path))])))
    (hbefore : ∀ command ∈ before ++ before' ++ before'', command ∈ o.variants expr)
    (hfile : disk.isDirectory (Files.Path.ofText (Files.Path.joinText dir o.path)) = false) :
    let h : Host := ⟨disk, parser⟩
    let e := after parser (new root settings) steps
    let filtered := runAnalyze h (afterCommands h e before) dir (o.showing false (some expr))
    filtered.stdout ≠ "" →
      ∃ clauses full plain kept, Filter.Expr.parse expr = .ok clauses ∧
        runAnalyze h (afterCommands h e before') dir (o.showing true none)
          = printed (resultReport full) o.compact full.success ∧
        runAnalyze h (afterCommands h e before'') dir (o.showing false none)
          = printed (resultReport plain) o.compact plain.success ∧
        plain = full.withElements (full.elements.map Element.withoutText) ∧
        kept = counterpartsKept clauses full.language plain.elements full.elements ∧
        kept.Sublist plain.elements ∧ (∀ element ∈ kept, element.text = "") ∧
        filtered = printed (resultReport (plain.withElements kept)) o.compact plain.success := by
  intro h e filtered hprints
  let r := (o.showing false none).request o.path
  obtain ⟨b, hoff, hanswer⟩ :=
    exists_storeless parser root settings steps disk o expr hsteps hkeys
  have hrun : ∀ e' details filter, runAnalyze h e' dir (o.showing details filter)
      = analyzeFile h e' (o.showing details filter) :=
    fun e' _ _ => runAnalyze_of_file hfile e' rfl
  have hfiltered : filtered = _ := hrun (afterCommands h e before) false (some expr)
  rw [hfiltered] at hprints ⊢
  obtain ⟨full, narrowed, hfull, hnarrow, hprinted⟩ := exists_result_of_stdout hprints
  have hfull' : (analyze h b (r.detailed true)).1 = .ok full :=
    (hanswer before (fun c hc => hbefore c (by simp [hc])) true).symm.trans hfull
  have hplain : (analyze h b (r.detailed false)).1 = .ok full.withoutTexts := by
    rw [analyze_detailed hoff, hfull']
    rfl
  obtain ⟨clauses, hparse, -, rfl⟩ := narrow_eq_ok_iff.1 hnarrow
  refine ⟨clauses, full, full.withoutTexts, _, hparse, ?_, ?_, rfl, rfl, ?_, ?_, ?_⟩
  · rw [hrun]
    exact analyzeFile_of_plain rfl
      ((hanswer before' (fun c hc => hbefore c (by simp [hc])) true).trans hfull')
  · rw [hrun]
    exact analyzeFile_of_plain rfl
      ((hanswer before'' (fun c hc => hbefore c (by simp [hc])) false).trans hplain)
  · rw [Result.elements_withoutTexts, counterpartsKept_map]
    exact List.filter_sublist.map _
  · rw [Result.elements_withoutTexts, counterpartsKept_map]
    intro element helement
    obtain ⟨_, -, rfl⟩ := List.mem_map.1 helement
    rfl
  · rw [hprinted, Result.success_withElements]
    rfl

/-- A disk with one file in the current directory. -/
def oneFile : Files.Disk :=
  { entries := [(["w"], .directory), (["w", "a.c"], .file [0x78])], current := ["w"] }

/-- A plugin for C that finds two functions everywhere, the second one without parameters. -/
def findsTwo : Steps :=
  [({}, .register "c"
    { language := "c", defaultQueries := ["functions"],
      extract := fun _ =>
        pure [branching, { branching with name := "g", text := "int g() { .. }" }] })]

/-- The command with a filter comes first, so the command with details gets its result. -/
theorem unary_function_printed :
    let h : Host := ⟨oneFile, emptyUnit⟩
    let e := after emptyUnit (new none {}) findsTwo
    let o : AnalyzeOptions := { path := "a.c", language := some "c", compact := true }
    let unary := o.showing false (some "params=1")
    let filtered := runAnalyze h e "/w" unary
    filtered.stdout ≠ "" ∧
      ∃ clauses full plain kept, Filter.Expr.parse "params=1" = .ok clauses ∧
        runAnalyze h (afterCommands h e [unary]) "/w" (o.showing true none)
          = printed (resultReport full) true full.success ∧
        runAnalyze h (afterCommands h e [unary]) "/w" (o.showing false none)
          = printed (resultReport plain) true plain.success ∧
        kept = counterpartsKept clauses full.language plain.elements full.elements ∧
        filtered = printed (resultReport (plain.withElements kept)) true plain.success := by
  intro h e o unary filtered
  let full : Asking :=
    { request := (o.showing true none).request "a.c", path := "a.c", source := "x",
      language := "c" }
  let plain : Asking := { full with request := (o.showing false none).request "a.c" }
  have hsteps : ∀ step ∈ findsTwo, step.2.OnlyCompiles := by
    intro step hstep
    obtain rfl := List.mem_singleton.1 hstep
    exact fun p => .pure _
  have hfull : full.fingerprint.Fits :=
    Fingerprint.ofRequest_fits full.content (by decide) (by decide) (by rintro _ ⟨⟩) (by decide)
  have hplain : plain.fingerprint.Fits :=
    Fingerprint.ofRequest_fits plain.content (by decide) (by decide) (by rintro _ ⟨⟩) (by decide)
  have hkeys : KeysApart [full, plain] :=
    ⟨by simp [hfull, hplain], Digest.separates_pair fun _ => rfl,
      Digest.separates_pair (by decide +kernel)⟩
  have hasked : askings emptyUnit (new none {}) (findsTwo ++
      [(oneFile, .analyze ((o.showing true none).request o.path)),
        (oneFile, .analyze ((o.showing false none).request o.path))]) = [full, plain] := by
    decide +kernel
  have hprints : filtered.stdout ≠ "" := by decide +kernel
  rw [← hasked] at hkeys
  obtain ⟨clauses, all, shown, kept, hparse, hall, hshown, -, hkept, -, -, hnarrowed⟩ :=
    filter_narrows_output emptyUnit none {} findsTwo oneFile "/w" o "params=1"
      [] [unary] [unary] hsteps hkeys (by simp [AnalyzeOptions.variants, unary])
      (by decide +kernel) hprints
  exact ⟨hprints, clauses, all, shown, kept, hparse, hall, hshown, hkept, hnarrowed⟩

end Command

end CodeSurvey
