/-
  What a request leaves out.

  Four switches of a request say which parts of the findings are wanted.  A survey with all of them
  on finds everything; with some of them off it does the same work or less, so it succeeds as well
  and finds the same without those parts (`survey_switched`).  Without a store an analysis comes to
  the same whatever was analysed before it (`analyze_after_analyze`), and with one too, since the
  switches are part of the key.

  Main result, `switched_off_left_out`: whatever was done with an engine before, and in whatever
  order the two requests are made, the result with some switches off is the full result without what
  they stand for.
-/
import CodeSurvey.Proofs.QueryPaths

namespace CodeSurvey

open Analysis Extract Syntax Query

/-! ## §1. Switches. -/

/-- Which parts of the findings are wanted: all of them if nothing is said. -/
structure Switches where
  elements : Bool := true
  complexity : Bool := true
  details : Bool := true
  queries : Bool := true

/-- A request with its switches set. -/
def Analysis.Request.switched (r : Request) (s : Switches) : Request :=
  { r with
    elements := s.elements, complexity := s.complexity, details := s.details,
    runQueries := s.queries }

/-- What a kind tells: a function without its complexity if that is not wanted. -/
def ElementKind.shown (s : Switches) : ElementKind → ElementKind
  | .function facts =>
    .function { facts with complexity := if s.complexity then facts.complexity else none }
  | kind => kind

/-- An element, without its text if details are not wanted. -/
def Element.shown (s : Switches) (e : Element) : Element :=
  { e with kind := e.kind.shown s, text := if s.details then e.text else "" }

/-- The findings that are wanted. -/
def Analysis.Findings.shown (s : Switches) (f : Findings) : Findings :=
  { f with
    elements := if s.elements then f.elements.map (Element.shown s) else [],
    queries := if s.queries then f.queries else [] }

/-- The result that reports what is wanted. -/
def Analysis.Result.shown (s : Switches) (result : Result) : Result :=
  { result with outcome := result.outcome.map (Findings.shown s) }

theorem Analysis.Result.success_shown (s : Switches) (result : Result) :
    (result.shown s).success = result.success := by
  unfold success shown
  cases result.outcome <;> rfl

namespace Engine

theorem trimElement_switched (r : Request) (s : Switches) (element : Element) :
    trimElement (r.switched s) element = element.shown s := by
  obtain ⟨name, kind, startLine, endLine, text, language⟩ := element
  obtain ⟨elements, complexity, details, queries⟩ := s
  cases kind with
  | function facts => cases complexity <;> cases details <;> rfl
  | _ => cases complexity <;> cases details <;> rfl

theorem trimElement_full (r : Request) : trimElement (r.switched {}) = id := by
  funext element
  rfl

/-! ## §2. Surveys. -/

section Survey

variable {h : Host} {e : Engine} {r : Request} {path source language : String}
  {findings : Findings}

/-- The full elements, as a plugin finds them. -/
theorem elementsWanted_full (r : Request) (plugin : Plugin) (p : Parsed) :
    elementsWanted (r.switched {}) plugin p = plugin.extract p := by
  show List.map (trimElement (r.switched {})) <$> plugin.extract p = plugin.extract p
  rw [trimElement_full, List.map_id_fun, id_map]

/-- Fewer elements are found without more work. -/
theorem elementsWanted_switched {plugin : Plugin} {p : Parsed} {memo memo' : Memo}
    {elements : List Element} (s : Switches)
    (hfound : (elementsWanted (r.switched {}) plugin p).run memo = (.ok elements, memo')) :
    ∃ left, (elementsWanted (r.switched s) plugin p).run memo
      = (.ok (if s.elements then elements.map (Element.shown s) else []), left) := by
  rw [elementsWanted_full] at hfound
  have htrim : trimElement (r.switched s) = Element.shown s :=
    funext (trimElement_switched r s)
  unfold elementsWanted
  rw [htrim]
  cases helements : s.elements with
  | false =>
      rw [if_neg (by simpa [Request.switched] using helements)]
      exact ⟨memo, rfl⟩
  | true =>
      rw [if_pos (by simpa [Request.switched] using helements), run_map, hfound]
      exact ⟨memo', rfl⟩

/-- **A survey with some switches off** finds what a full one finds, without what they stand for. -/
theorem survey_switched (s : Switches)
    (hok : (survey h e (r.switched {}) path source language).1 = .ok findings) :
    (survey h e (r.switched s) path source language).1 = .ok (findings.shown s) := by
  cases hparse : e.grammars.parse h.parser source language path with
  | error f =>
      rw [survey_of_unparsed hparse] at hok
      cases hok
  | ok p =>
      rcases hfound : (elementsWanted (r.switched {}) (e.plugins.resolve language) p).run e.memo
        with ⟨message | elements, memo⟩
      · obtain ⟨_, heq⟩ := survey_of_no_elements hparse hfound
        rw [heq] at hok
        cases hok
      · obtain ⟨_, heq⟩ := survey_of_elements hparse hfound
        obtain ⟨left, hfewer⟩ := elementsWanted_switched s hfound
        obtain ⟨_, heq'⟩ := survey_of_elements hparse hfewer
        rw [heq] at hok
        rw [heq']
        cases hok
        -- the queries are those of the full survey, or none at all
        refine congrArg Except.ok ?_
        unfold queriesWanted findingsOf Findings.shown Request.switched
        cases s.queries <;> rfl

end Survey

/-! ## §3. Analyses without a store. -/

section Storeless

variable {h : Host} {e : Engine} {r : Request} {result : Result}

/-- Requests that differ in their switches ask for the same text in the same language. -/
theorem ask_switched (h : Host) (e : Engine) (r : Request) (s s' : Switches) :
    ask h e (r.switched s)
      = (ask h e (r.switched s')).map fun q => { q with request := r.switched s } :=
  ask_congr rfl rfl rfl (fun _ _ _ _ => rfl) fun _ _ _ _ => rfl

/-- What an analysis comes to if nothing is kept. -/
theorem analyze_storeless (hoff : e.store.enabled = false) (h : Host) (r : Request) :
    (analyze h e r).1 =
      match ask h e r with
      | .error known => known
      | .ok q =>
        .ok (q.result ((q.survey h (e.asked h.disk).missed).1.mapError Failure.message)) := by
  rw [analyze_eq]
  rcases ask h e r with known | q
  · rfl
  · have hmiss : (e.asked h.disk).store.find? q.key = none := Store.find?_of_off hoff
    dsimp only
    cases hfound : (q.survey h (e.asked h.disk).missed).1 with
    | error f =>
        rw [answer_of_failed hmiss hfound]
        rfl
    | ok findings =>
        rw [answer_of_found hmiss hfound]
        rfl

/-- A result with findings comes from a survey if nothing is kept. -/
theorem exists_survey_of_success (hoff : e.store.enabled = false)
    (hresult : (analyze h e r).1 = .ok result) (hsuccess : result.success = true) :
    ∃ q findings, ask h e r = .ok q ∧
      (q.survey h (e.asked h.disk).missed).1 = .ok findings ∧ result = q.result (.ok findings) := by
  rw [analyze_storeless hoff] at hresult
  rcases hask : ask h e r with (f | known) | q
  · rw [hask] at hresult
    cases hresult
  · rw [hask] at hresult
    cases hresult
    obtain ⟨path, message, -, -, rfl⟩ := ask_eq_known_iff.1 hask
    cases hsuccess
  · rw [hask] at hresult
    cases hresult
    cases hfound : (q.survey h (e.asked h.disk).missed).1 with
    | error f =>
        rw [hfound] at hsuccess
        cases hsuccess
    | ok findings => exact ⟨q, findings, rfl, hfound, rfl⟩

theorem analyze_of_survey (hoff : e.store.enabled = false) {q : Asking} {findings : Findings}
    (hask : ask h e r = .ok q)
    (hfound : (q.survey h (e.asked h.disk).missed).1 = .ok findings) :
    (analyze h e r).1 = .ok (q.result (.ok findings)) := by
  rw [analyze_storeless hoff, hask]
  dsimp only
  rw [hfound]
  rfl

/-- The result with some switches off, on one and the same engine. -/
theorem analyze_switched (hoff : e.store.enabled = false) (s : Switches)
    (hresult : (analyze h e (r.switched {})).1 = .ok result) (hsuccess : result.success = true) :
    (analyze h e (r.switched s)).1 = .ok (result.shown s) := by
  obtain ⟨q, findings, hask, hfound, rfl⟩ := exists_survey_of_success hoff hresult hsuccess
  have hrequest : q.request = r.switched {} := request_of_ask hask
  have hasked : ask h e (r.switched s) = .ok { q with request := r.switched s } := by
    rw [ask_switched h e r s {}, hask]
    rfl
  unfold Asking.survey at hfound
  rw [hrequest] at hfound
  rw [analyze_of_survey hoff hasked (survey_switched s hfound)]
  refine congrArg Except.ok ?_
  unfold Asking.result Result.shown
  rw [hrequest]
  rfl

theorem analyze_off (hoff : e.store.enabled = false) (h : Host) (r : Request) :
    (analyze h e r).2.store.enabled = false := by
  rw [analyze_eq]
  rcases ask h e r with known | q
  · exact hoff
  · exact answer_off h (e := e.asked h.disk) hoff q

/-- **An analysis is as good as another time**: what was analysed before does not matter. -/
theorem analyze_after_analyze (hoff : e.store.enabled = false) (hplugins : e.plugins.OnlyCompile)
    (h : Host) (r r' : Request) :
    (analyze h (analyze h e r').2 r).1 = (analyze h e r).1 := by
  have hgrown : Grown e (analyze h e r').2 := analyze_grows hplugins h r'
  have hoff' := analyze_off hoff h r'
  have hask := ask_analyze h e r r'
  generalize (analyze h e r').2 = later at hgrown hoff' hask
  rw [analyze_eq, analyze_eq, hask]
  rcases ask h e r with known | q
  · rfl
  · have hasked : Grown (e.asked h.disk) (later.asked h.disk) :=
      ⟨hgrown.defaultQueries, hgrown.grammars, hgrown.plugins, hgrown.memo, hgrown.session⟩
    exact congrArg Except.ok (answer_of_grown (e := e.asked h.disk) hplugins hasked
      (Store.find?_of_off hoff) (Store.find?_of_off hoff'))

end Storeless

/-! ## §4. Analyses with a store. -/

/-- **What is switched off is left out, and nothing else.**  Whatever was done with an engine, a
full request that has findings has them without what some switches stand for when these are off; and
each of the two requests gets that answer whether or not the other one has come before it. -/
theorem switched_off_left_out (parser : Parser) (root : Option String) (settings : Settings)
    (steps : Steps) (disk : Files.Disk) (r : Request) (s : Switches) (result : Result)
    (hsteps : ∀ step ∈ steps, step.2.OnlyCompiles)
    (hkeys : KeysApart (askings parser (new root settings)
      (steps ++ [(disk, .analyze (r.switched {})), (disk, .analyze (r.switched s))])))
    (hresult : (analyze ⟨disk, parser⟩ (after parser (new root settings) steps)
      (r.switched {})).1 = .ok result)
    (hsuccess : result.success = true) :
    let h : Host := ⟨disk, parser⟩
    let e := after parser (new root settings) steps
    (result.shown s).success = true ∧
      (analyze h e (r.switched s)).1 = .ok (result.shown s) ∧
      (analyze h (analyze h e (r.switched {})).2 (r.switched s)).1 = .ok (result.shown s) ∧
      (analyze h (analyze h e (r.switched s)).2 (r.switched {})).1 = .ok result := by
  intro h e
  rw [askings_append] at hkeys
  generalize hknown : askings parser (new root settings) steps ++ _ = known at hkeys
  obtain ⟨-, hm⟩ := Mirrors.run hkeys (mirrors_new parser known root settings) hsteps
    fun q hq => hknown ▸ List.mem_append_left _ hq
  generalize after parser (new root (storeless settings)) steps = b at hm
  have hfull : ∀ q, ask h e (r.switched {}) = .ok q → q ∈ known := by
    intro q hask
    rw [← hknown]
    exact List.mem_append_right _ (mem_askings_cons _ rfl hask)
  have hpart : ∀ q, ask h e (r.switched s) = .ok q → q ∈ known := by
    intro q hask
    rw [← ask_analyze h e (r.switched s) (r.switched {})] at hask
    rw [← hknown]
    exact List.mem_append_right _ (List.mem_append_right _ (mem_askings_cons _ rfl hask))
  obtain ⟨hsame, hm₁⟩ := hm.analyze hkeys disk (r.switched {}) hfull
  obtain ⟨hsame', hm₂⟩ := hm.analyze hkeys disk (r.switched s) hpart
  have hplugins : b.plugins.OnlyCompile := hm.plugins ▸ hm.onlyCompile
  have hshown := analyze_switched hm.off s (hsame.symm.trans hresult) hsuccess
  refine ⟨(Result.success_shown s result).trans hsuccess, hsame'.trans hshown, ?_, ?_⟩
  · have hask := ask_analyze h e (r.switched s) (r.switched {})
    rw [(hm₁.analyze hkeys disk (r.switched s) fun q hq => hpart q (hask ▸ hq)).1,
      analyze_after_analyze hm.off hplugins, hshown]
  · have hask := ask_analyze h e (r.switched {}) (r.switched s)
    rw [(hm₂.analyze hkeys disk (r.switched {}) fun q hq => hfull q (hask ▸ hq)).1,
      analyze_after_analyze hm.off hplugins, ← hsame, hresult]

/-- A function of complexity three. -/
def branching : Element :=
  { name := "f", kind := .function { parameters := ["n"], complexity := some 3 }, startLine := 1,
    endLine := 1, text := "int f(int n) { .. }", language := "c" }

/-- A plugin for C that finds the function everywhere. -/
def findsBranching : Steps :=
  [({}, .register "c"
    { language := "c", defaultQueries := ["functions"], extract := fun _ => pure [branching] })]

/-- Neither complexity nor details nor queries. -/
def namesAlone : Switches := { complexity := false, details := false, queries := false }

/-- The full request comes first, and its result is kept. -/
theorem names_alone_left :
    let h : Host := ⟨{}, emptyUnit⟩
    let e := after emptyUnit (new none {}) findsBranching
    let r : Request := { path := "snippet", language := some "c", source := some "x" }
    ∃ result, (analyze h e (r.switched {})).1 = .ok result ∧
      (result.success, result.elements, result.queries.names)
        = (true, [branching], ["functions"]) ∧
      (analyze h (analyze h e (r.switched {})).2 (r.switched namesAlone)).1
        = .ok (result.shown namesAlone) := by
  intro h e r
  let full : Asking :=
    { request := r.switched {}, path := "snippet", source := "x", language := "c" }
  let part : Asking := { full with request := r.switched namesAlone }
  have hsteps : ∀ step ∈ findsBranching, step.2.OnlyCompiles := by
    intro step hstep
    obtain rfl := List.mem_singleton.1 hstep
    exact fun p => .pure [branching]
  have hfull : full.fingerprint.Fits :=
    Fingerprint.ofRequest_fits full.content (by decide) (by decide) (by rintro _ ⟨⟩) (by decide)
  have hpart : part.fingerprint.Fits :=
    Fingerprint.ofRequest_fits part.content (by decide) (by decide) (by rintro _ ⟨⟩) (by decide)
  have hkeys : KeysApart [full, part] :=
    ⟨by simp [hfull, hpart], Digest.separates_pair fun _ => rfl,
      Digest.separates_pair (by decide +kernel)⟩
  have hasked : askings emptyUnit (new none {}) (findsBranching ++
      [(({} : Files.Disk), .analyze (r.switched {})), ({}, .analyze (r.switched namesAlone))])
        = [full, part] := by
    decide +kernel
  have htold : (analyze h e (r.switched {})).1.toOption.map
      (fun result => (result.success, result.elements, result.queries.names))
        = some (true, [branching], ["functions"]) := by
    decide +kernel
  rw [← hasked] at hkeys
  cases hresult : (analyze h e (r.switched {})).1 with
  | error f =>
      rw [hresult] at htold
      cases htold
  | ok result =>
      rw [hresult] at htold
      replace htold := Option.some.inj htold
      exact ⟨result, rfl, htold, (switched_off_left_out emptyUnit none {} findsBranching {} r
        namesAlone result hsteps hkeys hresult (Prod.mk.inj htold).1).2.2.1⟩

end Engine

end CodeSurvey
