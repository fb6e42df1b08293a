/-
  Surveys and what they leave behind.

  A survey reads the grammars, the plugins, the default queries and the catalog of an engine, and
  the two memories of compiled queries; all it changes are the memories, the counts and the timings.
  Engines that agree in the former are `Akin` by a relation between their memories.

  Main results: akin engines that compiling cannot tell apart find the same (`survey_sim`); a survey
  only adds to what the engine remembers (`survey_grows`); and a survey that succeeded once gives
  the same on every later engine, and leaves it as it is (`survey_again`).
-/
import CodeSurvey.Engine.Basic
import CodeSurvey.Proofs.Extraction
import CodeSurvey.Proofs.Session

namespace CodeSurvey.Engine

open Analysis Extract Syntax Query

/-! ## §1. The parts of a survey. -/

/-- The elements that a request wants. -/
def elementsWanted (r : Request) (plugin : Plugin) (p : Parsed) : Extraction (List Element) :=
  if r.elements then List.map (trimElement r) <$> plugin.extract p else pure []

/-- The queries that a request wants. -/
def queriesWanted (e : Engine) (r : Request) (language : String) (plugin : Plugin) : List String :=
  if r.runQueries then e.queryNames r language plugin else []

/-- The findings in a parsed file. -/
def findingsOf (p : Parsed) (elements : List Element) (queries : NameMap Outcome) : Findings :=
  { lineCount := p.tree.lineCount, nodeCount := p.tree.nodeCount, elements := elements,
    queries := queries, hasSyntaxErrors := p.tree.hasError }

theorem elementsWanted_onlyCompiles {plugin : Plugin} (h : plugin.OnlyCompiles) (r : Request)
    (p : Parsed) : OnlyCompiles p (elementsWanted r plugin p) := by
  unfold elementsWanted
  split
  · exact .map _ (h p)
  · exact .pure []

@[simp] theorem measured_memo (e : Engine) (name : String) : (e.measured name).memo = e.memo := rfl

@[simp] theorem measured_grammars (e : Engine) (name : String) :
    (e.measured name).grammars = e.grammars := rfl

theorem findElements_eq (e : Engine) (r : Request) (plugin : Plugin) (p : Parsed) :
    ∃ timings, e.findElements r plugin p =
      (((elementsWanted r plugin p).run e.memo).1.mapError Failure.internal,
        { e with timings := timings, memo := ((elementsWanted r plugin p).run e.memo).2 }) := by
  unfold findElements elementsWanted
  split
  · refine ⟨(e.measured "extract").timings, ?_⟩
    simp only [measured_memo, run_map]
    rcases (plugin.extract p).run e.memo with ⟨_ | _, _⟩
    · rfl
    · rfl
  · exact ⟨e.timings, rfl⟩

theorem runQueries_eq (e : Engine) (r : Request) (names : List String) (p : Parsed) :
    ∃ timings, e.runQueries r names p =
      ((e.session.runAll (target p) (if r.runQueries then names else [])).1,
        { e with
          timings := timings,
          session := (e.session.runAll (target p) (if r.runQueries then names else [])).2 }) := by
  unfold runQueries
  split
  · exact ⟨(e.measured "queries").timings, rfl⟩
  · exact ⟨e.timings, rfl⟩

section Survey

variable {h : Host} {e : Engine} {r : Request} {path source language : String}

theorem survey_of_unparsed {f : Failure}
    (hparse : e.grammars.parse h.parser source language path = .error f) :
    survey h e r path source language = (.error f, e.measured "parse") := by
  simp only [survey, measured_grammars, hparse]

theorem survey_of_no_elements {p : Parsed} {message : String} {memo : Memo}
    (hparse : e.grammars.parse h.parser source language path = .ok p)
    (hfound : (elementsWanted r (e.plugins.resolve language) p).run e.memo
      = (.error message, memo)) :
    ∃ timings, survey h e r path source language =
      (.error (.internal message), { e with timings := timings, memo := memo }) := by
  obtain ⟨timings, heq⟩ := findElements_eq (e.measured "parse") r (e.plugins.resolve language) p
  simp only [survey, measured_grammars, hparse, heq, measured_memo, hfound]
  exact ⟨timings, rfl⟩

theorem survey_of_elements {p : Parsed} {elements : List Element} {memo : Memo}
    (hparse : e.grammars.parse h.parser source language path = .ok p)
    (hfound : (elementsWanted r (e.plugins.resolve language) p).run e.memo = (.ok elements, memo)) :
    ∃ timings, survey h e r path source language =
      (.ok (findingsOf p elements (e.session.runAll (target p)
          (e.queriesWanted r language (e.plugins.resolve language))).1),
        { e with
          timings := timings, memo := memo,
          session := (e.session.runAll (target p)
            (e.queriesWanted r language (e.plugins.resolve language))).2 }) := by
  obtain ⟨timings, heq⟩ := findElements_eq (e.measured "parse") r (e.plugins.resolve language) p
  simp only [survey, measured_grammars, hparse, heq, measured_memo, hfound, mapError_ok]
  obtain ⟨timings', heq'⟩ := runQueries_eq
    { e.measured "parse" with timings := timings, memo := memo } r
    (e.queryNames r language (e.plugins.resolve language)) p
  exact ⟨timings', congrArg (fun ran : NameMap Outcome × Engine =>
    ((.ok (findingsOf p elements ran.1) : Except Failure Findings), ran.2)) heq'⟩

/-- A survey that finds something has a tree and its elements. -/
theorem exists_of_survey_ok {findings : Findings}
    (hok : (survey h e r path source language).1 = .ok findings) :
    ∃ p elements memo timings, e.grammars.parse h.parser source language path = .ok p ∧
      (elementsWanted r (e.plugins.resolve language) p).run e.memo = (.ok elements, memo) ∧
      findings = findingsOf p elements (e.session.runAll (target p)
        (e.queriesWanted r language (e.plugins.resolve language))).1 ∧
      (survey h e r path source language).2 =
        { e with
          timings := timings, memo := memo,
          session := (e.session.runAll (target p)
            (e.queriesWanted r language (e.plugins.resolve language))).2 } := by
  cases hparse : e.grammars.parse h.parser source language path with
  | error f =>
      rw [survey_of_unparsed hparse] at hok
      cases hok
  | ok p =>
      rcases hfound : (elementsWanted r (e.plugins.resolve language) p).run e.memo with
        ⟨message | elements, memo⟩
      · obtain ⟨_, heq⟩ := survey_of_no_elements hparse hfound
        rw [heq] at hok
        cases hok
      · obtain ⟨timings, heq⟩ := survey_of_elements hparse hfound
        rw [heq] at hok ⊢
        exact ⟨p, elements, memo, timings, rfl, hfound, (Except.ok.inj hok).symm, rfl⟩

/-- A survey changes what is remembered, counted and measured, and nothing else. -/
theorem survey_frame (h : Host) (e : Engine) (r : Request) (path source language : String) :
    ∃ timings memo session, (survey h e r path source language).2 =
      { e with timings := timings, memo := memo, session := session } := by
  cases hparse : e.grammars.parse h.parser source language path with
  | error f =>
      rw [survey_of_unparsed hparse]
      exact ⟨_, e.memo, e.session, rfl⟩
  | ok p =>
      rcases hfound : (elementsWanted r (e.plugins.resolve language) p).run e.memo with
        ⟨message | elements, memo⟩
      · obtain ⟨timings, heq⟩ := survey_of_no_elements hparse hfound
        rw [heq]
        exact ⟨timings, memo, e.session, rfl⟩
      · obtain ⟨timings, heq⟩ := survey_of_elements hparse hfound
        rw [heq]
        exact ⟨timings, memo, _, rfl⟩

end Survey

theorem target_knownTo {g : Grammars} {p : Parsed} (h : g.Knows p.dialect) :
    (target p).KnownTo g := by
  rintro d ⟨⟩
  exact h

/-- Whatever the plugins do, the session has only learnt. -/
theorem survey_session (h : Host) (e : Engine) (r : Request) (path source language : String) :
    e.session.Akin (Memo.Grows e.grammars) (survey h e r path source language).2.session := by
  cases hparse : e.grammars.parse h.parser source language path with
  | error f =>
      rw [survey_of_unparsed hparse]
      exact ⟨rfl, .refl _ _⟩
  | ok p =>
      rcases hfound : (elementsWanted r (e.plugins.resolve language) p).run e.memo with
        ⟨message | elements, memo⟩
      · obtain ⟨timings, heq⟩ := survey_of_no_elements hparse hfound
        rw [heq]
        exact ⟨rfl, .refl _ _⟩
      · obtain ⟨timings, heq⟩ := survey_of_elements hparse hfound
        rw [heq]
        exact Session.runAll_grows (target_knownTo (Grammars.parse_knows hparse)) _ _

/-! ## §2. Akin engines. -/

/-- Two engines that look alike to a survey but for what they remember: the queries that plugins
compiled are related by `R`, those of the sessions by `S`. -/
structure Akin (R S : Memo → Memo → Prop) (a b : Engine) : Prop where
  defaultQueries : a.settings.defaultQueries = b.settings.defaultQueries
  grammars : a.grammars = b.grammars
  plugins : a.plugins = b.plugins
  memo : R a.memo b.memo
  session : a.session.Akin S b.session

/-- The guard, the store and the timings do not matter. -/
theorem Akin.unobserved {R S : Memo → Memo → Prop} {a b : Engine} (hab : Akin R S a b)
    (guard : Option Files.Guard) (store : Store Result) (timings : Timings) :
    Akin R S a { b with guard := guard, store := store, timings := timings } :=
  ⟨hab.defaultQueries, hab.grammars, hab.plugins, hab.memo, hab.session⟩

/-- An engine that has since compiled more with the grammars it has. -/
abbrev Grown (e later : Engine) : Prop :=
  Akin (Memo.Grows e.grammars) (Memo.Grows e.grammars) e later

theorem Grown.refl (e : Engine) : Grown e e :=
  ⟨rfl, rfl, rfl, .refl _ _, rfl, .refl _ _⟩

theorem Grown.trans {a b c : Engine} (hab : Grown a b) (hbc : Grown b c) : Grown a c where
  defaultQueries := hab.defaultQueries.trans hbc.defaultQueries
  grammars := hab.grammars.trans hbc.grammars
  plugins := hab.plugins.trans hbc.plugins
  memo := hab.memo.trans (hab.grammars ▸ hbc.memo)
  session := hab.session.grows_trans (hab.grammars ▸ hbc.session)

section Akin

variable {h : Host} {a b e : Engine} {r : Request} {path source language : String}
  {R S : Memo → Memo → Prop}

theorem queriesWanted_eq (hab : a.settings.defaultQueries = b.settings.defaultQueries) (r : Request)
    (language : String) (plugin : Plugin) :
    a.queriesWanted r language plugin = b.queriesWanted r language plugin := by
  unfold queriesWanted queryNames
  rw [hab]

/-- **Engines that compiling cannot tell apart** find the same and stay so. -/
theorem survey_sim (hab : Akin R R a b) (hR : Memo.Indistinguishable a.grammars R)
    (hplugins : a.plugins.OnlyCompile) :
    (survey h a r path source language).1 = (survey h b r path source language).1 ∧
      Akin R R (survey h a r path source language).2 (survey h b r path source language).2 := by
  cases hparse : a.grammars.parse h.parser source language path with
  | error f =>
      rw [survey_of_unparsed hparse, survey_of_unparsed (hab.grammars ▸ hparse)]
      exact ⟨rfl, hab.defaultQueries, hab.grammars, hab.plugins, hab.memo, hab.session⟩
  | ok p =>
      have hknows := Grammars.parse_knows hparse
      obtain ⟨hsame, hmemo⟩ := (elementsWanted_onlyCompiles (hplugins.resolve language) r p).run_sim
        hknows hR hab.memo
      rcases hfound : (elementsWanted r (a.plugins.resolve language) p).run a.memo with
        ⟨found, memo⟩
      rcases hfound' : (elementsWanted r (a.plugins.resolve language) p).run b.memo with
        ⟨found', memo'⟩
      rw [hfound, hfound'] at hsame hmemo
      obtain rfl : found = found' := hsame
      cases found with
      | error message =>
          obtain ⟨_, heq⟩ := survey_of_no_elements hparse hfound
          obtain ⟨_, heq'⟩ := survey_of_no_elements (hab.grammars ▸ hparse) (hab.plugins ▸ hfound')
          rw [heq, heq']
          exact ⟨rfl, hab.defaultQueries, hab.grammars, hab.plugins, hmemo, hab.session⟩
      | ok elements =>
          obtain ⟨hran, hsession⟩ := Session.runAll_sim (target_knownTo hknows) hR hab.session
            (a.queriesWanted r language (a.plugins.resolve language))
          obtain ⟨_, heq⟩ := survey_of_elements hparse hfound
          obtain ⟨_, heq'⟩ := survey_of_elements (hab.grammars ▸ hparse) (hab.plugins ▸ hfound')
          rw [heq, heq', ← hab.plugins, ← queriesWanted_eq hab.defaultQueries, hran]
          exact ⟨rfl, hab.defaultQueries, hab.grammars, rfl, hmemo, hsession⟩

/-- **A survey only adds** to what is remembered. -/
theorem survey_grows (hplugins : e.plugins.OnlyCompile) :
    Grown e (survey h e r path source language).2 := by
  have hsession := survey_session h e r path source language
  cases hparse : e.grammars.parse h.parser source language path with
  | error f =>
      rw [survey_of_unparsed hparse]
      exact (Grown.refl e).unobserved e.guard e.store _
  | ok p =>
      have hmemo := (elementsWanted_onlyCompiles (hplugins.resolve language) r p).grows
        (Grammars.parse_knows hparse) e.memo
      rcases hfound : (elementsWanted r (e.plugins.resolve language) p).run e.memo with
        ⟨message | elements, memo⟩
      · obtain ⟨_, heq⟩ := survey_of_no_elements hparse hfound
        rw [hfound] at hmemo
        rw [heq] at hsession ⊢
        exact ⟨rfl, rfl, rfl, hmemo, hsession⟩
      · obtain ⟨_, heq⟩ := survey_of_elements hparse hfound
        rw [hfound] at hmemo
        rw [heq] at hsession ⊢
        exact ⟨rfl, rfl, rfl, hmemo, hsession⟩

/-- **A survey that succeeded once** gives the same on every later engine and leaves it as it is. -/
theorem survey_again {findings : Findings} (hplugins : e.plugins.OnlyCompile)
    (hok : (survey h e r path source language).1 = .ok findings)
    (hlater : Akin Memo.Extends (Memo.Grows e.grammars) (survey h e r path source language).2 b) :
    (survey h b r path source language).1 = .ok findings ∧
      Akin Eq Eq b (survey h b r path source language).2 := by
  obtain ⟨p, elements, memo, timings, hparse, hfound, rfl, heq⟩ := exists_of_survey_ok hok
  have hknows := Grammars.parse_knows hparse
  rw [heq] at hlater
  have hgrammars : e.grammars = b.grammars := hlater.grammars
  have hplugins' : e.plugins = b.plugins := hlater.plugins
  have hdefaults : e.settings.defaultQueries = b.settings.defaultQueries := hlater.defaultQueries
  have hagain := (elementsWanted_onlyCompiles (hplugins.resolve language) r p).again hknows
    hfound hlater.memo
  obtain ⟨hran, hsession⟩ := Session.runAll_again (target_knownTo hknows) hlater.session
  obtain ⟨_, heq'⟩ := survey_of_elements (hgrammars ▸ hparse) (hplugins' ▸ hagain)
  rw [heq', ← hplugins', ← queriesWanted_eq hdefaults, hran]
  exact ⟨rfl, rfl, rfl, hplugins'.symm, rfl, hsession⟩

end Akin

end CodeSurvey.Engine
