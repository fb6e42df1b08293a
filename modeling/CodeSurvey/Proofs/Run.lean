/-
  Runs of an engine: one act after the other, on a disk that may change between them.

  An analysis first finds out what is asked (`ask`: which text, under which path, in which language)
  and only then turns to the store and the survey.  `analyze_eq` takes the two apart, so that the
  store is met in one place, `answer`.
-/
import CodeSurvey.Proofs.Survey

namespace CodeSurvey

open Analysis Extract Syntax Query

/-! ## §1. The store. -/

namespace Store

variable {α : Type} {s : Store α} {key : String} {value : α}

theorem get_of_some (h : s.find? key = some value) :
    s.get key = (some value, { s with hits := s.hits + 1 }) := by
  rw [get, h]

theorem get_of_none (h : s.find? key = none) :
    s.get key = (none, { s with misses := s.misses + 1 }) := by
  rw [get, h]

theorem mem_of_find? (h : s.find? key = some value) : (key, value) ∈ s.entries := by
  unfold find? at h
  split at h
  · obtain ⟨before, rest, hsplit, -⟩ := List.lookup_eq_some_iff.1 h
    rw [hsplit]
    simp
  · cases h

theorem find?_of_off (h : s.enabled = false) : s.find? key = none := by
  rw [find?, h]
  rfl

theorem find?_of_empty (h : s.entries = []) : s.find? key = none := by
  rw [find?, h]
  split
  · rfl
  · rfl

theorem set_of_off (h : s.enabled = false) : s.set key value = s := by
  rw [set, h]
  rfl

theorem mem_of_mem_evict {capacity : Nat} {entry : String × α} :
    ∀ {order : List String} {entries : NameMap α},
      entry ∈ (evict capacity entries order).1 → entry ∈ entries := by
  intro order
  induction order with
  | nil => exact fun h => h
  | cons oldest order ih =>
      intro entries h
      unfold evict at h
      split at h
      · exact NameMap.mem_of_mem_erase (ih h)
      · exact h

theorem mem_of_mem_set {entry : String × α} (h : entry ∈ (s.set key value).entries) :
    entry = (key, value) ∨ entry ∈ s.entries := by
  unfold set at h
  split at h
  · exact NameMap.mem_of_mem_insert (mem_of_mem_evict h)
  · exact .inr h

end Store

namespace Engine

/-! ## §2. Acts. -/

/-- What can be done with an engine. -/
inductive Act where
  | analyze (r : Request)
  | analyzeCode (code language : String) (name : Option String)
  | runNamed (r : Request) (name : String)
  | runText (r : Request) (query : String)
  | clearStore
  | register (language : String) (plugin : Plugin)
  | resetQueryCounts
  | cleanup
  /-- Another engine of the process has compiled more for its plugins. -/
  | share (more : Memo)

/-- What an act answers. -/
inductive Answer where
  | result (result : Except Failure Result)
  | outcome (outcome : Except Failure Outcome)
  | done

/-- Performs an act. -/
def perform (h : Host) (e : Engine) : Act → Answer × Engine
  | .analyze r => (.result (analyze h e r).1, (analyze h e r).2)
  | .analyzeCode code language name =>
    (.result (analyzeCode h e code language name).1, (analyzeCode h e code language name).2)
  | .runNamed r name => (.outcome (runNamed h e r name).1, (runNamed h e r name).2)
  | .runText r query => (.outcome (runText h e r query).1, (runText h e r query).2)
  | .clearStore => (.done, e.clearStore)
  | .register language plugin => (.done, e.register language plugin)
  | .resetQueryCounts => (.done, e.resetQueryCounts)
  | .cleanup => (.done, e.cleanup)
  | .share more => (.done, { e with memo := e.memo ++ more })

/-- A run: acts, each with the disk at its time. -/
abbrev Steps := List (Files.Disk × Act)

/-- The answers of a run. -/
def answers (parser : Parser) (e : Engine) : Steps → List Answer
  | [] => []
  | (disk, act) :: steps =>
    (perform ⟨disk, parser⟩ e act).1 :: answers parser (perform ⟨disk, parser⟩ e act).2 steps

/-- The engine after a run. -/
def after (parser : Parser) (e : Engine) : Steps → Engine
  | [] => e
  | (disk, act) :: steps => after parser (perform ⟨disk, parser⟩ e act).2 steps

/-- Plugins that are registered work on nothing but the parsed file. -/
def Act.OnlyCompiles : Act → Prop
  | .register _ plugin => plugin.OnlyCompiles
  | _ => True

/-! ## §3. What is asked. -/

/-- What an analysis asks of the store, and of a survey if the store does not know. -/
structure Asking where
  request : Request
  path : String
  source : String
  language : String
deriving DecidableEq

namespace Asking

/-- The key under which the store keeps the answer. -/
def key (q : Asking) : String := keyOf q.request q.path q.source q.language

/-- The result that reports what came of it. -/
def result (q : Asking) (outcome : Except String Findings) : Result :=
  ⟨q.path, q.language, q.request.format, outcome⟩

/-- Surveys what is asked. -/
abbrev survey (q : Asking) (h : Host) (e : Engine) : Except Failure Findings × Engine :=
  Engine.survey h e q.request q.path q.source q.language

/-- Answers what is asked. -/
abbrev answer (q : Asking) (h : Host) (e : Engine) : Result × Engine :=
  Engine.answer h e q.request q.path q.source q.language

end Asking

/-- Finds out what is asked; without that, the answer is known. -/
def ask (h : Host) (e : Engine) (r : Request) : Except (Except Failure Result) Asking :=
  match (e.checkPath h.disk r.path).1 with
  | .error f => .error (.error f)
  | .ok path =>
    match loadSource h.disk r path with
    | .error f => .error (.error f)
    | .ok (.error message) =>
      .error (.ok ⟨path.render, r.explicitLanguage.getD unknownLanguage, r.format, .error message⟩)
    | .ok (.ok source) =>
      match e.resolveLanguage r path with
      | .error f => .error (.error f)
      | .ok language => .ok ⟨r, path.render, source, language⟩

/-- The engine once a path has been checked. -/
def opened (e : Engine) (d : Files.Disk) : Engine :=
  { e with guard := some (e.guard.getD (Files.Guard.ofRoot d e.root)) }

/-- The engine once an analysis has begun. -/
def asked (e : Engine) (d : Files.Disk) : Engine := (e.opened d).measured "analyze"

/-- An analysis asks, and is answered. -/
theorem analyze_eq (h : Host) (e : Engine) (r : Request) :
    analyze h e r =
      match ask h e r with
      | .error result => (result, e.asked h.disk)
      | .ok q => (.ok (q.answer h (e.asked h.disk)).1, (q.answer h (e.asked h.disk)).2) := by
  unfold analyze ask
  have hcheck : (e.measured "analyze").checkPath h.disk r.path
      = ((e.checkPath h.disk r.path).1, e.asked h.disk) := rfl
  rw [hcheck]
  cases (e.checkPath h.disk r.path).1 with
  | error f => rfl
  | ok path =>
      dsimp only
      cases loadSource h.disk r path with
      | error f => rfl
      | ok loaded =>
          cases loaded with
          | error message => rfl
          | ok source =>
              have hlanguage : (e.asked h.disk).resolveLanguage r path = e.resolveLanguage r path :=
                rfl
              dsimp only
              rw [hlanguage]
              cases e.resolveLanguage r path with
              | error f => rfl
              | ok language => rfl

/-- The outcome of a query that a result reports. -/
def reported (name : String) (result : Result) : Outcome :=
  (result.queries.find? name).getD
    ⟨name, .error (result.error?.getD "query was not executed")⟩

/-- A catalog query is an analysis of its own. -/
theorem runNamed_eq (h : Host) (e : Engine) (r : Request) (name : String) :
    runNamed h e r name =
      ((analyze h e (queryRequest r name)).1.map (reported name),
        (analyze h e (queryRequest r name)).2) := by
  unfold runNamed
  rcases analyze h e (queryRequest r name) with ⟨_ | _, _⟩
  · rfl
  · rfl

/-- A query text is asked for in the same way; it then goes to the session and not to the store. -/
theorem runText_eq (h : Host) (e : Engine) (r : Request) (query : String) :
    runText h e r query =
      match ask h e r with
      | .error (.error f) => (.error f, e.opened h.disk)
      | .error (.ok result) =>
        (.ok ⟨customName, .error (result.error?.getD "")⟩, e.opened h.disk)
      | .ok q =>
        match e.grammars.parse h.parser q.source q.language q.path with
        | .error f => (.ok ⟨customName, .error f.message⟩, e.opened h.disk)
        | .ok p =>
          (.ok (e.session.runText (target p) query).1,
            { e.opened h.disk with session := (e.session.runText (target p) query).2 }) := by
  unfold runText ask
  have hcheck : e.checkPath h.disk r.path
      = ((e.checkPath h.disk r.path).1, e.opened h.disk) := rfl
  rw [hcheck]
  cases (e.checkPath h.disk r.path).1 with
  | error f => rfl
  | ok path =>
      dsimp only
      cases loadSource h.disk r path with
      | error f => rfl
      | ok loaded =>
          cases loaded with
          | error message => rfl
          | ok source =>
              have hlanguage : (e.opened h.disk).resolveLanguage r path
                  = e.resolveLanguage r path := rfl
              have hgrammars : (e.opened h.disk).grammars = e.grammars := rfl
              dsimp only
              rw [hlanguage]
              cases e.resolveLanguage r path with
              | error f => rfl
              | ok language =>
                  dsimp only
                  rw [hgrammars]
                  cases e.grammars.parse h.parser source language path.render with
                  | error f => rfl
                  | ok p => rfl

/-- The request that an act has analysed. -/
def Act.request? : Act → Option Request
  | .analyze r => some r
  | .analyzeCode code language name =>
    some { path := name.getD snippetName, language := some language, source := some code }
  | .runNamed r name => some (queryRequest r name)
  | _ => none

/-- All that is asked of the store in a run. -/
def askings (parser : Parser) (e : Engine) : Steps → List Asking
  | [] => []
  | (disk, act) :: steps =>
    (act.request?.bind fun r => (ask ⟨disk, parser⟩ e r).toOption).toList ++
      askings parser (perform ⟨disk, parser⟩ e act).2 steps

theorem askings_append (parser : Parser) (more : Steps) :
    ∀ (steps : Steps) (e : Engine), askings parser e (steps ++ more) =
      askings parser e steps ++ askings parser (after parser e steps) more := by
  intro steps
  induction steps with
  | nil => exact fun e => rfl
  | cons step steps ih =>
      intro e
      rw [List.cons_append, askings, askings, ih, List.append_assoc]
      rfl

/-- What an act asks is among what is asked in the run. -/
theorem mem_askings_cons {parser : Parser} {e : Engine} {disk : Files.Disk} {act : Act}
    {r : Request} {q : Asking} (steps : Steps) (hr : act.request? = some r)
    (hask : ask ⟨disk, parser⟩ e r = .ok q) : q ∈ askings parser e ((disk, act) :: steps) := by
  rw [askings, hr]
  simp [hask, Except.toOption]

/-! ## §4. Engines that look alike from outside. -/

/-- Two engines that are akin and also agree in what decides what is asked. -/
structure Alike (R : Memo → Memo → Prop) (a b : Engine) : Prop extends Akin R R a b where
  root : a.root = b.root
  extensions : a.settings.extensions = b.settings.extensions
  guard : a.guard = b.guard
  closed : a.closed = b.closed

section Alike

variable {R : Memo → Memo → Prop} {a b : Engine}

theorem Alike.ask_eq (hab : Alike R a b) (h : Host) (r : Request) : ask h a r = ask h b r := by
  unfold ask checkPath resolveLanguage detectLanguage Settings.languageOfExtension
  rw [hab.root, hab.extensions, hab.guard, hab.plugins, hab.grammars]

theorem Alike.opened (hab : Alike R a b) (d : Files.Disk) : Alike R (a.opened d) (b.opened d) where
  toAkin := ⟨hab.defaultQueries, hab.grammars, hab.plugins, hab.memo, hab.session⟩
  root := hab.root
  extensions := hab.extensions
  guard := by
    show some _ = some _
    rw [hab.guard, hab.root]
  closed := hab.closed

theorem Alike.asked (hab : Alike R a b) (d : Files.Disk) : Alike R (a.asked d) (b.asked d) :=
  have hopened := hab.opened d
  ⟨⟨hab.defaultQueries, hab.grammars, hab.plugins, hab.memo, hab.session⟩,
    hab.root, hab.extensions, hopened.guard, hab.closed⟩

/-- A query text has one outcome on engines that look alike. -/
theorem Alike.runText (hab : Alike R a b) (hR : Memo.Indistinguishable a.grammars R) (h : Host)
    (r : Request) (query : String) :
    (Engine.runText h a r query).1 = (Engine.runText h b r query).1 ∧
      Alike R (Engine.runText h a r query).2 (Engine.runText h b r query).2 := by
  have hopened := hab.opened h.disk
  rw [runText_eq, runText_eq, ← hab.ask_eq, ← hab.grammars]
  rcases ask h a r with known | q
  · rcases known with f | result
    · exact ⟨rfl, hopened⟩
    · exact ⟨rfl, hopened⟩
  · dsimp only
    cases hparse : a.grammars.parse h.parser q.source q.language q.path with
    | error f => exact ⟨rfl, hopened⟩
    | ok p =>
        obtain ⟨hsame, hsession⟩ := Session.runOn_sim
          (target_knownTo (Grammars.parse_knows hparse)) hR hab.session customName
          (if Text.allBlank query.toList then .error "query string is empty" else .ok query)
        refine ⟨congrArg Except.ok hsame, ?_⟩
        exact ⟨⟨hab.defaultQueries, hab.grammars, hab.plugins, hab.memo, hsession⟩,
          hab.root, hab.extensions, hopened.guard, hab.closed⟩

/-- Engines that look alike find the same and go on looking alike. -/
theorem Alike.survey (hab : Alike R a b) (hR : Memo.Indistinguishable a.grammars R)
    (hplugins : a.plugins.OnlyCompile) (q : Asking) (h : Host) :
    (q.survey h a).1 = (q.survey h b).1 ∧ Alike R (q.survey h a).2 (q.survey h b).2 := by
  obtain ⟨hsame, hakin⟩ : (q.survey h a).1 = (q.survey h b).1 ∧
      Akin R R (q.survey h a).2 (q.survey h b).2 := survey_sim hab.toAkin hR hplugins
  obtain ⟨timings, memo, session, hframe⟩ :=
    survey_frame h a q.request q.path q.source q.language
  obtain ⟨timings', memo', session', hframe'⟩ :=
    survey_frame h b q.request q.path q.source q.language
  rw [hframe, hframe'] at hakin ⊢
  exact ⟨hsame, hakin, hab.root, hab.extensions, hab.guard, hab.closed⟩

end Alike

/-! ## §5. Answers. -/

section Answer

variable {h : Host} {e : Engine} {q : Asking}

/-- The engine once a look-up in its store has failed. -/
def missed (e : Engine) : Engine :=
  { e with store := { e.store with misses := e.store.misses + 1 } }

theorem answer_of_hit {result : Result} (hhit : e.store.find? q.key = some result) :
    q.answer h e = (result, { e with store := { e.store with hits := e.store.hits + 1 } }) := by
  have hget := Store.get_of_some hhit
  unfold Asking.key at hget
  unfold Asking.answer Engine.answer
  simp only [hget]

theorem answer_of_miss (hmiss : e.store.find? q.key = none) :
    q.answer h e =
      match q.survey h e.missed with
      | (.ok findings, left) =>
        (q.result (.ok findings),
          { left with store := left.store.set q.key (q.result (.ok findings)) })
      | (.error f, left) => (q.result (.error f.message), left) := by
  have hget := Store.get_of_none hmiss
  unfold Asking.key at hget
  unfold Asking.answer Engine.answer
  simp only [hget]
  rfl

theorem answer_of_found {findings : Findings} (hmiss : e.store.find? q.key = none)
    (hok : (q.survey h e.missed).1 = .ok findings) :
    q.answer h e = (q.result (.ok findings),
      { (q.survey h e.missed).2 with
        store := (q.survey h e.missed).2.store.set q.key (q.result (.ok findings)) }) := by
  rw [answer_of_miss hmiss]
  rcases hs : q.survey h e.missed with ⟨found, left⟩
  rw [hs] at hok
  cases hok
  rfl

theorem answer_of_failed {f : Failure} (hmiss : e.store.find? q.key = none)
    (hfailed : (q.survey h e.missed).1 = .error f) :
    q.answer h e = (q.result (.error f.message), (q.survey h e.missed).2) := by
  rw [answer_of_miss hmiss]
  rcases hs : q.survey h e.missed with ⟨found, left⟩
  rw [hs] at hfailed
  cases hfailed
  rfl

/-- However it comes about, an answer only adds to what is remembered. -/
theorem answer_grows (hplugins : e.plugins.OnlyCompile) (q : Asking) (h : Host) :
    Grown e (q.answer h e).2 := by
  cases hstore : e.store.find? q.key with
  | some result =>
      rw [answer_of_hit hstore]
      exact (Grown.refl e).unobserved e.guard _ e.timings
  | none =>
      have hmissed : Grown e e.missed := (Grown.refl e).unobserved e.guard _ e.timings
      have hgrown : Grown e (q.survey h e.missed).2 :=
        hmissed.trans (survey_grows (e := e.missed) hplugins)
      cases hfound : (q.survey h e.missed).1 with
      | error f =>
          rw [answer_of_failed hstore hfound]
          exact hgrown
      | ok findings =>
          rw [answer_of_found hstore hfound]
          exact hgrown.unobserved _ _ _

/-- An engine that has only learnt since answers anew what it answered before. -/
theorem answer_of_grown {later : Engine} (hplugins : e.plugins.OnlyCompile)
    (hgrown : Grown e later) (hmiss : e.store.find? q.key = none)
    (hmiss' : later.store.find? q.key = none) : (q.answer h later).1 = (q.answer h e).1 := by
  have hmissed : Grown e.missed later.missed :=
    ⟨hgrown.defaultQueries, hgrown.grammars, hgrown.plugins, hgrown.memo, hgrown.session⟩
  have hsame : (q.survey h e.missed).1 = (q.survey h later.missed).1 :=
    (survey_sim hmissed (Memo.indistinguishable_grows _) hplugins).1
  cases hfound : (q.survey h e.missed).1 with
  | error f => rw [answer_of_failed hmiss hfound, answer_of_failed hmiss' (hsame ▸ hfound)]
  | ok findings => rw [answer_of_found hmiss hfound, answer_of_found hmiss' (hsame ▸ hfound)]

end Answer

/-- Of engines that look alike, two whose stores do not know answer alike. -/
theorem Alike.answer_of_miss {R : Memo → Memo → Prop} {a b : Engine} (hab : Alike R a b)
    (hR : Memo.Indistinguishable a.grammars R) (hplugins : a.plugins.OnlyCompile) {q : Asking}
    (ha : a.store.find? q.key = none) (hb : b.store.find? q.key = none) (h : Host) :
    (q.answer h a).1 = (q.answer h b).1 ∧ Alike R (q.answer h a).2 (q.answer h b).2 := by
  have hmissed : Alike R a.missed b.missed :=
    ⟨⟨hab.defaultQueries, hab.grammars, hab.plugins, hab.memo, hab.session⟩,
      hab.root, hab.extensions, hab.guard, hab.closed⟩
  obtain ⟨hsame, hleft⟩ := hmissed.survey hR hplugins q h
  cases hfound : (q.survey h a.missed).1 with
  | error f =>
      rw [answer_of_failed ha hfound, answer_of_failed hb (hsame.symm.trans hfound)]
      exact ⟨rfl, hleft⟩
  | ok findings =>
      rw [answer_of_found ha hfound, answer_of_found hb (hsame.symm.trans hfound)]
      exact ⟨rfl, ⟨hleft.defaultQueries, hleft.grammars, hleft.plugins, hleft.memo, hleft.session⟩,
        hleft.root, hleft.extensions, hleft.guard, hleft.closed⟩

/-- Engines that look alike and whose stores know nothing give the same answer to an act. -/
theorem Alike.perform_fst {R : Memo → Memo → Prop} {a b : Engine} (hab : Alike R a b)
    (hR : Memo.Indistinguishable a.grammars R) (hplugins : a.plugins.OnlyCompile)
    (ha : ∀ key, a.store.find? key = none) (hb : ∀ key, b.store.find? key = none) (h : Host)
    (act : Act) : (perform h a act).1 = (perform h b act).1 := by
  have hanalyze : ∀ r, (analyze h a r).1 = (analyze h b r).1 := by
    intro r
    rw [analyze_eq, analyze_eq, ← hab.ask_eq]
    rcases ask h a r with result | q
    · rfl
    · exact congrArg Except.ok
        ((hab.asked h.disk).answer_of_miss hR hplugins (ha q.key) (hb q.key) h).1
  cases act with
  | analyze r => exact congrArg Answer.result (hanalyze r)
  | analyzeCode code language name => exact congrArg Answer.result (hanalyze _)
  | runNamed r name => simp only [perform, runNamed_eq, hanalyze]
  | runText r query => exact congrArg Answer.outcome (hab.runText hR h r query).1
  | _ => rfl

/-- An analysis only adds to what is remembered. -/
theorem analyze_grows {e : Engine} (hplugins : e.plugins.OnlyCompile) (h : Host) (r : Request) :
    Grown e (analyze h e r).2 := by
  have hasked : Grown e (e.asked h.disk) := (Grown.refl e).unobserved _ e.store _
  rw [analyze_eq]
  rcases ask h e r with result | q
  · exact hasked
  · exact hasked.trans (answer_grows (e := e.asked h.disk) hplugins q h)

/-- A query text only adds to what is remembered, and the store is left alone. -/
theorem runText_grows (h : Host) (e : Engine) (r : Request) (query : String) :
    Grown e (runText h e r query).2 ∧ (runText h e r query).2.store = e.store := by
  have hopened : Grown e (e.opened h.disk) := (Grown.refl e).unobserved _ e.store e.timings
  rw [runText_eq]
  rcases ask h e r with known | q
  · rcases known with f | result
    · exact ⟨hopened, rfl⟩
    · exact ⟨hopened, rfl⟩
  · dsimp only
    cases hparse : e.grammars.parse h.parser q.source q.language q.path with
    | error f => exact ⟨hopened, rfl⟩
    | ok p =>
        refine ⟨⟨rfl, rfl, rfl, .refl _ _, ?_⟩, rfl⟩
        exact Session.runOn_grows (target_knownTo (Grammars.parse_knows hparse)) e.session
          customName _

/-! ## §6. What an engine is set up with. -/

/-- One root, one choice of settings, the same registrations and one catalog. -/
structure SameSetup (a b : Engine) : Prop where
  root : a.root = b.root
  settings : a.settings = b.settings
  grammars : a.grammars = b.grammars
  plugins : a.plugins = b.plugins
  catalog : a.session.catalog = b.session.catalog

theorem SameSetup.refl (e : Engine) : SameSetup e e := ⟨rfl, rfl, rfl, rfl, rfl⟩

theorem SameSetup.symm {a b : Engine} (h : SameSetup a b) : SameSetup b a :=
  ⟨h.root.symm, h.settings.symm, h.grammars.symm, h.plugins.symm, h.catalog.symm⟩

theorem SameSetup.trans {a b c : Engine} (hab : SameSetup a b) (hbc : SameSetup b c) :
    SameSetup a c :=
  ⟨hab.root.trans hbc.root, hab.settings.trans hbc.settings, hab.grammars.trans hbc.grammars,
    hab.plugins.trans hbc.plugins, hab.catalog.trans hbc.catalog⟩

theorem answer_setup (q : Asking) (h : Host) (e : Engine) : SameSetup e (q.answer h e).2 := by
  have hsession := survey_session h e.missed q.request q.path q.source q.language
  obtain ⟨timings, memo, session, hframe⟩ :=
    survey_frame h e.missed q.request q.path q.source q.language
  rw [hframe] at hsession
  cases hstore : e.store.find? q.key with
  | some result =>
      rw [answer_of_hit hstore]
      exact ⟨rfl, rfl, rfl, rfl, rfl⟩
  | none =>
      cases hfound : (q.survey h e.missed).1 with
      | error f =>
          rw [answer_of_failed hstore hfound, hframe]
          exact ⟨rfl, rfl, rfl, rfl, hsession.catalog⟩
      | ok findings =>
          rw [answer_of_found hstore hfound, hframe]
          exact ⟨rfl, rfl, rfl, rfl, hsession.catalog⟩

theorem analyze_setup (h : Host) (e : Engine) (r : Request) : SameSetup e (analyze h e r).2 := by
  have hasked : SameSetup e (e.asked h.disk) := ⟨rfl, rfl, rfl, rfl, rfl⟩
  rw [analyze_eq]
  rcases ask h e r with result | q
  · exact hasked
  · exact hasked.trans (answer_setup q h (e.asked h.disk))

/-- An answer changes what is kept, remembered, counted and measured, and nothing else. -/
theorem answer_frame (q : Asking) (h : Host) (e : Engine) :
    ∃ timings memo session store, (q.answer h e).2 =
      { e with timings := timings, memo := memo, session := session, store := store } := by
  obtain ⟨timings, memo, session, hframe⟩ :=
    survey_frame h e.missed q.request q.path q.source q.language
  cases hstore : e.store.find? q.key with
  | some result =>
      rw [answer_of_hit hstore]
      exact ⟨e.timings, e.memo, e.session, _, rfl⟩
  | none =>
      cases hfound : (q.survey h e.missed).1 with
      | error f =>
          rw [answer_of_failed hstore hfound, hframe]
          exact ⟨timings, memo, session, _, rfl⟩
      | ok findings =>
          rw [answer_of_found hstore hfound, hframe]
          exact ⟨timings, memo, session, _, rfl⟩

theorem answer_guard (q : Asking) (h : Host) (e : Engine) : (q.answer h e).2.guard = e.guard := by
  obtain ⟨timings, memo, session, store, hframe⟩ := answer_frame q h e
  rw [hframe]

/-- The guard is made by the first analysis, and every later one on the same disk uses it. -/
theorem analyze_guard (h : Host) (e : Engine) (r : Request) :
    (analyze h e r).2.guard = some (e.guard.getD (Files.Guard.ofRoot h.disk e.root)) := by
  rw [analyze_eq]
  rcases ask h e r with result | q
  · rfl
  · exact answer_guard q h (e.asked h.disk)

/-- What a request asks is the same before and after another one. -/
theorem ask_analyze (h : Host) (e : Engine) (r r' : Request) :
    ask h (analyze h e r').2 r = ask h e r := by
  have hsetup := analyze_setup h e r'
  unfold ask checkPath resolveLanguage detectLanguage Settings.languageOfExtension
  rw [← hsetup.root, ← hsetup.settings, ← hsetup.grammars, ← hsetup.plugins, analyze_guard]
  rfl

theorem runText_setup (h : Host) (e : Engine) (r : Request) (query : String) :
    SameSetup e (runText h e r query).2 := by
  have hopened : SameSetup e (e.opened h.disk) := ⟨rfl, rfl, rfl, rfl, rfl⟩
  rw [runText_eq]
  rcases ask h e r with known | q
  · rcases known with f | result
    · exact hopened
    · exact hopened
  · dsimp only
    cases hparse : e.grammars.parse h.parser q.source q.language q.path with
    | error f => exact hopened
    | ok p =>
        exact ⟨rfl, rfl, rfl, rfl, (Session.runOn_grows
          (target_knownTo (Grammars.parse_knows hparse)) e.session customName _).catalog⟩

theorem SameSetup.register {a b : Engine} (hab : SameSetup a b) (language : String)
    (plugin : Plugin) : SameSetup (a.register language plugin) (b.register language plugin) where
  root := hab.root
  settings := hab.settings
  grammars := by
    unfold Engine.register
    rw [hab.grammars]
  plugins := by
    show a.plugins.register language plugin = b.plugins.register language plugin
    rw [hab.plugins]
  catalog := hab.catalog

/-- Is a plugin registered? -/
def Act.isRegistration : Act → Bool
  | .register _ _ => true
  | _ => false

theorem Act.eq_register {act : Act} (h : act.isRegistration = true) :
    ∃ language plugin, act = .register language plugin := by
  cases act with
  | register language plugin => exact ⟨language, plugin, rfl⟩
  | _ => cases h

theorem Act.onlyCompiles_of_not_registration {act : Act} (h : act.isRegistration = false) :
    act.OnlyCompiles := by
  cases act with
  | register language plugin => cases h
  | _ => trivial

/-- Only registering a plugin changes how an engine is set up. -/
theorem perform_setup (h : Host) (e : Engine) {act : Act} (hact : act.isRegistration = false) :
    SameSetup e (perform h e act).2 := by
  cases act with
  | analyze r => exact analyze_setup h e r
  | analyzeCode code language name => exact analyze_setup h e _
  | runNamed r name =>
      simp only [perform, runNamed_eq]
      exact analyze_setup h e _
  | runText r query => exact runText_setup h e r query
  | clearStore => exact ⟨rfl, rfl, rfl, rfl, rfl⟩
  | register language plugin => cases hact
  | resetQueryCounts => exact ⟨rfl, rfl, rfl, rfl, rfl⟩
  | cleanup =>
      show SameSetup e e.cleanup
      unfold cleanup
      split
      · exact .refl e
      · exact ⟨rfl, rfl, rfl, rfl, rfl⟩
  | share more => exact ⟨rfl, rfl, rfl, rfl, rfl⟩

theorem perform_onlyCompile {e : Engine} (hplugins : e.plugins.OnlyCompile) (h : Host) {act : Act}
    (hact : act.OnlyCompiles) : (perform h e act).2.plugins.OnlyCompile := by
  cases hregistration : act.isRegistration with
  | false => exact (perform_setup h e hregistration).plugins ▸ hplugins
  | true =>
      obtain ⟨language, plugin, rfl⟩ := Act.eq_register hregistration
      exact hplugins.register language hact

end Engine

end CodeSurvey
