/-
  Two ways to run a query.

  A catalog query goes through an analysis: the store is asked, and what was found may have been
  kept long ago.  A query text goes to the session at once.  Both ask in the same words
  (`ask_queryRequest`), and an entry of the store stays what the session would find now, since the
  session has only learnt since (`Told`): whatever puts another grammar, plugin or session behind a
  kept result empties the store.

  Main result, `runNamed_eq_runText`: whatever was done with an engine before, a catalog query and
  its text are refused alike or have the same outcome but for the name; and a catalog query is
  always told what came of it.
-/
import CodeSurvey.Proofs.Discipline
import CodeSurvey.Proofs.Naming

namespace CodeSurvey

open Analysis Extract Syntax Query

/-! ## §1. One query in a session. -/

namespace Query.Session

/-- What a query finds does not depend on what it is called. -/
theorem runOn_result (s : Session) (t : Target) (name name' : String)
    (query : Except String String) :
    (s.runOn t name query).1.result = (s.runOn t name' query).1.result := by
  unfold runOn
  cases t.tree with
  | none => rfl
  | some tree =>
      cases t.dialect with
      | none => rfl
      | some d =>
          cases query with
          | error message => rfl
          | ok text => rfl

theorem runOn_name (s : Session) (t : Target) (name : String) (query : Except String String) :
    (s.runOn t name query).1.name = name := by
  rcases runOn_cases t name query with ⟨message, heq⟩ | ⟨tree, d, text, -, heq⟩
  · rw [heq s]
    rfl
  · rw [heq s]
    rfl

/-- One query alone. -/
theorem runAll_singleton (s : Session) (t : Target) (name : String) :
    (s.runAll t [name]).1 = [(name, (s.runNamed t name).1)] := rfl

end Query.Session

namespace Query.Catalog

/-- A language and its normal spelling have the same queries. -/
theorem source?_normalized (c : Catalog) (language name : String) :
    c.source? (Text.normalized language) name = c.source? language name := by
  unfold source? definition
  rw [Text.normalized_normalized]

end Query.Catalog

theorem Syntax.Grammars.language_of_parse {g : Grammars} {parser : Parser}
    {source language path : String} {p : Parsed} (h : g.parse parser source language path = .ok p) :
    p.dialect.language = Text.normalized language := by
  unfold parse dialect? at h
  split at h
  · cases h
  · rename_i d hd
    obtain ⟨grammar, -, rfl⟩ := Option.map_eq_some_iff.1 hd
    split at h
    · cases h
    · cases h
      rfl

namespace Engine

/-! ## §2. What is kept is what the session would find. -/

/-- As far as queries are concerned, an engine that has only learnt since. -/
abbrev Taught (e later : Engine) : Prop := Akin (fun _ _ => True) (Memo.Grows e.grammars) e later

theorem Taught.refl (e : Engine) : Taught e e :=
  ⟨rfl, rfl, rfl, trivial, rfl, .refl _ _⟩

theorem Taught.trans {a b c : Engine} (hab : Taught a b) (hbc : Taught b c) : Taught a c where
  defaultQueries := hab.defaultQueries.trans hbc.defaultQueries
  grammars := hab.grammars.trans hbc.grammars
  plugins := hab.plugins.trans hbc.plugins
  memo := trivial
  session := hab.session.grows_trans (hab.grammars ▸ hbc.session)

theorem taught_store (e : Engine) (store : Store Result) : Taught e { e with store := store } :=
  (Taught.refl e).unobserved e.guard store e.timings

theorem Akin.taught {e later : Engine} (h : Grown e later) : Taught e later :=
  ⟨h.defaultQueries, h.grammars, h.plugins, trivial, h.session⟩

theorem survey_taught (q : Asking) (h : Host) (e : Engine) : Taught e (q.survey h e).2 := by
  have hsession := survey_session h e q.request q.path q.source q.language
  obtain ⟨timings, memo, session, hframe⟩ := survey_frame h e q.request q.path q.source q.language
  rw [hframe] at hsession ⊢
  exact ⟨rfl, rfl, rfl, trivial, hsession⟩

/-- The queries that an asking wants. -/
def namesOf (e : Engine) (a : Asking) : List String :=
  e.queriesWanted a.request a.language (e.plugins.resolve a.language)

/-- What was found is what every session that has only learnt since would find. -/
def Told (parser : Parser) (e : Engine) (a : Asking) (findings : Findings) : Prop :=
  ∃ p, e.grammars.parse parser a.source a.language a.path = .ok p ∧
    ∀ later, e.session.Akin (Memo.Grows e.grammars) later →
      (later.runAll (target p) (e.namesOf a)).1 = findings.queries

section Kept

variable {parser : Parser} {disk : Files.Disk} {known : List Asking} {e later : Engine}
  {a q : Asking} {findings : Findings}

theorem namesOf_eq (h : Taught e later) (a : Asking) : e.namesOf a = later.namesOf a := by
  unfold namesOf
  rw [h.plugins, queriesWanted_eq h.defaultQueries]

theorem Told.taught (h : Told parser e a findings) (hlater : Taught e later) :
    Told parser later a findings := by
  obtain ⟨p, hparse, hran⟩ := h
  refine ⟨p, hlater.grammars ▸ hparse, fun s hs => ?_⟩
  rw [← namesOf_eq hlater]
  exact hran s (hlater.session.grows_trans (hlater.grammars ▸ hs))

/-- Only what a survey reads of an asking matters. -/
theorem Told.same (h : Told parser e a findings) (hsame : a.Same q) :
    Told parser e q findings := by
  have hnames : e.namesOf a = e.namesOf q := by
    show e.queriesWanted a.request.options a.language (e.plugins.resolve a.language)
      = e.queriesWanted q.request.options q.language (e.plugins.resolve q.language)
    rw [hsame.language, hsame.options]
  unfold Told at h ⊢
  rw [← hsame.source, ← hsame.language, ← hsame.path, ← hnames]
  exact h

/-- Findings are told by the engine that has found them. -/
theorem told_of_survey (hok : (q.survey ⟨disk, parser⟩ e).1 = .ok findings) :
    Told parser (q.survey ⟨disk, parser⟩ e).2 q findings := by
  obtain ⟨p, elements, memo, timings, hparse, -, rfl, hleft⟩ := exists_of_survey_ok hok
  rw [hleft]
  refine ⟨p, hparse, fun s hs => ?_⟩
  exact (Session.runAll_again (target_knownTo (Grammars.parse_knows hparse)) hs).1

/-- What is told of findings when they are found, whoever asks for them, and stays true while the
engine only learns. -/
structure Abiding (parser : Parser) (F : Engine → Asking → Findings → Prop) : Prop where
  found : ∀ {disk : Files.Disk} {q : Asking} {e : Engine} {findings : Findings},
    (q.survey ⟨disk, parser⟩ e).1 = .ok findings → F (q.survey ⟨disk, parser⟩ e).2 q findings
  same : ∀ {e : Engine} {a q : Asking} {findings : Findings},
    F e a findings → a.Same q → F e q findings
  taught : ∀ {e later : Engine} {a : Asking} {findings : Findings},
    F e a findings → Taught e later → F later a findings

/-- Every entry of the store is the answer to something that was asked, and `F` is true of it. -/
def KeptAs (F : Engine → Asking → Findings → Prop) (known : List Asking) (e : Engine) : Prop :=
  ∀ entry ∈ e.store.entries, ∃ a ∈ known, ∃ findings,
    entry = (a.key, a.result (.ok findings)) ∧ F e a findings

variable {F : Engine → Asking → Findings → Prop}

theorem KeptAs.taught (h : KeptAs F known e) (hF : Abiding parser F) (hlater : Taught e later)
    (hentries : ∀ entry ∈ later.store.entries, entry ∈ e.store.entries) : KeptAs F known later := by
  intro entry hentry
  obtain ⟨a, ha, findings, heq, htrue⟩ := h entry (hentries entry hentry)
  exact ⟨a, ha, findings, heq, hF.taught htrue hlater⟩

theorem keptAs_of_empty (h : e.store.entries = []) : KeptAs F known e := by
  intro entry hentry
  rw [h] at hentry
  cases hentry

theorem KeptAs.asked (hkept : KeptAs F known e) (hF : Abiding parser F) (d : Files.Disk) :
    KeptAs F known (e.asked d) :=
  hkept.taught hF ((Taught.refl e).unobserved _ e.store _) fun _ hentry => hentry

theorem KeptAs.answer (hkept : KeptAs F known e) (hF : Abiding parser F) (hq : q ∈ known) :
    KeptAs F known (q.answer ⟨disk, parser⟩ e).2 := by
  cases hstore : e.store.find? q.key with
  | some result =>
      rw [answer_of_hit hstore]
      exact hkept.taught hF (taught_store e _) fun _ hentry => hentry
  | none =>
      have hlater : Taught e (q.survey ⟨disk, parser⟩ e.missed).2 :=
        (taught_store e _).trans (survey_taught q ⟨disk, parser⟩ e.missed)
      have hleft := survey_store q ⟨disk, parser⟩ e.missed
      cases hfound : (q.survey ⟨disk, parser⟩ e.missed).1 with
      | error f =>
          rw [answer_of_failed hstore hfound]
          refine hkept.taught hF hlater fun entry hentry => ?_
          rw [hleft] at hentry
          exact hentry
      | ok findings =>
          rw [answer_of_found hstore hfound]
          intro entry hentry
          rcases Store.mem_of_mem_set hentry with rfl | hentry
          · exact ⟨q, hq, findings, rfl, hF.taught (hF.found hfound) (taught_store _ _)⟩
          · rw [hleft] at hentry
            obtain ⟨a, ha, findings', heq, htrue⟩ := hkept entry hentry
            exact ⟨a, ha, findings', heq, hF.taught htrue (hlater.trans (taught_store _ _))⟩

theorem KeptAs.analyze (hkept : KeptAs F known e) (hF : Abiding parser F) (r : Request)
    (hknown : ∀ q, ask ⟨disk, parser⟩ e r = .ok q → q ∈ known) :
    KeptAs F known (Engine.analyze ⟨disk, parser⟩ e r).2 := by
  rw [analyze_eq]
  cases hask : ask ⟨disk, parser⟩ e r with
  | error result => exact hkept.asked hF disk
  | ok q => exact (hkept.asked hF disk).answer hF (hknown q hask)

/-- **One act** leaves what is kept up to date. -/
theorem KeptAs.perform (hkept : KeptAs F known e) (hF : Abiding parser F) (act : Act)
    (hknown : ∀ r q, act.request? = some r → ask ⟨disk, parser⟩ e r = .ok q → q ∈ known) :
    KeptAs F known (Engine.perform ⟨disk, parser⟩ e act).2 := by
  -- only analyses keep anything; whatever exchanges grammars, plugins or the session's memory
  -- empties the store, and the rest teaches the session at most
  cases act with
  | analyze r => exact hkept.analyze hF r fun q => hknown r q rfl
  | analyzeCode code language name => exact hkept.analyze hF _ fun q => hknown _ q rfl
  | runNamed r name =>
      simp only [Engine.perform, runNamed_eq]
      exact hkept.analyze hF _ fun q => hknown _ q rfl
  | runText r query =>
      obtain ⟨hgrown, hstore⟩ := runText_grows ⟨disk, parser⟩ e r query
      refine hkept.taught hF hgrown.taught fun entry hentry => ?_
      rw [← hstore]
      exact hentry
  | clearStore => exact keptAs_of_empty rfl
  | register language plugin => exact keptAs_of_empty rfl
  | resetQueryCounts =>
      exact hkept.taught hF ⟨rfl, rfl, rfl, trivial, rfl, .refl _ _⟩ fun _ hentry => hentry
  | cleanup =>
      show KeptAs F known e.cleanup
      unfold Engine.cleanup
      split
      · exact hkept
      · exact keptAs_of_empty rfl
  | share more =>
      exact hkept.taught hF ⟨rfl, rfl, rfl, trivial, rfl, .refl _ _⟩ fun _ hentry => hentry

/-- **A whole run** does. -/
theorem KeptAs.after (hF : Abiding parser F) :
    ∀ {steps : Steps} {e : Engine}, KeptAs F known e →
      (∀ q ∈ askings parser e steps, q ∈ known) →
      KeptAs F known (Engine.after parser e steps) := by
  intro steps
  induction steps with
  | nil => exact fun hkept _ => hkept
  | cons step steps ih =>
      obtain ⟨disk, act⟩ := step
      intro e hkept hknown
      refine ih (hkept.perform hF act fun r q hr hask => ?_) fun q hq => ?_
      · exact hknown q (mem_askings_cons steps hr hask)
      · exact hknown q (List.mem_append_right _ hq)

/-- On a new engine, whatever a run has kept is up to date, and all that the next act may ask is
known. -/
theorem keptAs_and_known (hF : Abiding parser F) (root : Option String) (settings : Settings)
    (steps : Steps) (disk : Files.Disk) (act : Act) {r : Request} (hr : act.request? = some r) :
    let known := askings parser (new root settings) (steps ++ [(disk, act)])
    KeptAs F known (Engine.after parser (new root settings) steps) ∧
      ∀ q, ask ⟨disk, parser⟩ (Engine.after parser (new root settings) steps) r = .ok q →
        q ∈ known := by
  intro known
  have hsplit : known = askings parser (new root settings) steps ++
      askings parser (Engine.after parser (new root settings) steps) [(disk, act)] :=
    askings_append parser _ steps _
  rw [hsplit]
  constructor
  · exact KeptAs.after hF (keptAs_of_empty rfl) fun q hq => List.mem_append_left _ hq
  · intro q hask
    exact List.mem_append_right _ (mem_askings_cons [] hr hask)

/-- **Findings that are reported**, kept or not, are as the engine would tell them. -/
theorem KeptAs.answer_found (hkept : KeptAs F known e) (hF : Abiding parser F)
    (hkeys : KeysApart known) (hq : q ∈ known)
    (hfindings : (q.answer ⟨disk, parser⟩ e).1.outcome = .ok findings) :
    ∃ later, Taught e later ∧ F later q findings := by
  cases hstore : e.store.find? q.key with
  | some result =>
      obtain ⟨a, ha, findings', heq, htrue⟩ := hkept _ (Store.mem_of_find? hstore)
      obtain ⟨hkey, rfl⟩ := Prod.mk.inj heq
      rw [answer_of_hit hstore] at hfindings
      obtain rfl := Except.ok.inj hfindings
      exact ⟨e, .refl e, hF.same htrue (hkeys.same ha hq hkey.symm)⟩
  | none =>
      have hlater : Taught e (q.survey ⟨disk, parser⟩ e.missed).2 :=
        (taught_store e _).trans (survey_taught q ⟨disk, parser⟩ e.missed)
      cases hfound : (q.survey ⟨disk, parser⟩ e.missed).1 with
      | error f =>
          rw [answer_of_failed hstore hfound] at hfindings
          cases hfindings
      | ok findings' =>
          rw [answer_of_found hstore hfound] at hfindings
          obtain rfl := Except.ok.inj hfindings
          exact ⟨_, hlater, hF.found hfound⟩

theorem told_abiding (parser : Parser) : Abiding parser (Told parser) :=
  ⟨told_of_survey, Told.same, Told.taught⟩

/-- Every entry of the store is the answer to something that was asked, and its queries are what the
session would find. -/
def KeptQueries (parser : Parser) (known : List Asking) (e : Engine) : Prop :=
  KeptAs (Told parser) known e

theorem KeptQueries.asked (hkept : KeptQueries parser known e) (d : Files.Disk) :
    KeptQueries parser known (e.asked d) :=
  KeptAs.asked hkept (told_abiding parser) d

theorem kept_and_known (parser : Parser) (root : Option String) (settings : Settings)
    (steps : Steps) (disk : Files.Disk) (act : Act) {r : Request} (hr : act.request? = some r) :
    let known := askings parser (new root settings) (steps ++ [(disk, act)])
    KeptQueries parser known (Engine.after parser (new root settings) steps) ∧
      ∀ q, ask ⟨disk, parser⟩ (Engine.after parser (new root settings) steps) r = .ok q →
        q ∈ known :=
  keptAs_and_known (told_abiding parser) root settings steps disk act hr

/-! ## §3. The answer to a request for queries alone. -/

/-- A request without elements fails for want of a tree only, and otherwise the result has what the
session would find now, kept or not. -/
theorem KeptQueries.answer_result (disk : Files.Disk) (hkept : KeptQueries parser known e)
    (hkeys : KeysApart known) (hq : q ∈ known) (helements : q.request.elements = false) :
    (∃ f, e.grammars.parse parser q.source q.language q.path = .error f ∧
      (q.answer ⟨disk, parser⟩ e).1 = q.result (.error f.message)) ∨
    (∃ p findings, e.grammars.parse parser q.source q.language q.path = .ok p ∧
      (q.answer ⟨disk, parser⟩ e).1 = q.result (.ok findings) ∧
      findings.queries = (e.session.runAll (target p) (e.namesOf q)).1) := by
  cases hstore : e.store.find? q.key with
  | some result =>
      obtain ⟨a, ha, findings, heq, htold⟩ := hkept _ (Store.mem_of_find? hstore)
      obtain ⟨hkey, rfl⟩ := Prod.mk.inj heq
      have hsame : a.Same q := hkeys.same ha hq hkey.symm
      obtain ⟨p, hparse, hran⟩ := htold.same hsame
      rw [answer_of_hit hstore]
      exact .inr ⟨p, findings, hparse, hsame.result_eq _, (hran e.session ⟨rfl, .refl _ _⟩).symm⟩
  | none =>
      cases hparse : e.grammars.parse parser q.source q.language q.path with
      | error f =>
          have hsurvey : (q.survey ⟨disk, parser⟩ e.missed).1 = .error f := by
            unfold Asking.survey
            rw [survey_of_unparsed (h := ⟨disk, parser⟩) (e := e.missed) hparse]
          rw [answer_of_failed hstore hsurvey]
          exact .inl ⟨f, rfl, rfl⟩
      | ok p =>
          have hfound : (elementsWanted q.request (e.plugins.resolve q.language) p).run e.memo
              = (.ok [], e.memo) := by
            unfold elementsWanted
            rw [helements]
            rfl
          obtain ⟨_, heq⟩ :=
            survey_of_elements (h := ⟨disk, parser⟩) (e := e.missed) hparse hfound
          have hsurvey := congrArg Prod.fst heq
          rw [answer_of_found hstore hsurvey]
          exact .inr ⟨p, _, rfl, rfl, rfl⟩

end Kept

/-- Requests that agree in where the text is and in what language it is taken to be ask the same,
each in its own name. -/
theorem ask_congr {h : Host} {e : Engine} {r r' : Request} (hpath : r'.path = r.path)
    (hsource : r'.source = r.source) (hformat : r'.format = r.format)
    (hread : ∀ path source, (e.checkPath h.disk r.path).1 = .ok path →
      loadSource h.disk r path = .ok (.ok source) → e.languageOf r' path = e.languageOf r path)
    (hunread : ∀ path message, (e.checkPath h.disk r.path).1 = .ok path →
      loadSource h.disk r path = .ok (.error message) →
      r'.explicitLanguage.getD unknownLanguage = r.explicitLanguage.getD unknownLanguage) :
    ask h e r' = (ask h e r).map fun q => { q with request := r' } := by
  have hload : ∀ path, loadSource h.disk r' path = loadSource h.disk r path := by
    intro path
    unfold loadSource
    rw [hsource]
  unfold ask
  rw [hpath]
  cases hchecked : (e.checkPath h.disk r.path).1 with
  | error f => rfl
  | ok path =>
      dsimp only
      rw [hload]
      cases hloaded : loadSource h.disk r path with
      | error f => rfl
      | ok loaded =>
          cases loaded with
          | error message =>
              dsimp only
              rw [hunread path message hchecked hloaded, hformat]
              rfl
          | ok source =>
              have hlanguage : e.resolveLanguage r' path = e.resolveLanguage r path := by
                rw [resolveLanguage_eq, resolveLanguage_eq, hread path source hchecked hloaded]
              dsimp only
              rw [hlanguage]
              cases e.resolveLanguage r path with
              | error f => rfl
              | ok language => rfl

theorem ask_queryRequest (h : Host) (e : Engine) (r : Request) (name : String) :
    ask h e (queryRequest r name)
      = (ask h e r).map fun q => { q with request := queryRequest r name } :=
  ask_congr rfl rfl rfl (fun _ _ _ _ => rfl) fun _ _ _ _ => rfl

/-! ## §4. What is said of a query. -/

/-- What is reported if a result tells nothing of a query. -/
def untold : String := "query was not executed"

theorem append_ne_untold (start rest : String) (h : ¬ start.toList <+: untold.toList) :
    start ++ rest ≠ untold := by
  intro heq
  apply h
  rw [← heq, String.toList_append]
  exact List.prefix_append _ _

/-- A session tells what came of a query in words of its own. -/
theorem session_error_ne_untold (s : Session) (p : Parsed) (name : String) :
    (s.runNamed (target p) name).1.error? ≠ some untold := by
  unfold Session.runNamed Session.runNamedAs Session.lookUp
  split
  · -- the query is found, and its text is at fault or is run
    rename_i text _
    show Outcome.error? ⟨name, (s.run p.tree p.dialect p.tree.source text).1⟩ ≠ some untold
    rw [Session.run_eq]
    cases (s.memo.compile p.dialect text).1 with
    | error fault =>
        intro h
        rw [Outcome.error?, Session.capturesOf, String.append_assoc, String.append_assoc] at h
        exact append_ne_untold "invalid query for " _ (by decide +kernel) (Option.some.inj h)
    | ok c => exact fun h => nomatch h
  · intro h
    have hmessage := Option.some.inj h
    rw [String.append_assoc, String.append_assoc, String.append_assoc] at hmessage
    exact append_ne_untold "query '" _ (by decide +kernel) hmessage

theorem parse_error_ne_untold {g : Grammars} {parser : Parser} {source language path : String}
    {f : Failure} (hf : g.parse parser source language path = .error f) : f.message ≠ untold := by
  have hparse : ∃ language' message, f = .parse language' message := by
    unfold Grammars.parse at hf
    split at hf
    · cases hf
      exact ⟨_, _, rfl⟩
    · split at hf
      · cases hf
        exact ⟨_, _, rfl⟩
      · cases hf
  obtain ⟨language', message, rfl⟩ := hparse
  show "failed to parse " ++ language' ++ " source: " ++ message ≠ untold
  rw [String.append_assoc, String.append_assoc]
  exact append_ne_untold "failed to parse " _ (by decide +kernel)

/-! ## §5. The two ways side by side. -/

section Paths

variable {h : Host} {e : Engine} {r : Request} {q : Asking} {name query : String}

theorem runNamed_of_known {known : Except Failure Result} (hask : ask h e r = .error known) :
    (runNamed h e r name).1 = known.map (reported name) := by
  rw [runNamed_eq, analyze_eq, ask_queryRequest, hask]
  rfl

theorem runNamed_of_asked (hask : ask h e r = .ok q) :
    (runNamed h e r name).1 = .ok (reported name
      (Asking.answer { q with request := queryRequest r name } h (e.asked h.disk)).1) := by
  rw [runNamed_eq, analyze_eq, ask_queryRequest, hask]
  rfl

theorem runText_of_refused {f : Failure} (hask : ask h e r = .error (.error f)) :
    (runText h e r query).1 = .error f := by
  rw [runText_eq, hask]

theorem runText_of_unread {known : Result} (hask : ask h e r = .error (.ok known)) :
    (runText h e r query).1 = .ok ⟨customName, .error (known.error?.getD "")⟩ := by
  rw [runText_eq, hask]

theorem runText_of_unparsed {f : Failure} (hask : ask h e r = .ok q)
    (hparse : e.grammars.parse h.parser q.source q.language q.path = .error f) :
    (runText h e r query).1 = .ok ⟨customName, .error f.message⟩ := by
  rw [runText_eq, hask]
  dsimp only
  rw [hparse]

theorem runText_of_parsed {p : Parsed} (hask : ask h e r = .ok q)
    (hparse : e.grammars.parse h.parser q.source q.language q.path = .ok p) :
    (runText h e r query).1 = .ok (e.session.runText (target p) query).1 := by
  rw [runText_eq, hask]
  dsimp only
  rw [hparse]

/-- A catalog query and a query text are refused alike, fail alike before any query is run, or are
both left to the session. -/
theorem paths_cases {known : List Asking} (hkept : KeptQueries h.parser known e)
    (hkeys : KeysApart known)
    (hknown : ∀ q, ask h e (queryRequest r name) = .ok q → q ∈ known) :
    (∃ f, (runNamed h e r name).1 = .error f ∧ ∀ query, (runText h e r query).1 = .error f) ∨
    (∃ message, message ≠ untold ∧ (runNamed h e r name).1 = .ok ⟨name, .error message⟩ ∧
      ∀ query, (runText h e r query).1 = .ok ⟨customName, .error message⟩) ∨
    (∃ q p, ask h e r = .ok q ∧
      e.grammars.parse h.parser q.source q.language q.path = .ok p ∧
      (runNamed h e r name).1 = .ok (e.session.runNamed (target p) name).1 ∧
      ∀ query, (runText h e r query).1 = .ok (e.session.runText (target p) query).1) := by
  rcases hask : ask h e r with (f | known) | q
  · exact .inl ⟨f, runNamed_of_known hask, fun query => runText_of_refused hask⟩
  · refine .inr (.inl ?_)
    obtain ⟨path, message, -, hsource, rfl⟩ := ask_eq_known_iff.1 hask
    obtain ⟨reason, rfl⟩ := loadSource_eq_unread hsource
    exact ⟨_, append_ne_untold "failed to read file: " reason (by decide +kernel),
      runNamed_of_known hask, fun query => runText_of_unread hask⟩
  · let q' : Asking := { q with request := queryRequest r name }
    have hq' : q' ∈ known := hknown q' (by rw [ask_queryRequest, hask]; rfl)
    rcases (hkept.asked h.disk).answer_result h.disk hkeys hq' rfl with
      ⟨f, hparse, hanswer⟩ | ⟨p, findings, hparse, hanswer, hqueries⟩
    · refine .inr (.inl ⟨f.message, parse_error_ne_untold hparse, ?_,
        fun query => runText_of_unparsed hask hparse⟩)
      rw [runNamed_of_asked hask, hanswer]
      rfl
    · refine .inr (.inr ⟨q, p, rfl, hparse, ?_, fun query => runText_of_parsed hask hparse⟩)
      have hnames : (e.asked h.disk).namesOf q' = [name] := rfl
      rw [hnames, Session.runAll_singleton] at hqueries
      have hreported : reported name (q'.result (.ok findings))
          = (findings.queries.find? name).getD ⟨name, .error untold⟩ := rfl
      rw [runNamed_of_asked hask, hanswer, hreported, hqueries]
      simp [NameMap.find?, asked, opened, measured]

/-- The session that a catalog query is left to finds its text. -/
theorem runNamed_result_of_source {p : Parsed} (hask : ask h e r = .ok q)
    (hparse : e.grammars.parse h.parser q.source q.language q.path = .ok p)
    (hcatalog : ∀ path, (e.checkPath h.disk r.path).1 = .ok path →
      e.session.catalog.source? (e.languageOf r path) name = some query)
    (hquery : Text.allBlank query.toList = false) :
    (e.session.runNamed (target p) name).1.result
      = (e.session.runText (target p) query).1.result := by
  obtain ⟨path, source, language, hpath, -, hlanguage, rfl⟩ := ask_eq_ok_iff.1 hask
  obtain ⟨-, rfl⟩ := resolveLanguage_eq_ok_iff.1 hlanguage
  have hlookUp : e.session.lookUp (Text.normalized p.dialect.language) name = .ok query := by
    unfold Session.lookUp
    rw [Grammars.language_of_parse hparse, Catalog.source?_normalized, Catalog.source?_normalized,
      hcatalog path hpath]
  have hnamed : e.session.runNamed (target p) name
      = e.session.runOn (target p) name (.ok query) := by
    rw [← hlookUp]
    rfl
  have htext : e.session.runText (target p) query
      = e.session.runOn (target p) customName (.ok query) := by
    unfold Session.runText
    rw [hquery]
    rfl
  rw [hnamed, htext]
  exact Session.runOn_result _ _ _ _ _

end Paths

/-! ## §6. The main result. -/

/-- **A catalog query and its text come to the same.**  Whatever was done with an engine before and
whatever its store has kept: if the catalog has a text for the query in the language of the request,
then running the query by its name and running the text are refused for the same reason, or have the
same captures or the same error; only the name reported differs.  Whether the catalog has one or
not, a query that is run by its name is never told that it was not run. -/
theorem runNamed_eq_runText (parser : Parser) (root : Option String) (settings : Settings)
    (steps : Steps) (disk : Files.Disk) (r : Request) (name : String)
    (hkeys : KeysApart
      (askings parser (new root settings) (steps ++ [(disk, .runNamed r name)]))) :
    let h : Host := ⟨disk, parser⟩
    let e := after parser (new root settings) steps
    (∀ query, Text.allBlank query.toList = false →
      (∀ path, (e.checkPath disk r.path).1 = .ok path →
        e.session.catalog.source? (e.languageOf r path) name = some query) →
      (runNamed h e r name).1.map Outcome.result = (runText h e r query).1.map Outcome.result) ∧
    (∀ query outcome, (runText h e r query).1 = .ok outcome → outcome.name = customName) ∧
    (∀ outcome, (runNamed h e r name).1 = .ok outcome →
      outcome.name = name ∧ outcome.error? ≠ some "query was not executed") := by
  intro h e
  obtain ⟨hkept, hknown⟩ :=
    kept_and_known parser root settings steps disk (.runNamed r name) rfl
  rcases paths_cases hkept hkeys hknown with
    ⟨f, hnamed, htext⟩ | ⟨message, hmessage, hnamed, htext⟩ | ⟨q, p, hask, hparse, hnamed, htext⟩
  · refine ⟨fun query _ _ => ?_, fun query outcome ho => ?_, fun outcome ho => ?_⟩
    · rw [hnamed, htext]
    · rw [htext] at ho
      cases ho
    · rw [hnamed] at ho
      cases ho
  · refine ⟨fun query _ _ => ?_, fun query outcome ho => ?_, fun outcome ho => ?_⟩
    · rw [hnamed, htext]
      rfl
    · rw [htext] at ho
      cases ho
      rfl
    · rw [hnamed] at ho
      cases ho
      exact ⟨rfl, fun h => hmessage (Option.some.inj h)⟩
  · refine ⟨fun query hquery hcatalog => ?_, fun query outcome ho => ?_, fun outcome ho => ?_⟩
    · rw [hnamed, htext]
      exact congrArg Except.ok (runNamed_result_of_source hask hparse hcatalog hquery)
    · rw [htext] at ho
      cases ho
      exact Session.runOn_name _ _ _ _
    · rw [hnamed] at ho
      cases ho
      exact ⟨Session.runOn_name _ _ _ _, session_error_ne_untold _ _ _⟩

/-- A query of the settings, for a text in C. -/
def fileQuery : Settings := { queries := [("c", [("file", "(translation_unit) @file")])] }

/-- A request for a text in C, with blanks and a capital letter in the name of the language. -/
def spelledC : Request := { path := "snippet", language := some " C ", source := some "x" }

/-- The query has been run before, so it is answered from the store; the text is run anew. -/
theorem runNamed_kept_eq_runText :
    let h : Host := ⟨{}, emptyUnit⟩
    let e := after emptyUnit (new none fileQuery) [({}, .runNamed spelledC " file")]
    e.store.size = 1 ∧
      (runNamed h e spelledC " file").1.map Outcome.result
        = (runText h e spelledC "(translation_unit) @file").1.map Outcome.result ∧
      (runText h e spelledC "(translation_unit) @file").1.toOption.map (fun o => o.captures.length)
        = some 1 := by
  intro h e
  let q : Asking :=
    { request := queryRequest spelledC " file", path := "snippet", source := "x", language := "c" }
  have hasked : askings emptyUnit (new none fileQuery)
      [({}, .runNamed spelledC " file"), ({}, .runNamed spelledC " file")] = [q, q] := by
    decide +kernel
  have hfits : q.fingerprint.Fits :=
    Fingerprint.ofRequest_fits q.content (by decide) (by decide) (by rintro _ ⟨⟩; decide)
      (by decide)
  have hkeys : KeysApart [q, q] := keysApart_of_one hfits (by simp)
  rw [← hasked] at hkeys
  have hcatalog : ∀ path, (e.checkPath {} spelledC.path).1 = .ok path →
      e.session.catalog.source? (e.languageOf spelledC path) " file"
        = some "(translation_unit) @file" := by
    intro path _
    have hlanguage : e.languageOf spelledC path = "c" :=
      languageOf_of_explicit (by decide +kernel) path
    rw [hlanguage]
    decide +kernel
  exact ⟨by decide +kernel,
    (runNamed_eq_runText emptyUnit none fileQuery [({}, .runNamed spelledC " file")] {} spelledC
      " file" hkeys).1 _ (by decide +kernel) hcatalog, by decide +kernel⟩

end Engine

end CodeSurvey
