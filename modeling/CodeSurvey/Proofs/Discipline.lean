/-
  Refused calls and failed analyses.

  A call is refused for one of three defects of the request, looked for in this order: the path, the
  file, the language (`Refusal`).  It is refused before the store and the session are met, so these
  are as they were.  Everything that goes wrong later is told in a result, and only a result with
  findings is kept (`answer_cases`); so nothing that a store holds is a failure.

  Main result, `refused_or_told`: what each kind of outcome says of a call, in every state that an
  engine can get into.
-/
import CodeSurvey.Proofs.Transparency
import Mathlib.Data.List.Basic

namespace CodeSurvey

open Analysis Extract Syntax Query

namespace Engine

/-! ## §1. Refusals. -/

/-- The language that a request is taken to be in. -/
def languageOf (e : Engine) (r : Request) (path : Files.Path) : String :=
  (r.explicitLanguage.or (e.detectLanguage path)).getD unknownLanguage

/-- Why a request is refused: the first of three defects. -/
inductive Refusal (d : Files.Disk) (e : Engine) (r : Request) : Failure → Prop where
  | path {reason : String}
      (hpath : (e.checkPath d r.path).1 = .error (.invalidPath r.path reason)) :
      Refusal d e r (.invalidPath r.path reason)
  | file {path : Files.Path} (hpath : (e.checkPath d r.path).1 = .ok path)
      (hsource : r.source = none) (hgone : d.isThere path = false) :
      Refusal d e r (.fileNotFound path.render)
  | language {path : Files.Path} {source : String} (hpath : (e.checkPath d r.path).1 = .ok path)
      (hsource : loadSource d r path = .ok (.ok source))
      (hplugin : e.plugins.contains (e.languageOf r path) = false)
      (hgrammar : e.grammars.supports (e.languageOf r path) = false) :
      Refusal d e r (.unsupportedLanguage (e.languageOf r path))

section Refusal

variable {h : Host} {d : Files.Disk} {e : Engine} {r : Request} {f : Failure}

theorem Refusal.isCallers (hf : Refusal d e r f) : f.isCallers = true := by
  cases hf with
  | path => rfl
  | file => rfl
  | language => rfl

/-- Which queries are asked for does not matter. -/
theorem refusal_queryRequest_iff {name : String} :
    Refusal d e (queryRequest r name) f ↔ Refusal d e r f := by
  constructor
  · rintro (hpath | ⟨hpath, hsource, hgone⟩ | ⟨hpath, hsource, hplugin, hgrammar⟩)
    · exact .path (r := r) hpath
    · exact .file (r := r) hpath hsource hgone
    · exact .language (r := r) hpath hsource hplugin hgrammar
  · rintro (hpath | ⟨hpath, hsource, hgone⟩ | ⟨hpath, hsource, hplugin, hgrammar⟩)
    · exact .path (r := queryRequest r name) hpath
    · exact .file (r := queryRequest r name) hpath hsource hgone
    · exact .language (r := queryRequest r name) hpath hsource hplugin hgrammar

/-- A path is refused as the text that it is. -/
theorem eq_invalidPath_of_check {g : Files.Guard} {text : String} (hf : g.check d text = .error f) :
    ∃ reason, f = .invalidPath text reason := by
  unfold Files.Guard.check at hf
  dsimp only at hf
  repeat' split at hf
  all_goals cases hf
  all_goals exact ⟨_, rfl⟩

theorem loadSource_eq_error_iff {path : Files.Path} :
    loadSource d r path = .error f ↔
      r.source = none ∧ d.isThere path = false ∧ f = .fileNotFound path.render := by
  unfold loadSource
  cases r.source with
  | some source => simp
  | none =>
      cases d.isThere path with
      | true => cases d.read path <;> simp
      | false => simp [eq_comm]

theorem resolveLanguage_eq (e : Engine) (r : Request) (path : Files.Path) :
    e.resolveLanguage r path =
      if e.plugins.contains (e.languageOf r path) || e.grammars.supports (e.languageOf r path)
      then .ok (e.languageOf r path) else .error (.unsupportedLanguage (e.languageOf r path)) := rfl

theorem resolveLanguage_eq_error_iff {path : Files.Path} :
    e.resolveLanguage r path = .error f ↔
      e.plugins.contains (e.languageOf r path) = false ∧
        e.grammars.supports (e.languageOf r path) = false ∧
          f = .unsupportedLanguage (e.languageOf r path) := by
  rw [resolveLanguage_eq]
  cases e.plugins.contains (e.languageOf r path) with
  | true => simp
  | false =>
      cases e.grammars.supports (e.languageOf r path) with
      | true => simp
      | false => simp [eq_comm]

theorem resolveLanguage_eq_ok_iff {path : Files.Path} {language : String} :
    e.resolveLanguage r path = .ok language ↔
      (e.plugins.contains (e.languageOf r path) = true ∨
        e.grammars.supports (e.languageOf r path) = true) ∧ language = e.languageOf r path := by
  rw [resolveLanguage_eq, ← Bool.or_eq_true]
  by_cases hknown : (e.plugins.contains (e.languageOf r path) ||
      e.grammars.supports (e.languageOf r path)) = true
  · rw [if_pos hknown, and_iff_right hknown, Except.ok.injEq, eq_comm]
  · rw [if_neg hknown]
    exact iff_of_false (fun h => nomatch h) fun h => hknown h.1

/-- What is asked: a text under a path that may be used, in a language that is known. -/
theorem ask_eq_ok_iff {q : Asking} :
    ask h e r = .ok q ↔
      ∃ path source language, (e.checkPath h.disk r.path).1 = .ok path ∧
        loadSource h.disk r path = .ok (.ok source) ∧
          e.resolveLanguage r path = .ok language ∧ q = ⟨r, path.render, source, language⟩ := by
  constructor
  · intro hask
    unfold ask at hask
    repeat' split at hask
    all_goals cases hask
    exact ⟨_, _, _, ‹_›, ‹_›, ‹_›, rfl⟩
  · rintro ⟨path, source, language, hpath, hsource, hlanguage, rfl⟩
    unfold ask
    simp only [hpath, hsource, hlanguage]

/-- What is known without asking the store is that a file cannot be read. -/
theorem ask_eq_known_iff {known : Result} :
    ask h e r = .error (.ok known) ↔
      ∃ path message, (e.checkPath h.disk r.path).1 = .ok path ∧
        loadSource h.disk r path = .ok (.error message) ∧
          known = ⟨path.render, r.explicitLanguage.getD unknownLanguage, r.format,
            .error message⟩ := by
  constructor
  · intro hask
    unfold ask at hask
    repeat' split at hask
    all_goals cases hask
    exact ⟨_, _, ‹_›, ‹_›, rfl⟩
  · rintro ⟨path, message, hpath, hsource, rfl⟩
    unfold ask
    simp only [hpath, hsource]

theorem loadSource_eq_unread {path : Files.Path} {message : String}
    (hsource : loadSource d r path = .ok (.error message)) :
    ∃ reason, message = "failed to read file: " ++ reason := by
  unfold loadSource at hsource
  repeat' split at hsource
  all_goals cases hsource
  exact ⟨_, rfl⟩

/-- **Asking fails for nothing else.** -/
theorem ask_eq_error_iff : ask h e r = .error (.error f) ↔ Refusal h.disk e r f := by
  unfold ask
  constructor
  · intro hask
    -- along the checks in their order; a file that is there and cannot be read is no refusal
    cases hpath : (e.checkPath h.disk r.path).1 with
    | error g =>
        rw [hpath] at hask
        cases hask
        obtain ⟨reason, rfl⟩ := eq_invalidPath_of_check hpath
        exact .path hpath
    | ok path =>
        rw [hpath] at hask
        dsimp only at hask
        cases hsource : loadSource h.disk r path with
        | error g =>
            rw [hsource] at hask
            cases hask
            obtain ⟨hnone, hgone, rfl⟩ := loadSource_eq_error_iff.1 hsource
            exact .file hpath hnone hgone
        | ok loaded =>
            rw [hsource] at hask
            rcases loaded with message | source
            · cases hask
            · dsimp only at hask
              cases hlanguage : e.resolveLanguage r path with
              | error g =>
                  rw [hlanguage] at hask
                  cases hask
                  obtain ⟨hplugin, hgrammar, rfl⟩ := resolveLanguage_eq_error_iff.1 hlanguage
                  exact .language hpath hsource hplugin hgrammar
              | ok language =>
                  rw [hlanguage] at hask
                  cases hask
  · rintro (hpath | ⟨hpath, hnone, hgone⟩ | ⟨hpath, hsource, hplugin, hgrammar⟩)
    · rw [hpath]
    · have hsource := loadSource_eq_error_iff.2 ⟨hnone, hgone, rfl⟩
      rw [hpath]
      dsimp only
      rw [hsource]
    · have hlanguage := resolveLanguage_eq_error_iff.2 ⟨hplugin, hgrammar, rfl⟩
      rw [hpath]
      dsimp only
      rw [hsource]
      dsimp only
      rw [hlanguage]

end Refusal

/-! ## §2. Refused calls. -/

/-- What is the caller's and leaves no trace in what is kept and counted. -/
structure Refused (f : Failure) (before after : Engine) : Prop where
  isCallers : f.isCallers = true
  store : after.store = before.store
  session : after.session = before.session

section Refused

variable {h : Host} {e : Engine} {r : Request} {f : Failure}

theorem analyze_eq_error_iff :
    (analyze h e r).1 = .error f ↔ Refusal h.disk e r f := by
  rw [analyze_eq, ← ask_eq_error_iff]
  rcases ask h e r with (g | result) | q
  · simp
  · simp
  · simp

theorem analyze_refused (hf : (analyze h e r).1 = .error f) : Refused f e (analyze h e r).2 := by
  have hrefusal := analyze_eq_error_iff.1 hf
  rw [analyze_eq, ask_eq_error_iff.2 hrefusal]
  exact ⟨hrefusal.isCallers, rfl, rfl⟩

theorem runNamed_eq_error_iff {name : String} :
    (runNamed h e r name).1 = .error f ↔ (analyze h e (queryRequest r name)).1 = .error f := by
  rw [runNamed_eq]
  rcases (analyze h e (queryRequest r name)).1 with g | result
  · simp [Except.map]
  · simp [Except.map]

theorem runText_eq_error_iff {query : String} :
    (runText h e r query).1 = .error f ↔ Refusal h.disk e r f := by
  rw [runText_eq, ← ask_eq_error_iff]
  rcases ask h e r with (g | result) | q
  · simp
  · simp
  · dsimp only
    cases e.grammars.parse h.parser q.source q.language q.path with
    | error g => simp
    | ok p => simp

theorem runText_refused {query : String} (hf : (runText h e r query).1 = .error f) :
    Refused f e (runText h e r query).2 := by
  have hrefusal := runText_eq_error_iff.1 hf
  rw [runText_eq, ask_eq_error_iff.2 hrefusal]
  exact ⟨hrefusal.isCallers, rfl, rfl⟩

end Refused

/-! ## §3. Failed analyses. -/

/-- A result without findings, and what was kept is as before. -/
structure Failed (r : Request) (result : Result) (before after : Store Result) : Prop where
  elements : result.elements = []
  queries : result.queries = []
  lineCount : result.findings.lineCount = 0
  nodeCount : result.findings.nodeCount = 0
  message : ∃ message, result.error? = some message
  format : result.format = r.format
  entries : after.entries = before.entries
  order : after.order = before.order

/-- Everything that is kept has findings. -/
def HoldsFindings (s : Store Result) : Prop := ∀ entry ∈ s.entries, entry.2.success = true

theorem error?_of_success {result : Result} (h : result.success = true) : result.error? = none := by
  unfold Result.success at h
  unfold Result.error?
  cases houtcome : result.outcome with
  | error message =>
      rw [houtcome] at h
      cases h
  | ok findings => rfl

section Failed

variable {h : Host} {e : Engine} {r : Request} {q : Asking}

/-- **How an answer comes about**: from the store, or from a survey that finds something, which is
then kept, or from one that fails. -/
theorem answer_cases (q : Asking) (h : Host) (e : Engine) :
    (∃ result, (q.key, result) ∈ e.store.entries ∧ (q.answer h e).1 = result ∧
      (q.answer h e).2.store = { e.store with hits := e.store.hits + 1 }) ∨
    (∃ findings, (q.answer h e).1 = q.result (.ok findings) ∧
      (q.answer h e).2.store = e.missed.store.set q.key (q.result (.ok findings))) ∨
    (∃ message, (q.answer h e).1 = q.result (.error message) ∧
      (q.answer h e).2.store = e.missed.store) := by
  have hstore := survey_store q h e.missed
  cases hfind : e.store.find? q.key with
  | some result =>
      rw [answer_of_hit hfind]
      exact .inl ⟨result, Store.mem_of_find? hfind, rfl, rfl⟩
  | none =>
      cases hfound : (q.survey h e.missed).1 with
      | ok findings =>
          rw [answer_of_found hfind hfound, hstore]
          exact .inr (.inl ⟨findings, rfl, rfl⟩)
      | error f =>
          rw [answer_of_failed hfind hfound]
          exact .inr (.inr ⟨f.message, rfl, hstore⟩)

/-- An answer without findings does not come from the store. -/
theorem answer_failed (hkept : HoldsFindings e.store) (hfailed : (q.answer h e).1.success = false) :
    Failed q.request (q.answer h e).1 e.store (q.answer h e).2.store := by
  rcases answer_cases q h e with ⟨result, hmem, hresult, -⟩ | ⟨findings, hresult, -⟩ |
    ⟨message, hresult, hstore⟩
  · have hsuccess : result.success = true := hkept _ hmem
    rw [hresult, hsuccess] at hfailed
    cases hfailed
  · rw [hresult] at hfailed
    cases hfailed
  · rw [hresult, hstore]
    exact ⟨rfl, rfl, rfl, rfl, ⟨message, rfl⟩, rfl, rfl, rfl⟩

theorem answer_holdsFindings (hkept : HoldsFindings e.store) (q : Asking) (h : Host) :
    HoldsFindings (q.answer h e).2.store := by
  rcases answer_cases q h e with ⟨result, -, -, hstore⟩ | ⟨findings, -, hstore⟩ |
    ⟨message, -, hstore⟩
  · rw [hstore]
    exact hkept
  · rw [hstore]
    intro entry hentry
    rcases Store.mem_of_mem_set hentry with rfl | hentry
    · rfl
    · exact hkept entry hentry
  · rw [hstore]
    exact hkept

theorem request_of_ask (hask : ask h e r = .ok q) : q.request = r := by
  obtain ⟨path, source, language, -, -, -, rfl⟩ := ask_eq_ok_iff.1 hask
  rfl

theorem analyze_failed {result : Result} (hkept : HoldsFindings e.store)
    (hresult : (analyze h e r).1 = .ok result) (hfailed : result.success = false) :
    Failed r result e.store (analyze h e r).2.store := by
  rw [analyze_eq] at hresult ⊢
  rcases hask : ask h e r with (f | known) | q
  · rw [hask] at hresult
    cases hresult
  · rw [hask] at hresult
    cases hresult
    obtain ⟨path, message, -, -, rfl⟩ := ask_eq_known_iff.1 hask
    exact ⟨rfl, rfl, rfl, rfl, ⟨message, rfl⟩, rfl, rfl, rfl⟩
  · rw [hask] at hresult
    cases hresult
    rw [← request_of_ask hask]
    exact answer_failed (e := e.asked h.disk) hkept hfailed

theorem analyze_holdsFindings (hkept : HoldsFindings e.store) (h : Host) (r : Request) :
    HoldsFindings (analyze h e r).2.store := by
  rw [analyze_eq]
  rcases ask h e r with result | q
  · exact hkept
  · exact answer_holdsFindings (e := e.asked h.disk) hkept q h

end Failed

/-! ## §4. Reachable states. -/

/-- The states that an engine can get into; the host may be another one at every step. -/
inductive Reachable : Engine → Prop where
  | new (root : Option String) (settings : Settings) : Reachable (new root settings)
  | perform {e : Engine} (he : Reachable e) (h : Host) (act : Act) :
      Reachable (Engine.perform h e act).2

/-- No act keeps a failure. -/
theorem perform_holdsFindings {e : Engine} (hkept : HoldsFindings e.store) (h : Host) (act : Act) :
    HoldsFindings (perform h e act).2.store := by
  -- only analyses keep anything; what else meets the store empties it
  have hcleared : HoldsFindings e.store.clear := fun _ hentry => absurd hentry List.not_mem_nil
  cases act with
  | analyze r => exact analyze_holdsFindings hkept h r
  | analyzeCode code language name => exact analyze_holdsFindings hkept h _
  | runNamed r name =>
      simp only [perform, runNamed_eq]
      exact analyze_holdsFindings hkept h _
  | runText r query =>
      show HoldsFindings (runText h e r query).2.store
      rw [(runText_grows h e r query).2]
      exact hkept
  | clearStore => exact hcleared
  | register language plugin => exact hcleared
  | resetQueryCounts => exact hkept
  | cleanup =>
      show HoldsFindings e.cleanup.store
      unfold cleanup
      split
      · exact hkept
      · exact hcleared
  | share more => exact hkept

theorem Reachable.holdsFindings {e : Engine} (he : Reachable e) : HoldsFindings e.store := by
  induction he with
  | new root settings => exact fun _ hentry => absurd hentry List.not_mem_nil
  | perform he h act ih => exact perform_holdsFindings ih h act

/-- **A call is refused, or all is told in its result.**  A call is refused exactly for a defect of
the request that is the caller's, and then nothing that is kept or counted has changed.  A result
without findings is empty, has a message and the format asked for, and is not kept; a result with
findings has no message.  So everything that is kept has findings. -/
theorem refused_or_told {e : Engine} (he : Reachable e) (h : Host) (r : Request) :
    (∀ f, ((analyze h e r).1 = .error f ↔ Refusal h.disk e r f) ∧
      ((analyze h e r).1 = .error f → Refused f e (analyze h e r).2)) ∧
    (∀ name f, ((runNamed h e r name).1 = .error f ↔ Refusal h.disk e r f) ∧
      ((runNamed h e r name).1 = .error f → Refused f e (runNamed h e r name).2)) ∧
    (∀ query f, ((runText h e r query).1 = .error f ↔ Refusal h.disk e r f) ∧
      ((runText h e r query).1 = .error f → Refused f e (runText h e r query).2)) ∧
    (∀ result, (analyze h e r).1 = .ok result →
      (result.success = false → Failed r result e.store (analyze h e r).2.store) ∧
      (result.success = true → result.error? = none)) ∧
    HoldsFindings e.store := by
  refine ⟨fun f => ⟨analyze_eq_error_iff, analyze_refused⟩, fun name f => ⟨?_, fun hf => ?_⟩,
    fun query f => ⟨runText_eq_error_iff, runText_refused⟩, fun result hresult => ?_,
    he.holdsFindings⟩
  · rw [runNamed_eq_error_iff, analyze_eq_error_iff, refusal_queryRequest_iff]
  · have hrefused := analyze_refused (runNamed_eq_error_iff.1 hf)
    rw [runNamed_eq]
    exact hrefused
  · exact ⟨analyze_failed he.holdsFindings hresult, error?_of_success⟩

/-- One text is kept; then a path climbs, and then a directory is to be read. -/
theorem refused_or_told_after_analysis :
    let h : Host := ⟨{}, emptyUnit⟩
    let e := (perform h (new none {}) (.analyzeCode "x" "c" none)).2
    e.store.size = 1 ∧
    Refused (.invalidPath "../x" "parent directory traversal") e
      (analyze h e { path := "../x" }).2 ∧
    ∃ result, (analyze h e { path := "/" }).1 = .ok result ∧
      Failed { path := "/" } result e.store (analyze h e { path := "/" }).2.store := by
  intro h e
  have he : Reachable e := .perform (.new none {}) _ _
  have hclimbs : (analyze h e { path := "../x" }).1 =
      .error (.invalidPath "../x" "parent directory traversal") :=
    analyze_eq_error_iff.2 (.path (by decide +kernel))
  have hfailed : ((analyze h e { path := "/" }).1.toOption.map Result.success) = some false := by
    decide +kernel
  refine ⟨by decide +kernel, ((refused_or_told he h _).1 _).2 hclimbs, ?_⟩
  cases hresult : (analyze h e { path := "/" }).1 with
  | error f =>
      rw [hresult] at hfailed
      cases hfailed
  | ok result =>
      rw [hresult] at hfailed
      exact ⟨result, rfl, ((refused_or_told he h _).2.2.2.1 result hresult).1
        (Option.some.inj hfailed)⟩

end Engine

end CodeSurvey
