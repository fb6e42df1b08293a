/-
  Languages that the settings give to file extensions.

  A request may name its language, or leave it to the extension of the file.  A name is brought to
  its normal spelling; what the settings say is taken as it stands.  Both ask for the same exactly
  when there is nothing to bring to normal spelling:

      outcome of r  =  outcome of r with the language named    ↔    the language is Normal

  if the file is read.  If it is there and cannot be read, the outcome speaks of the language that
  was named, or else of none.

  Main result, `mapped_eq_named_iff`.  `capital_language_apart` is a language with a capital letter:
  its default queries are not found.
-/
import CodeSurvey.Proofs.QueryPaths

namespace CodeSurvey

open Analysis Extract Syntax Query

/-- The request, with the language named. -/
def Analysis.Request.named (r : Request) (language : String) : Request :=
  { r with language := some language }

theorem Analysis.Request.explicitLanguage_of_blank {r : Request} {language : String}
    (hr : r.language = some language) (hlanguage : Text.allBlank language.toList = true) :
    r.explicitLanguage = none := by
  have hname : Text.normalized language = "" := Text.normalized_eq_empty_iff.2 hlanguage
  unfold Request.explicitLanguage
  rw [hr, Option.map_some, hname]
  rfl

namespace Engine

/-! ## §1. The language of the settings. -/

/-- The settings give the extension of a path a language, and no plugin or grammar claims it. -/
def Mapped (e : Engine) (path : Files.Path) (language : String) : Prop :=
  ∃ ext, path.extension? = some ext ∧ e.plugins.languageOfExtension ext = none ∧
    languageOfExtension ext = none ∧ e.settings.languageOfExtension ext = some language

section Mapped

variable {e : Engine} {r : Request} {path : Files.Path} {language : String}

theorem Mapped.detectLanguage (hmapped : e.Mapped path language) :
    e.detectLanguage path = some language := by
  obtain ⟨ext, hext, hplugins, hgrammars, hsettings⟩ := hmapped
  unfold Engine.detectLanguage
  rw [hext, Option.bind_some, hplugins, hgrammars, hsettings]
  rfl

/-- The language is taken as the settings have it. -/
theorem Mapped.languageOf (hmapped : e.Mapped path language) (hr : r.explicitLanguage = none) :
    e.languageOf r path = language := by
  unfold Engine.languageOf
  rw [hr, hmapped.detectLanguage]
  rfl

end Mapped

/-! ## §2. The language that an outcome speaks of. -/

/-- The language of a result, or the one that nobody knows. -/
def spokenLanguage : Except Failure Result → Option String
  | .ok result => some result.language
  | .error (.unsupportedLanguage language) => some language
  | .error _ => none

section Spoken

variable {h : Host} {known : List Asking} {e : Engine} {r : Request} {q : Asking}
  {path : Files.Path}

/-- A result is in the language that was asked for, kept or not. -/
theorem KeptQueries.answer_language (hkept : KeptQueries h.parser known e)
    (hkeys : KeysApart known) (hq : q ∈ known) : (q.answer h e).1.language = q.language := by
  cases hstore : e.store.find? q.key with
  | some result =>
      obtain ⟨a, ha, findings, heq, -⟩ := hkept _ (Store.mem_of_find? hstore)
      obtain ⟨hkey, rfl⟩ := Prod.mk.inj heq
      rw [answer_of_hit hstore]
      exact (hkeys.same ha hq hkey.symm).language
  | none =>
      cases hfound : (q.survey h e.missed).1 with
      | error f =>
          rw [answer_of_failed hstore hfound]
          rfl
      | ok findings =>
          rw [answer_of_found hstore hfound]
          rfl

/-- If the file is read, the outcome speaks of the language that the request is taken to be in. -/
theorem KeptQueries.spoken_of_read {source : String} (hkept : KeptQueries h.parser known e)
    (hkeys : KeysApart known) (hknown : ∀ q, ask h e r = .ok q → q ∈ known)
    (hpath : (e.checkPath h.disk r.path).1 = .ok path)
    (hsource : loadSource h.disk r path = .ok (.ok source)) :
    spokenLanguage (Engine.analyze h e r).1 = some (e.languageOf r path) := by
  cases hlanguage : e.resolveLanguage r path with
  | error f =>
      obtain ⟨hplugin, hgrammar, rfl⟩ := resolveLanguage_eq_error_iff.1 hlanguage
      rw [analyze_eq_error_iff.2 (.language hpath hsource hplugin hgrammar)]
      rfl
  | ok language =>
      obtain ⟨-, rfl⟩ := resolveLanguage_eq_ok_iff.1 hlanguage
      have hask := ask_eq_ok_iff.2 ⟨path, source, _, hpath, hsource, hlanguage, rfl⟩
      rw [analyze_eq, hask]
      exact congrArg some ((hkept.asked h.disk).answer_language hkeys (hknown _ hask))

theorem spoken_of_unread {message : String} (hpath : (e.checkPath h.disk r.path).1 = .ok path)
    (hsource : loadSource h.disk r path = .ok (.error message)) :
    spokenLanguage (analyze h e r).1
      = some (r.explicitLanguage.getD unknownLanguage) := by
  rw [analyze_eq, ask_eq_known_iff.2 ⟨path, message, hpath, hsource, rfl⟩]
  rfl

end Spoken

/-! ## §3. Requests that ask the same. -/

theorem Asking.Same.answer_eq {a b : Asking} (hab : a.Same b) (h : Host) (e : Engine) :
    a.answer h e = b.answer h e := by
  show Engine.answer h e a.request.options a.path a.source a.language
    = Engine.answer h e b.request.options b.path b.source b.language
  rw [hab.path, hab.source, hab.language, hab.options]

/-- Requests that ask the same, each in its own name, have one outcome. -/
theorem analyze_eq_of_ask {h : Host} {e : Engine} {r r' : Request}
    (hoptions : r'.options = r.options)
    (hask : ask h e r' = (ask h e r).map fun q => { q with request := r' }) :
    analyze h e r = analyze h e r' := by
  rw [analyze_eq, analyze_eq, hask]
  rcases hq : ask h e r with known | q
  · rfl
  · have hsame : q.Same { q with request := r' } := by
      refine ⟨rfl, rfl, rfl, ?_⟩
      rw [request_of_ask hq]
      exact hoptions.symm
    show ((.ok (q.answer h (e.asked h.disk)).1, (q.answer h (e.asked h.disk)).2) :
      Except Failure Result × Engine) = _
    rw [hsame.answer_eq]
    rfl

/-! ## §4. The main result. -/

section Main

variable {h : Host} {e : Engine} {r : Request} {language : String}

/-- A blank name asks for no language. -/
theorem analyze_named_of_blank (hr : r.explicitLanguage = none)
    (hblank : Text.allBlank language.toList = true) :
    analyze h e r = analyze h e (r.named language) := by
  have hnamed : (r.named language).explicitLanguage = r.explicitLanguage :=
    (Request.explicitLanguage_of_blank rfl hblank).trans hr.symm
  refine analyze_eq_of_ask rfl (ask_congr rfl rfl rfl (fun path source _ _ => ?_) ?_)
  · unfold languageOf
    rw [hnamed]
  · intro path message _ _
    rw [hnamed]

/-- If nothing that the outcome tells depends on the spelling, the outcome is the same. -/
theorem analyze_named_of_normal (hr : r.explicitLanguage = none)
    (hlanguage : Text.allBlank language.toList = false)
    (hmapped : ∀ path, (e.checkPath h.disk r.path).1 = .ok path → e.Mapped path language)
    (hread : ∀ path source, (e.checkPath h.disk r.path).1 = .ok path →
      loadSource h.disk r path = .ok (.ok source) → Text.Normal language)
    (hunread : ∀ path message, (e.checkPath h.disk r.path).1 = .ok path →
      loadSource h.disk r path = .ok (.error message) →
      Text.normalized language = unknownLanguage) :
    analyze h e r = analyze h e (r.named language) := by
  have hnamed : (r.named language).explicitLanguage = some (Text.normalized language) :=
    Request.explicitLanguage_of_not_blank rfl hlanguage
  refine analyze_eq_of_ask rfl (ask_congr rfl rfl rfl (fun path source hpath hsource => ?_) ?_)
  · rw [languageOf_of_explicit hnamed, (hmapped path hpath).languageOf hr]
    exact hread path source hpath hsource
  · intro path message hpath hsource
    rw [hnamed, hr]
    exact hunread path message hpath hsource

end Main

/-- **A language of the settings against the same language named.**  Whatever was done with an
engine before, a request that names no language, for a file whose extension is left to the settings,
has the outcome of the request that names the language of the settings EXACTLY when that language is
blank, or in normal spelling if the file is read, or one that is spelled like the unknown language
if the file cannot be read.  What is found is reported in the language as the settings have it. -/
theorem mapped_eq_named_iff (parser : Parser) (root : Option String) (settings : Settings)
    (steps : Steps) (disk : Files.Disk) (r : Request) (language : String)
    (hr : r.explicitLanguage = none)
    (hmapped : ∀ path,
      ((after parser (new root settings) steps).checkPath disk r.path).1 = .ok path →
        (after parser (new root settings) steps).Mapped path language)
    (hkeys : KeysApart (askings parser (new root settings) (steps ++ [(disk, .analyze r)])))
    (hkeys' : KeysApart
      (askings parser (new root settings) (steps ++ [(disk, .analyze (r.named language))]))) :
    let h : Host := ⟨disk, parser⟩
    let e := after parser (new root settings) steps
    ((analyze h e r).1 = (analyze h e (r.named language)).1 ↔
      Text.allBlank language.toList = true ∨
        ∀ path, (e.checkPath disk r.path).1 = .ok path →
          (∀ source, loadSource disk r path = .ok (.ok source) → Text.Normal language) ∧
          (∀ message, loadSource disk r path = .ok (.error message) →
            Text.normalized language = unknownLanguage)) ∧
    (∀ result, (analyze h e r).1 = .ok result → result.success = true →
      result.language = language) := by
  intro h e
  obtain ⟨hkept, hknown⟩ := kept_and_known parser root settings steps disk (.analyze r) rfl
  obtain ⟨hkept', hknown'⟩ :=
    kept_and_known parser root settings steps disk (.analyze (r.named language)) rfl
  have hspoken : ∀ path source, (e.checkPath disk r.path).1 = .ok path →
      loadSource disk r path = .ok (.ok source) →
      spokenLanguage (analyze h e r).1 = some language := by
    intro path source hpath hsource
    rw [hkept.spoken_of_read hkeys hknown hpath hsource, (hmapped path hpath).languageOf hr]
  refine ⟨⟨fun heq => ?_, fun hspelling => ?_⟩, fun result hresult hsuccess => ?_⟩
  · -- outcomes that are equal speak of one language, in one spelling
    cases hblank : Text.allBlank language.toList with
    | true => exact .inl rfl
    | false =>
        have hnamed : (r.named language).explicitLanguage = some (Text.normalized language) :=
          Request.explicitLanguage_of_not_blank rfl hblank
        refine .inr fun path hpath => ⟨fun source hsource => ?_, fun message hsource => ?_⟩
        · have hspoken' := hkept'.spoken_of_read (h := h) (e := e) hkeys' hknown' hpath hsource
          rw [← heq, hspoken path source hpath hsource, languageOf_of_explicit hnamed] at hspoken'
          exact (Option.some.inj hspoken').symm
        · have hspoken' := spoken_of_unread (h := h) (e := e) (r := r.named language) hpath hsource
          rw [← heq, spoken_of_unread (h := h) hpath hsource, hnamed, hr] at hspoken'
          exact (Option.some.inj hspoken').symm
  · cases hblank : Text.allBlank language.toList with
    | true => exact congrArg Prod.fst (analyze_named_of_blank hr hblank)
    | false =>
        have hnormal := hspelling.resolve_left (by rw [hblank]; exact Bool.false_ne_true)
        exact congrArg Prod.fst (analyze_named_of_normal hr hblank hmapped
          (fun path source hpath hsource => (hnormal path hpath).1 source hsource)
          fun path message hpath hsource => (hnormal path hpath).2 message hsource)
  · -- a file that could not be read gives no findings, so there was a text and it was asked about
    rcases hask : ask h e r with known | q
    · rw [analyze_eq, hask] at hresult
      dsimp only at hresult
      rw [hresult] at hask
      obtain ⟨path, message, -, -, rfl⟩ := ask_eq_known_iff.1 hask
      cases hsuccess
    · obtain ⟨path, source, -, hpath, hsource, -, -⟩ := ask_eq_ok_iff.1 hask
      have hlanguage := hspoken path source hpath hsource
      rw [hresult] at hlanguage
      exact Option.some.inj hlanguage

/-- A further extension for C, and a query that is run by default. -/
def furtherC (language : String) : Settings :=
  { extensions := [("foo", language)], defaultQueries := [("c", ["functions"])] }

/-- A text in a file with that extension. -/
def fooFile : Request := { path := "a.foo", source := some "x" }

/-- A plugin is registered for a language of no concern. -/
def elsewhere : Steps := [({}, .register "mk" { language := "mk" })]

theorem keysApart_elsewhere {r : Request} (hqueries : r.queries = none)
    (hformat : r.format = "json")
    (hasked : askings emptyUnit (new none (furtherC "c"))
      (elsewhere ++ [(({} : Files.Disk), .analyze r)]) = [⟨r, "a.foo", "x", "c"⟩]) :
    KeysApart (askings emptyUnit (new none (furtherC "c"))
      (elsewhere ++ [(({} : Files.Disk), .analyze r)])) := by
  rw [hasked]
  refine keysApart_of_one (q := ⟨r, "a.foo", "x", "c"⟩) ?_ fun a ha => List.mem_singleton.1 ha
  refine Fingerprint.ofRequest_fits _ ?_ ?_ ?_ ?_
  · dsimp only
    decide
  · dsimp only
    decide
  · dsimp only
    rw [hqueries]
    rintro _ ⟨⟩
  · dsimp only
    rw [hformat]
    decide

/-- In normal spelling, it makes no difference whether the language is named. -/
theorem mapped_eq_named_in_c :
    let h : Host := ⟨{}, emptyUnit⟩
    let e := after emptyUnit (new none (furtherC "c")) elsewhere
    (analyze h e fooFile).1 = (analyze h e (fooFile.named "c")).1 ∧
      (analyze h e fooFile).1.toOption.map (fun result => (result.language, result.queries.names))
        = some ("c", ["functions"]) := by
  intro h e
  have hcheck : (e.checkPath h.disk fooFile.path).1.toOption = some (.ofText "a.foo") := by
    decide +kernel
  have hmapped : ∀ path, (e.checkPath h.disk fooFile.path).1 = .ok path → e.Mapped path "c" := by
    intro path hpath
    rw [hpath] at hcheck
    cases hcheck
    refine ⟨"foo", ?_, ?_, ?_, ?_⟩
    · decide +kernel
    · decide +kernel
    · decide +kernel
    · decide +kernel
  have hiff := mapped_eq_named_iff emptyUnit none (furtherC "c") elsewhere {} fooFile "c"
    (by decide +kernel) hmapped (keysApart_elsewhere rfl rfl (by decide +kernel))
    (keysApart_elsewhere rfl rfl (by decide +kernel))
  refine ⟨hiff.1.2 (.inr fun path _ => ⟨fun source _ => ?_, ?_⟩), by decide +kernel⟩
  · decide +kernel
  · rintro message ⟨⟩

/-- **A language that is not in normal spelling.**  Named in a request it is brought to it; from the
settings it is taken as it stands, and its default queries are not found. -/
theorem capital_language_apart :
    let e := new none (furtherC "C")
    let shown := fun r => (analyze ⟨{}, emptyUnit⟩ e r).1.toOption.map fun result =>
      (result.language, result.queries.names)
    shown fooFile = some ("C", []) ∧ shown (fooFile.named "C") = some ("c", ["functions"]) := by
  decide +kernel

end Engine

end CodeSurvey
