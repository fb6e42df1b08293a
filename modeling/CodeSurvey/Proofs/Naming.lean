/-
  The names of languages.

  Registering a plugin writes the name of its language twice: trimmed and lower-cased among the
  plugins, but only lower-cased among the grammars.  Whoever looks a language up trims its name
  first, so a grammar that was registered under a name with blanks at its ends is never found
  (`dialect?_register_iff`), and the name stands with its blanks among the languages
  (`mem_languages_register`).

  Main result, `grammar_takes_effect_iff`: after a registration, requests in the language are parsed
  with the plugin's grammar EXACTLY when the name had bare ends or they were so before; and the
  languages have normal names EXACTLY when every grammar of the run came under a name with bare
  ends.  `blank_ends_lose_grammar` is a name with a blank at either end.
-/
import CodeSurvey.Proofs.Discipline
import CodeSurvey.Proofs.Freshness
import CodeSurvey.Proofs.Spelling

namespace CodeSurvey

open Analysis Extract Syntax Query

/-! ## §1. The grammar behind a name. -/

namespace Syntax.Grammars

theorem dialect?_eq_some_iff {g : Grammars} {language : String} {grammar : Grammar} :
    g.dialect? language = some ⟨Text.normalized language, grammar⟩ ↔
      g.grammar? (Text.normalized language) = some grammar := by
  show (g.grammar? (Text.normalized language)).map _ = _ ↔ _
  simp [Option.map_eq_some_iff]

/-- A name and its normal spelling stand for the same grammar. -/
theorem dialect?_normalized (g : Grammars) (language : String) :
    g.dialect? (Text.normalized language) = g.dialect? language := by
  unfold dialect?
  rw [Text.normalized_normalized]

/-- **A grammar is found under the name it was registered with** exactly if the name has bare ends,
or the name stood for it before. -/
theorem dialect?_register_iff (g : Grammars) (language : String) (grammar : Grammar) :
    (g.register language grammar).dialect? language
        = some ⟨Text.normalized language, grammar⟩ ↔
      Text.trimmed language = language ∨
        g.dialect? language = some ⟨Text.normalized language, grammar⟩ := by
  rw [dialect?_eq_some_iff, dialect?_eq_some_iff, grammar?_register,
    ← Text.lowercase_eq_normalized_iff]
  by_cases hname : Text.lowercase language = Text.normalized language
  · rw [if_pos hname.symm]
    exact iff_of_true rfl (.inl hname)
  · rw [if_neg (Ne.symm hname)]
    exact (or_iff_right hname).symm

end Syntax.Grammars

theorem Analysis.Request.explicitLanguage_of_not_blank {r : Request} {language : String}
    (hr : r.language = some language) (hlanguage : Text.allBlank language.toList = false) :
    r.explicitLanguage = some (Text.normalized language) := by
  have hname : Text.normalized language ≠ "" := by
    rw [ne_eq, Text.normalized_eq_empty_iff, hlanguage]
    exact Bool.false_ne_true
  unfold Request.explicitLanguage
  simp [hr, hname]

namespace Engine

/-- Requests in a language are taken, and parsed with a grammar. -/
structure ParsesWith (e : Engine) (language : String) (grammar : Grammar) : Prop where
  dialect : e.grammars.dialect? language = some ⟨Text.normalized language, grammar⟩
  taken : ∀ (r : Request) (path : Files.Path), r.language = some language →
    e.resolveLanguage r path = .ok (Text.normalized language)
  parsed : ∀ (h : Host) (r : Request) (q : Asking), r.language = some language →
    ask h e r = .ok q → ∀ tree, h.parser ⟨Text.normalized language, grammar⟩ q.source = some tree →
      e.grammars.parse h.parser q.source q.language q.path
        = .ok ⟨tree, ⟨Text.normalized language, grammar⟩, q.path⟩

section ParsesWith

variable {e : Engine} {language : String} {grammar : Grammar}

theorem languageOf_of_explicit {r : Request} {name : String} (hr : r.explicitLanguage = some name)
    (path : Files.Path) : e.languageOf r path = name := by
  unfold languageOf
  rw [hr]
  rfl

/-- What the grammars say of a name decides what becomes of requests. -/
theorem parsesWith_iff (hlanguage : Text.allBlank language.toList = false) :
    e.ParsesWith language grammar ↔
      e.grammars.dialect? language = some ⟨Text.normalized language, grammar⟩ := by
  refine ⟨ParsesWith.dialect, fun hdialect => ?_⟩
  have hnormal : e.grammars.dialect? (Text.normalized language)
      = some ⟨Text.normalized language, grammar⟩ := by
    rw [Grammars.dialect?_normalized, hdialect]
  have htaken : ∀ (r : Request) (path : Files.Path), r.language = some language →
      e.resolveLanguage r path = .ok (Text.normalized language) := by
    intro r path hr
    have hname := languageOf_of_explicit (e := e)
      (Request.explicitLanguage_of_not_blank hr hlanguage) path
    rw [resolveLanguage_eq_ok_iff, hname]
    refine ⟨.inr ?_, rfl⟩
    unfold Grammars.supports
    rw [hnormal]
    rfl
  refine ⟨hdialect, htaken, fun h r q hr hask tree htree => ?_⟩
  obtain ⟨path, source, name, -, -, hname, rfl⟩ := ask_eq_ok_iff.1 hask
  rw [htaken r path hr] at hname
  cases hname
  unfold Grammars.parse
  simp only [hnormal, htree]

end ParsesWith

/-! ## §2. The languages of an engine. -/

theorem mem_languages {e : Engine} {name : String} :
    name ∈ e.languages ↔
      name ∈ e.plugins.languages ∨ name ∈ Grammar.names ∨ name ∈ NameMap.names e.grammars := by
  unfold languages Grammars.languages
  rw [NameMap.mem_sortNames, List.mem_append, NameMap.mem_sortNames, List.mem_append]

/-- A registration adds the normal spelling of its name, and with a grammar also the spelling that
is only lower-cased. -/
theorem mem_languages_register {e : Engine} {language name : String} {p : Plugin} :
    name ∈ (e.register language p).languages ↔
      name ∈ e.languages ∨ name = Text.normalized language ∨
        (p.grammar.isSome = true ∧ name = Text.lowercase language) := by
  have hplugins : name ∈ (e.register language p).plugins.languages ↔
      name = Text.normalized language ∨ name ∈ e.plugins.languages := NameMap.mem_names_insert
  have hgrammars : name ∈ NameMap.names (e.register language p).grammars ↔
      (p.grammar.isSome = true ∧ name = Text.lowercase language) ∨
        name ∈ NameMap.names e.grammars := by
    cases hp : p.grammar with
    | none => simp [grammars_register_none hp]
    | some grammar =>
        rw [grammars_register hp]
        simp [Grammars.register, NameMap.mem_names_insert]
  rw [mem_languages, mem_languages, hplugins, hgrammars]
  simp only [or_assoc, or_comm, or_left_comm]

/-- All languages are listed in their normal spelling. -/
def NormalNames (e : Engine) : Prop := ∀ name ∈ e.languages, Text.Normal name

/-- A grammar comes under a name that has bare ends. -/
def Act.BareEnds : Act → Prop
  | .register language plugin => plugin.grammar.isSome = true → Text.trimmed language = language
  | _ => True

theorem normalNames_register_iff {e : Engine} {language : String} {p : Plugin} :
    (e.register language p).NormalNames ↔
      e.NormalNames ∧ (p.grammar.isSome = true → Text.trimmed language = language) := by
  constructor
  · intro h
    refine ⟨fun name hname => h name (mem_languages_register.2 (.inl hname)), fun hp => ?_⟩
    have hlower := h (Text.lowercase language) (mem_languages_register.2 (.inr (.inr ⟨hp, rfl⟩)))
    exact Text.normal_lowercase_iff.1 hlower
  · rintro ⟨hnames, hends⟩ name hname
    rcases mem_languages_register.1 hname with hname | rfl | ⟨hp, rfl⟩
    · exact hnames name hname
    · exact Text.normal_normalized language
    · exact Text.normal_lowercase_iff.2 (hends hp)

theorem SameSetup.languages_eq {a b : Engine} (hab : SameSetup a b) :
    a.languages = b.languages := by
  unfold Engine.languages
  rw [hab.plugins, hab.grammars]

/-- **One act** keeps the names normal unless it brings a grammar under a name with blank ends. -/
theorem normalNames_perform_iff (h : Host) (e : Engine) (act : Act) :
    (perform h e act).2.NormalNames ↔ e.NormalNames ∧ act.BareEnds := by
  -- nothing but a registration touches the two tables that languages are listed from
  cases hact : act.isRegistration with
  | true =>
      obtain ⟨language, plugin, rfl⟩ := Act.eq_register hact
      exact normalNames_register_iff
  | false =>
      unfold NormalNames
      rw [← (perform_setup h e hact).languages_eq]
      refine (and_iff_left ?_).symm
      cases act with
      | register language plugin => cases hact
      | _ => trivial

/-- **A whole run** does if all its acts do. -/
theorem normalNames_after_iff (parser : Parser) :
    ∀ {steps : Steps} {e : Engine}, (after parser e steps).NormalNames ↔
      e.NormalNames ∧ ∀ step ∈ steps, step.2.BareEnds := by
  intro steps
  induction steps with
  | nil => simp [after]
  | cons step steps ih =>
      intro e
      obtain ⟨disk, act⟩ := step
      rw [after, ih, normalNames_perform_iff, List.forall_mem_cons, and_assoc]

theorem normalNames_new (root : Option String) (settings : Settings) :
    (new root settings).NormalNames := by
  have hall : ∀ name ∈ Plugins.builtin.languages ++ Grammar.names, Text.Normal name := by
    decide +kernel
  intro name hname
  refine hall name ?_
  rw [mem_languages] at hname
  rcases hname with hname | hname | hname
  · exact List.mem_append_left _ hname
  · exact List.mem_append_right _ hname
  · cases hname

/-! ## §3. The main result. -/

/-- **When a plugin's grammar takes effect.**  Whatever was done with an engine before: once a
plugin with a grammar is registered, all requests in the language are parsed with that grammar
exactly if the name of the language has bare ends, or they were parsed with it anyway.  The engine
then lists normal spellings only, exactly if this and all grammars before came under names with bare
ends. -/
theorem grammar_takes_effect_iff (parser : Parser) (root : Option String) (settings : Settings)
    (steps : Steps) {language : String} {p : Plugin} {grammar : Grammar}
    (hlanguage : Text.allBlank language.toList = false) (hp : p.grammar = some grammar) :
    let e := after parser (new root settings) steps
    ((e.register language p).ParsesWith language grammar ↔
      Text.trimmed language = language ∨ e.ParsesWith language grammar) ∧
    ((∀ name ∈ (e.register language p).languages, Text.Normal name) ↔
      Text.trimmed language = language ∧ ∀ step ∈ steps, step.2.BareEnds) := by
  intro e
  constructor
  · rw [parsesWith_iff hlanguage, parsesWith_iff hlanguage, grammars_register hp]
    exact e.grammars.dialect?_register_iff language grammar
  · have hregister : (e.register language p).NormalNames ↔
        e.NormalNames ∧ (p.grammar.isSome = true → Text.trimmed language = language) :=
      normalNames_register_iff
    rw [normalNames_after_iff, and_iff_right (normalNames_new root settings), hp] at hregister
    exact hregister.trans ⟨fun h => ⟨h.2 rfl, h.1⟩, fun h => ⟨h.2, fun _ => h.1⟩⟩

/-- A plugin without a grammar may come under any name, and capital letters do no harm. -/
theorem grammar_takes_effect_in_capitals :
    let steps : Steps := [({}, .register " Mk " { language := "mk" })]
    let p : Plugin := { language := "élan", grammar := some Grammar.c }
    let e := (after emptyUnit (new none {}) steps).register "ÉLAN" p
    e.ParsesWith "ÉLAN" Grammar.c ∧ ∀ name ∈ e.languages, Text.Normal name := by
  intro steps p e
  have hname : Text.trimmed "ÉLAN" = "ÉLAN" := by decide +kernel
  have hsteps : ∀ step ∈ steps, step.2.BareEnds := by
    intro step hstep
    rw [List.mem_singleton.1 hstep]
    rintro ⟨⟩
  have hbare : Text.allBlank "ÉLAN".toList = false := by decide +kernel
  have heffect := grammar_takes_effect_iff emptyUnit none {} steps (p := p) hbare rfl
  exact ⟨heffect.1.2 (.inl hname), heffect.2.2 ⟨hname, hsteps⟩⟩

/-- **A grammar that is lost.**  It is registered under a name with blank ends.  The language has a
plugin and is listed, also in a spelling that is not normal, but its texts cannot be parsed. -/
theorem blank_ends_lose_grammar :
    let e := (new none {}).register " Foo " { language := "foo", grammar := some Grammar.python }
    e.plugins.contains " Foo " = true ∧ e.grammars.supports " Foo " = false ∧
      " foo " ∈ e.languages ∧ ¬ Text.Normal " foo " ∧
      (analyze ⟨{}, emptyUnit⟩ e
          { path := "a.foo", language := some " Foo ", source := some "" }).1.toOption.map
          Result.error?
        = some (some "failed to parse foo source: no grammar available") := by
  decide +kernel

end Engine

end CodeSurvey
