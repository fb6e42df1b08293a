/-
  The store of results cannot be noticed.

  A kept result stays what a survey would give: its key tells everything that the survey reads of
  the request, registering a plugin empties the store, and whatever else happens to the engine only
  adds to what it remembers.  So every entry is `Lasting`, and an engine with a store mirrors one
  without, step by step.

  Main result, `answers_without_store`: whatever is done with an engine, and whatever happens to the
  disk meanwhile, the answers are those of the same run on an engine whose store is switched off.
-/
import CodeSurvey.Proofs.Fingerprint
import CodeSurvey.Proofs.Run

namespace CodeSurvey

open Analysis Extract Syntax Query

/-! ## §1. Keys. -/

/-- What a request wants, whatever file it is about. -/
def Analysis.Request.options (r : Request) : Request :=
  { r with path := "", language := none, source := none }

namespace Engine

namespace Asking

/-- The octets of the text. -/
def content (a : Asking) : List UInt8 := Text.octets a.source.toList

/-- What the key is made of. -/
def fingerprint (a : Asking) : Fingerprint :=
  .ofRequest a.path a.content a.language a.request

/-- Two askings that differ in nothing that a survey reads. -/
structure Same (a b : Asking) : Prop where
  path : a.path = b.path
  source : a.source = b.source
  language : a.language = b.language
  options : a.request.options = b.request.options

theorem Same.survey_eq {a b : Asking} (hab : a.Same b) (h : Host) (e : Engine) :
    a.survey h e = b.survey h e := by
  show Engine.survey h e a.request.options a.path a.source a.language
    = Engine.survey h e b.request.options b.path b.source b.language
  rw [hab.path, hab.source, hab.language, hab.options]

theorem Same.result_eq {a b : Asking} (hab : a.Same b) (outcome : Except String Findings) :
    a.result outcome = b.result outcome := by
  show (⟨a.path, a.language, a.request.options.format, outcome⟩ : Result)
    = ⟨b.path, b.language, b.request.options.format, outcome⟩
  rw [hab.path, hab.language, hab.options]

end Asking

/-- No two of the digests that the keys are made of collide, and every text that goes into a key has
a length of 64 bits. -/
structure KeysApart (known : List Asking) : Prop where
  fits : ∀ a ∈ known, a.fingerprint.Fits
  contents : Digest.Separates (known.map Asking.content)
  rows : Digest.Separates (known.map fun a => a.fingerprint.encode)

/-- One thing asked, however often, makes no keys that could collide. -/
theorem keysApart_of_one {known : List Asking} {q : Asking} (hfits : q.fingerprint.Fits)
    (hone : ∀ a ∈ known, a = q) : KeysApart known where
  fits := by
    intro a ha
    rw [hone a ha]
    exact hfits
  contents := by
    intro x hx y hy _
    obtain ⟨a, ha, rfl⟩ := List.mem_map.1 hx
    obtain ⟨b, hb, rfl⟩ := List.mem_map.1 hy
    rw [hone a ha, hone b hb]
  rows := by
    intro x hx y hy _
    obtain ⟨a, ha, rfl⟩ := List.mem_map.1 hx
    obtain ⟨b, hb, rfl⟩ := List.mem_map.1 hy
    rw [hone a ha, hone b hb]

/-- Under one key, the same is asked. -/
theorem KeysApart.same {known : List Asking} (h : KeysApart known) {a b : Asking} (ha : a ∈ known)
    (hb : b ∈ known) (hkey : a.key = b.key) : a.Same b := by
  have hrows : Digest.Separates [a.fingerprint.encode, b.fingerprint.encode] :=
    Digest.separates_pair
      (h.rows _ (List.mem_map.2 ⟨a, ha, rfl⟩) _ (List.mem_map.2 ⟨b, hb, rfl⟩))
  have hcontents : Digest.Separates [a.content, b.content] :=
    Digest.separates_pair
      (h.contents _ (List.mem_map.2 ⟨a, ha, rfl⟩) _ (List.mem_map.2 ⟨b, hb, rfl⟩))
  obtain ⟨hpath, hcontent, hlanguage, hqueries, helements, hrun, hcomplexity, hdetails, hformat⟩ :=
    Fingerprint.ofRequest_inj hcontents (Fingerprint.key_inj (h.fits a ha) (h.fits b hb) hrows hkey)
  refine ⟨hpath, Text.octets_toList_inj hcontent, hlanguage, ?_⟩
  simp only [Request.options, hqueries, helements, hrun, hcomplexity, hdetails, hformat]

/-! ## §2. Kept results. -/

/-- An engine that has only learnt since. -/
abbrev Later (e later : Engine) : Prop := Akin Memo.Extends (Memo.Grows e.grammars) e later

theorem Later.refl (e : Engine) : Later e e :=
  ⟨rfl, rfl, rfl, .refl _, rfl, .refl _ _⟩

theorem later_store (e : Engine) (store : Store Result) : Later e { e with store := store } :=
  (Later.refl e).unobserved e.guard store e.timings

theorem Later.trans {a b c : Engine} (hab : Later a b) (hbc : Later b c) : Later a c where
  defaultQueries := hab.defaultQueries.trans hbc.defaultQueries
  grammars := hab.grammars.trans hbc.grammars
  plugins := hab.plugins.trans hbc.plugins
  memo := hab.memo.trans hbc.memo
  session := hab.session.grows_trans (hab.grammars ▸ hbc.session)

theorem Akin.later {e later : Engine} (h : Grown e later) : Later e later :=
  ⟨h.defaultQueries, h.grammars, h.plugins, h.memo.extends, h.session⟩

theorem Akin.later_of_eq {a b : Engine} (h : Akin Eq Eq a b) : Later a b where
  defaultQueries := h.defaultQueries
  grammars := h.grammars
  plugins := h.plugins
  memo := h.memo ▸ .refl _
  session := ⟨h.session.catalog, h.session.memo ▸ .refl _ _⟩

/-- From now on, and on every disk, a survey finds this and learns nothing. -/
def Lasting (parser : Parser) (e : Engine) (a : Asking) (findings : Findings) : Prop :=
  ∀ disk later, Later e later →
    (a.survey ⟨disk, parser⟩ later).1 = .ok findings ∧
      Akin Eq Eq later (a.survey ⟨disk, parser⟩ later).2

theorem Lasting.later {parser : Parser} {e later : Engine} {a : Asking} {findings : Findings}
    (h : Lasting parser e a findings) (hlater : Later e later) :
    Lasting parser later a findings :=
  fun disk _ hnext => h disk _ (hlater.trans hnext)

/-- Findings last. -/
theorem lasting_of_survey {disk : Files.Disk} {parser : Parser} {e : Engine} {a : Asking}
    {findings : Findings} (hplugins : e.plugins.OnlyCompile)
    (hok : (a.survey ⟨disk, parser⟩ e).1 = .ok findings) :
    Lasting parser (a.survey ⟨disk, parser⟩ e).2 a findings := by
  intro disk' later hlater
  have hgrammars : e.grammars = (a.survey ⟨disk, parser⟩ e).2.grammars :=
    (survey_grows hplugins).grammars
  unfold Later at hlater
  rw [← hgrammars] at hlater
  exact survey_again (h := ⟨disk', parser⟩) hplugins hok hlater

/-- Every entry of the store is the lasting answer to something that was asked. -/
def Kept (parser : Parser) (known : List Asking) (e : Engine) : Prop :=
  ∀ entry ∈ e.store.entries, ∃ a ∈ known, ∃ findings,
    entry = (a.key, a.result (.ok findings)) ∧ Lasting parser e a findings

theorem Kept.later {parser : Parser} {known : List Asking} {e later : Engine}
    (h : Kept parser known e) (hlater : Later e later)
    (hentries : ∀ entry ∈ later.store.entries, entry ∈ e.store.entries) :
    Kept parser known later := by
  intro entry hentry
  obtain ⟨a, ha, findings, heq, hlasting⟩ := h entry (hentries entry hentry)
  exact ⟨a, ha, findings, heq, hlasting.later hlater⟩

theorem kept_of_empty {parser : Parser} {known : List Asking} {e : Engine}
    (h : e.store.entries = []) : Kept parser known e := by
  intro entry hentry
  rw [h] at hentry
  cases hentry

/-! ## §3. An engine and its mirror. -/

/-- An engine with kept results that last, beside one whose store is switched off. -/
structure Mirrors (parser : Parser) (known : List Asking) (a b : Engine) : Prop
    extends Alike Eq a b where
  off : b.store.enabled = false
  kept : Kept parser known a
  onlyCompile : a.plugins.OnlyCompile

section Mirrors

variable {parser : Parser} {known : List Asking} {a b a' b' : Engine} {q : Asking}

/-- What adds to the one and keeps the other alike keeps the mirror. -/
theorem Mirrors.change (hm : Mirrors parser known a b) (halike : Alike Eq a' b')
    (hoff : b'.store.enabled = false) (hlater : Later a a')
    (hentries : a'.store.entries = a.store.entries) : Mirrors parser known a' b' where
  toAlike := halike
  off := hoff
  kept := hm.kept.later hlater fun _ hentry => hentries ▸ hentry
  onlyCompile := hlater.plugins ▸ hm.onlyCompile

theorem survey_store (q : Asking) (h : Host) (e : Engine) :
    (q.survey h e).2.store = e.store := by
  obtain ⟨timings, memo, session, hframe⟩ := survey_frame h e q.request q.path q.source q.language
  rw [hframe]

theorem answer_off (h : Host) {e : Engine} (hoff : e.store.enabled = false) (q : Asking) :
    (q.answer h e).2.store.enabled = false := by
  have hmiss : e.store.find? q.key = none := Store.find?_of_off hoff
  have hleft : (q.survey h e.missed).2.store.enabled = false := by
    rw [survey_store]
    exact hoff
  cases hfound : (q.survey h e.missed).1 with
  | error f =>
      rw [answer_of_failed hmiss hfound]
      exact hleft
  | ok findings =>
      rw [answer_of_found hmiss hfound]
      show ((q.survey h e.missed).2.store.set _ _).enabled = false
      rw [Store.set_of_off hleft]
      exact hleft

/-- What is found anew and kept lasts, and so does what was kept before. -/
theorem Kept.answer_of_miss {disk : Files.Disk} (hkept : Kept parser known a)
    (hplugins : a.plugins.OnlyCompile) (hq : q ∈ known) (hmiss : a.store.find? q.key = none) :
    Kept parser known (q.answer ⟨disk, parser⟩ a).2 := by
  have hlater : Later a (q.survey ⟨disk, parser⟩ a.missed).2 :=
    (later_store a _).trans (survey_grows (e := a.missed) hplugins).later
  have hstore := survey_store q ⟨disk, parser⟩ a.missed
  cases hfound : (q.survey ⟨disk, parser⟩ a.missed).1 with
  | error f =>
      rw [answer_of_failed hmiss hfound]
      refine hkept.later hlater fun entry hentry => ?_
      rw [hstore] at hentry
      exact hentry
  | ok findings =>
      rw [answer_of_found hmiss hfound]
      intro entry hentry
      rcases Store.mem_of_mem_set hentry with rfl | hentry
      · exact ⟨q, hq, findings, rfl,
          (lasting_of_survey (e := a.missed) hplugins hfound).later (later_store _ _)⟩
      · rw [hstore] at hentry
        obtain ⟨q', hq', findings', heq, hlasting⟩ := hkept entry hentry
        exact ⟨q', hq', findings', heq, hlasting.later (hlater.trans (later_store _ _))⟩

/-- **One answer**: a kept result is what the mirror finds, and so is what is found anew. -/
theorem Mirrors.answer (hm : Mirrors parser known a b) (hapart : KeysApart known)
    (hq : q ∈ known) (disk : Files.Disk) :
    (q.answer ⟨disk, parser⟩ a).1 = (q.answer ⟨disk, parser⟩ b).1 ∧
      Mirrors parser known (q.answer ⟨disk, parser⟩ a).2 (q.answer ⟨disk, parser⟩ b).2 := by
  have hb : b.store.find? q.key = none := Store.find?_of_off hm.off
  have hoff := answer_off ⟨disk, parser⟩ hm.off q
  cases ha : a.store.find? q.key with
  | none =>
      obtain ⟨hsame, halike⟩ := hm.toAlike.answer_of_miss (Memo.indistinguishable_eq _)
        hm.onlyCompile ha hb ⟨disk, parser⟩
      refine ⟨hsame, halike, hoff, hm.kept.answer_of_miss hm.onlyCompile hq ha, ?_⟩
      exact (answer_grows hm.onlyCompile q ⟨disk, parser⟩).plugins ▸ hm.onlyCompile
  | some result =>
      obtain ⟨q', hq', findings, heq, hlasting⟩ := hm.kept _ (Store.mem_of_find? ha)
      obtain ⟨hkey, rfl⟩ := Prod.mk.inj heq
      have hasked : q'.Same q := hapart.same hq' hq hkey.symm
      -- the mirror finds what was found when the result was kept, and learns nothing by it
      obtain ⟨hok, hleft⟩ := hlasting disk b.missed (hm.later_of_eq.trans (later_store b _))
      rw [hasked.survey_eq] at hok hleft
      obtain ⟨timings, memo, session, hframe⟩ :=
        survey_frame ⟨disk, parser⟩ b.missed q.request q.path q.source q.language
      rw [answer_of_found hb hok] at hoff
      rw [answer_of_hit ha, answer_of_found hb hok, hasked.result_eq]
      rw [hframe] at hleft hoff ⊢
      refine ⟨rfl, hm.change ⟨⟨hm.defaultQueries, hm.grammars, hm.plugins, ?_, ?_⟩, hm.root,
        hm.extensions, hm.guard, hm.closed⟩ hoff (later_store a _) rfl⟩
      · exact hm.memo.trans hleft.memo
      · exact hm.session.trans_eq hleft.session

/-! ## §4. Acts and runs. -/

theorem Mirrors.analyze (hm : Mirrors parser known a b) (hapart : KeysApart known)
    (disk : Files.Disk) (r : Request) (hknown : ∀ q, ask ⟨disk, parser⟩ a r = .ok q → q ∈ known) :
    (Engine.analyze ⟨disk, parser⟩ a r).1 = (Engine.analyze ⟨disk, parser⟩ b r).1 ∧
      Mirrors parser known (Engine.analyze ⟨disk, parser⟩ a r).2
        (Engine.analyze ⟨disk, parser⟩ b r).2 := by
  have hasked : Mirrors parser known (a.asked disk) (b.asked disk) :=
    hm.change (hm.toAlike.asked disk) hm.off ((Later.refl a).unobserved _ a.store _) rfl
  rw [analyze_eq, analyze_eq, ← hm.toAlike.ask_eq]
  cases hask : ask ⟨disk, parser⟩ a r with
  | error result => exact ⟨rfl, hasked⟩
  | ok q =>
      obtain ⟨hsame, hleft⟩ := hasked.answer hapart (hknown q hask) disk
      exact ⟨congrArg Except.ok hsame, hleft⟩

/-- **One act** on an engine and on its mirror has one answer. -/
theorem Mirrors.perform (hm : Mirrors parser known a b) (hapart : KeysApart known)
    (disk : Files.Disk) (act : Act) (hact : act.OnlyCompiles)
    (hknown : ∀ r q, act.request? = some r → ask ⟨disk, parser⟩ a r = .ok q → q ∈ known) :
    (Engine.perform ⟨disk, parser⟩ a act).1 = (Engine.perform ⟨disk, parser⟩ b act).1 ∧
      Mirrors parser known (Engine.perform ⟨disk, parser⟩ a act).2
        (Engine.perform ⟨disk, parser⟩ b act).2 := by
  cases act with
  | analyze r =>
      obtain ⟨hsame, hleft⟩ := hm.analyze hapart disk r fun q => hknown r q rfl
      exact ⟨congrArg Answer.result hsame, hleft⟩
  | analyzeCode code language name =>
      obtain ⟨hsame, hleft⟩ := hm.analyze hapart disk _ fun q => hknown _ q rfl
      exact ⟨congrArg Answer.result hsame, hleft⟩
  | runNamed r name =>
      obtain ⟨hsame, hleft⟩ := hm.analyze hapart disk (queryRequest r name) fun q => hknown _ q rfl
      simp only [Engine.perform, runNamed_eq, hsame, true_and]
      exact hleft
  | runText r query =>
      obtain ⟨hsame, halike⟩ := hm.toAlike.runText (Memo.indistinguishable_eq _) ⟨disk, parser⟩ r
        query
      obtain ⟨hgrown, hstore⟩ := runText_grows ⟨disk, parser⟩ a r query
      obtain ⟨-, hstore'⟩ := runText_grows ⟨disk, parser⟩ b r query
      refine ⟨congrArg Answer.outcome hsame, hm.change halike ?_ hgrown.later ?_⟩
      · show (Engine.runText ⟨disk, parser⟩ b r query).2.store.enabled = false
        rw [hstore']
        exact hm.off
      · show (Engine.runText ⟨disk, parser⟩ a r query).2.store.entries = a.store.entries
        rw [hstore]
  | clearStore =>
      exact ⟨rfl, ⟨⟨hm.defaultQueries, hm.grammars, hm.plugins, hm.memo, hm.session⟩, hm.root,
        hm.extensions, hm.guard, hm.closed⟩, hm.off, kept_of_empty rfl, hm.onlyCompile⟩
  | register language plugin =>
      refine ⟨rfl, ⟨⟨hm.defaultQueries, ?_, ?_, hm.memo, hm.session⟩, hm.root, hm.extensions,
        hm.guard, hm.closed⟩, hm.off, kept_of_empty rfl, hm.onlyCompile.register language hact⟩
      · show (a.register language plugin).grammars = (b.register language plugin).grammars
        unfold Engine.register
        rw [hm.grammars]
      · show a.plugins.register language plugin = b.plugins.register language plugin
        rw [hm.plugins]
  | resetQueryCounts =>
      refine ⟨rfl, hm.change ⟨⟨hm.defaultQueries, hm.grammars, hm.plugins, hm.memo, ?_⟩, hm.root,
        hm.extensions, hm.guard, hm.closed⟩ hm.off ⟨rfl, rfl, rfl, .refl _, rfl, .refl _ _⟩ rfl⟩
      exact ⟨hm.session.catalog, hm.session.memo⟩
  | cleanup =>
      refine ⟨rfl, ?_⟩
      show Mirrors parser known a.cleanup b.cleanup
      unfold Engine.cleanup
      rw [← hm.closed]
      split
      · exact hm
      · exact ⟨⟨⟨hm.defaultQueries, hm.grammars, hm.plugins, hm.memo, hm.session.catalog, rfl⟩,
          hm.root, hm.extensions, hm.guard, rfl⟩, hm.off, kept_of_empty rfl, hm.onlyCompile⟩
  | share more =>
      refine ⟨rfl, hm.change ⟨⟨hm.defaultQueries, hm.grammars, hm.plugins, ?_, hm.session⟩, hm.root,
        hm.extensions, hm.guard, hm.closed⟩ hm.off
        ⟨rfl, rfl, rfl, Memo.extends_append _ _, rfl, .refl _ _⟩ rfl⟩
      show a.memo ++ more = b.memo ++ more
      rw [hm.memo]

/-- **A run** on an engine and on its mirror has the same answers, and leaves them mirrored. -/
theorem Mirrors.run (hapart : KeysApart known) :
    ∀ {steps : Steps} {a b : Engine}, Mirrors parser known a b →
      (∀ step ∈ steps, step.2.OnlyCompiles) → (∀ q ∈ askings parser a steps, q ∈ known) →
      answers parser a steps = answers parser b steps ∧
        Mirrors parser known (after parser a steps) (after parser b steps) := by
  intro steps
  induction steps with
  | nil => exact fun hm _ _ => ⟨rfl, hm⟩
  | cons step steps ih =>
      obtain ⟨disk, act⟩ := step
      intro a b hm hsteps hknown
      obtain ⟨hsame, hleft⟩ := hm.perform hapart disk act (hsteps _ List.mem_cons_self)
        fun r q hr hask => hknown q (mem_askings_cons steps hr hask)
      obtain ⟨hrest, hend⟩ := ih hleft (fun s hs => hsteps s (List.mem_cons_of_mem _ hs))
        fun q hq => hknown q (List.mem_append_right _ hq)
      rw [answers, answers, hsame, hrest]
      exact ⟨rfl, hend⟩

/-- A mirror answers what the engine would without the results that it has kept. -/
theorem Mirrors.perform_clearStore (hm : Mirrors parser known a b) (h : Host) (act : Act) :
    (Engine.perform h a.clearStore act).1 = (Engine.perform h b act).1 := by
  have halike : Alike Eq a.clearStore b :=
    ⟨⟨hm.defaultQueries, hm.grammars, hm.plugins, hm.memo, hm.session⟩, hm.root, hm.extensions,
      hm.guard, hm.closed⟩
  exact halike.perform_fst (Memo.indistinguishable_eq _) hm.onlyCompile
    (fun key => Store.find?_of_empty rfl) (fun key => Store.find?_of_off hm.off) h act

end Mirrors

/-- The settings, with the store switched off. -/
def storeless (settings : Settings) : Settings :=
  { settings with store := { settings.store with enabled := false } }

theorem mirrors_new (parser : Parser) (known : List Asking) (root : Option String)
    (settings : Settings) :
    Mirrors parser known (new root settings) (new root (storeless settings)) :=
  ⟨⟨⟨rfl, rfl, rfl, rfl, rfl, rfl⟩, rfl, rfl, rfl, rfl⟩, rfl, kept_of_empty rfl,
    Plugins.builtin_onlyCompile⟩

/-- **The store cannot be noticed.**  Whatever the settings, whatever is done with an engine and
whatever becomes of the disk meanwhile, the answers are those of an engine without a store. -/
theorem answers_without_store (parser : Parser) (root : Option String) (settings : Settings)
    (steps : Steps) (hsteps : ∀ step ∈ steps, step.2.OnlyCompiles)
    (hkeys : KeysApart (askings parser (new root settings) steps)) :
    answers parser (new root settings) steps =
      answers parser (new root (storeless settings)) steps :=
  (Mirrors.run hkeys (mirrors_new parser _ root settings) hsteps fun _ hq => hq).1

/-- A parser that finds a file without declarations in every text. -/
def emptyUnit : Parser := fun _ source =>
  let kind := "translation_unit"
  some
    { source := source.toList,
      root := .node { id := 0, kind := kind, named := true, start := 0, stop := 1 } [] }

/-- One text three times, a plugin being registered after the first. -/
def threeAnalyses : Steps :=
  [({}, .analyzeCode "x" "c" none), ({}, .register "c" (.fallback "c")),
    ({}, .analyzeCode "x" "c" none), ({}, .analyzeCode "x" "c" none)]

theorem threeAnalyses_without_store :
    (∀ step ∈ threeAnalyses, step.2.OnlyCompiles) ∧
      KeysApart (askings emptyUnit (new none {}) threeAnalyses) ∧
      answers emptyUnit (new none {}) threeAnalyses =
        answers emptyUnit (new none (storeless {})) threeAnalyses := by
  let q : Asking :=
    { request := { path := "snippet", language := some "c", source := some "x" },
      path := "snippet", source := "x", language := "c" }
  have hasked : askings emptyUnit (new none {}) threeAnalyses = [q, q, q] := by decide +kernel
  have hsteps : ∀ step ∈ threeAnalyses, step.2.OnlyCompiles := by
    intro step hstep
    simp only [threeAnalyses, List.mem_cons, List.not_mem_nil, or_false] at hstep
    rcases hstep with rfl | rfl | rfl | rfl
    · trivial
    · exact fun p => .pure []
    · trivial
    · trivial
  have hkeys : KeysApart (askings emptyUnit (new none {}) threeAnalyses) := by
    have hfits : q.fingerprint.Fits :=
      Fingerprint.ofRequest_fits q.content (by decide) (by decide) (by rintro _ ⟨⟩) (by decide)
    refine keysApart_of_one hfits fun a ha => ?_
    rw [hasked] at ha
    simpa using ha
  exact ⟨hsteps, hkeys, answers_without_store emptyUnit none {} threeAnalyses hsteps hkeys⟩

end Engine

end CodeSurvey
