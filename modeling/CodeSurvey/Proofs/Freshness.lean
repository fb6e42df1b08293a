/-
  When compiled queries go stale.

  Compiled queries are remembered under the name of a language.  Registering a plugin may put
  another grammar behind the name, and nothing is forgotten then: an engine is `Current` only as
  long as what it remembers is what the grammars of the moment would give.

  Main result, `current_iff_agrees`: along a run an engine stays current EXACTLY when every grammar
  that is registered agrees with what is remembered under its name, and every query that other
  engines of the process add agrees with the grammars here; and then every act is answered as on a
  new engine with the same registrations.  `stale_module_query` is a run in which it does not: a
  query that the new grammar would refuse still runs.
-/
import CodeSurvey.Proofs.Transparency

namespace CodeSurvey

open Analysis Extract Syntax Query

/-! ## §1. Registering a grammar. -/

theorem Syntax.Grammars.grammar?_register (g : Grammars) (language : String) (grammar : Grammar)
    (name : String) :
    (g.register language grammar).grammar? name
      = if name = Text.lowercase language then some grammar else g.grammar? name := by
  unfold Grammars.grammar? Grammars.register
  rw [NameMap.find?_insert]
  split
  · rfl
  · rfl

namespace Query.Memo

/-- A fresh memory stays fresh exactly when a new grammar agrees with what it has under the name. -/
theorem Fresh.register_iff {g : Grammars} {m : Memo} (hm : Fresh g m) (language : String)
    (grammar : Grammar) :
    Fresh (g.register language grammar) m ↔
      ∀ query c, m.find? (Text.lowercase language) query = some c →
        Query.compile grammar query = .ok c := by
  constructor
  · intro h query c hfound
    refine h _ query c grammar hfound ?_
    rw [Grammars.grammar?_register, if_pos rfl]
  · intro h name query c grammar' hfound hgrammar
    rw [Grammars.grammar?_register] at hgrammar
    split at hgrammar
    · rename_i hname
      cases hgrammar
      exact h query c (hname ▸ hfound)
    · exact hm name query c grammar' hfound hgrammar

/-- A fresh memory stays fresh exactly when what is added to it is. -/
theorem Fresh.append_iff {g : Grammars} {m : Memo} (hm : Fresh g m) (more : Memo) :
    Fresh g (m ++ more) ↔
      ∀ d query c, g.Knows d → m.find? d.language query = none →
        more.find? d.language query = some c → Query.compile d.grammar query = .ok c := by
  constructor
  · intro h d query c hd hnone hfound
    refine h d.language query c d.grammar ?_ hd
    rw [find?_append, hnone, hfound]
    rfl
  · intro h language query c grammar hfound hgrammar
    rw [find?_append] at hfound
    cases hknown : m.find? language query with
    | some c' =>
        rw [hknown] at hfound
        cases hfound
        exact hm language query c grammar hknown hgrammar
    | none =>
        rw [hknown] at hfound
        exact h ⟨language, grammar⟩ query c hgrammar hknown hfound

end Query.Memo

namespace Engine

theorem grammars_register {e : Engine} {language : String} {p : Plugin} {grammar : Grammar}
    (hp : p.grammar = some grammar) :
    (e.register language p).grammars = e.grammars.register language grammar := by
  simp only [register, hp]

theorem grammars_register_none {e : Engine} {language : String} {p : Plugin}
    (hp : p.grammar = none) : (e.register language p).grammars = e.grammars := by
  simp only [register, hp]

/-! ## §2. Current engines. -/

/-- Whoever has a query compiled, session or plugin, gets what the grammar of the moment gives. -/
def Current (e : Engine) : Prop :=
  ∀ d query, e.grammars.Knows d →
    (e.session.memo.compile d query).1 = Query.compile d.grammar query ∧
      (e.memo.compile d query).1 = Query.compile d.grammar query

theorem current_iff {e : Engine} :
    e.Current ↔ Memo.Fresh e.grammars e.session.memo ∧ Memo.Fresh e.grammars e.memo := by
  rw [Memo.fresh_iff, Memo.fresh_iff]
  constructor
  · intro h
    exact ⟨fun d query hd => (h d query hd).1, fun d query hd => (h d query hd).2⟩
  · rintro ⟨hsession, hmemo⟩ d query hd
    exact ⟨hsession d query hd, hmemo d query hd⟩

theorem new_current (root : Option String) (settings : Settings) : (new root settings).Current :=
  current_iff.2 ⟨Memo.fresh_nil _, Memo.fresh_nil _⟩

theorem Current.grown {e later : Engine} (he : e.Current) (h : Grown e later) : later.Current := by
  obtain ⟨hsession, hmemo⟩ := current_iff.1 he
  rw [current_iff, ← h.grammars]
  exact ⟨hsession.grows h.session.memo, hmemo.grows h.memo⟩

/-- An act that brings a grammar, or queries compiled elsewhere, agrees with what is here: the
grammar gives what is remembered under its name, and the queries are what the grammars here give. -/
def Act.Agrees (e : Engine) : Act → Prop
  | .register language plugin =>
    ∀ grammar, plugin.grammar = some grammar → ∀ query c,
      e.session.memo.find? (Text.lowercase language) query = some c ∨
        e.memo.find? (Text.lowercase language) query = some c →
      Query.compile grammar query = .ok c
  | .share more =>
    ∀ d query c, e.grammars.Knows d → e.memo.find? d.language query = none →
      more.find? d.language query = some c → Query.compile d.grammar query = .ok c
  | _ => True

theorem Current.register_iff {e : Engine} (he : e.Current) (language : String) (plugin : Plugin) :
    (e.register language plugin).Current ↔ (Act.register language plugin).Agrees e := by
  obtain ⟨hsession, hmemo⟩ := current_iff.1 he
  rw [current_iff]
  show Memo.Fresh (e.register language plugin).grammars e.session.memo ∧
    Memo.Fresh (e.register language plugin).grammars e.memo ↔ _
  cases hgrammar : plugin.grammar with
  | none =>
      rw [grammars_register_none hgrammar]
      refine iff_of_true ⟨hsession, hmemo⟩ fun grammar hsome => ?_
      rw [hgrammar] at hsome
      cases hsome
  | some grammar =>
      rw [grammars_register hgrammar, hsession.register_iff, hmemo.register_iff]
      constructor
      · rintro ⟨hs, hm⟩ grammar' hsome query c hfound
        rw [hgrammar] at hsome
        cases hsome
        rcases hfound with hfound | hfound
        · exact hs query c hfound
        · exact hm query c hfound
      · intro h
        exact ⟨fun query c hfound => h grammar hgrammar query c (.inl hfound),
          fun query c hfound => h grammar hgrammar query c (.inr hfound)⟩

/-- **One act** keeps a current engine current exactly when it agrees with it. -/
theorem Current.perform_iff {e : Engine} (he : e.Current) (hplugins : e.plugins.OnlyCompile)
    (h : Host) (act : Act) : (perform h e act).2.Current ↔ act.Agrees e := by
  obtain ⟨hsession, hmemo⟩ := current_iff.1 he
  cases act with
  | analyze r => exact iff_of_true (he.grown (analyze_grows hplugins h r)) trivial
  | analyzeCode code language name =>
      exact iff_of_true (he.grown (analyze_grows hplugins h _)) trivial
  | runNamed r name =>
      refine iff_of_true ?_ trivial
      simp only [perform, runNamed_eq]
      exact he.grown (analyze_grows hplugins h _)
  | runText r query => exact iff_of_true (he.grown (runText_grows h e r query).1) trivial
  | clearStore => exact iff_of_true he trivial
  | register language plugin => exact he.register_iff language plugin
  | resetQueryCounts => exact iff_of_true he trivial
  | cleanup =>
      refine iff_of_true ?_ trivial
      show e.cleanup.Current
      unfold Engine.cleanup
      split
      · exact he
      · exact current_iff.2 ⟨Memo.fresh_nil _, hmemo⟩
  | share more =>
      rw [current_iff]
      exact (and_iff_right hsession).trans (hmemo.append_iff more)

/-! ## §3. Runs. -/

/-- The engine is current before, during and after a run. -/
def StaysCurrent (parser : Parser) (e : Engine) : Steps → Prop
  | [] => e.Current
  | (disk, act) :: steps =>
    e.Current ∧ StaysCurrent parser (perform ⟨disk, parser⟩ e act).2 steps

/-- Every act of a run agrees with the engine that it meets. -/
def AllAgree (parser : Parser) (e : Engine) : Steps → Prop
  | [] => True
  | (disk, act) :: steps =>
    act.Agrees e ∧ AllAgree parser (perform ⟨disk, parser⟩ e act).2 steps

theorem StaysCurrent.start {parser : Parser} {e : Engine} {steps : Steps}
    (h : StaysCurrent parser e steps) : e.Current := by
  cases steps with
  | nil => exact h
  | cons step steps => exact h.1

theorem StaysCurrent.after {parser : Parser} :
    ∀ {steps : Steps} {e : Engine}, StaysCurrent parser e steps →
      (Engine.after parser e steps).Current := by
  intro steps
  induction steps with
  | nil => exact fun h => h
  | cons step steps ih => exact fun h => ih h.2

theorem after_onlyCompile {parser : Parser} :
    ∀ {steps : Steps} {e : Engine}, e.plugins.OnlyCompile → (∀ step ∈ steps, step.2.OnlyCompiles) →
      (Engine.after parser e steps).plugins.OnlyCompile := by
  intro steps
  induction steps with
  | nil => exact fun hplugins _ => hplugins
  | cons step steps ih =>
      intro e hplugins hsteps
      exact ih (perform_onlyCompile hplugins _ (hsteps step List.mem_cons_self)) fun s hs =>
        hsteps s (List.mem_cons_of_mem _ hs)

/-- **A run** keeps a current engine current exactly when all its acts agree. -/
theorem staysCurrent_iff {parser : Parser} :
    ∀ {steps : Steps} {e : Engine}, e.Current → e.plugins.OnlyCompile →
      (∀ step ∈ steps, step.2.OnlyCompiles) →
      (StaysCurrent parser e steps ↔ AllAgree parser e steps) := by
  intro steps
  induction steps with
  | nil => exact fun he _ _ => iff_of_true he trivial
  | cons step steps ih =>
      obtain ⟨disk, act⟩ := step
      intro e he hplugins hsteps
      have hstep := he.perform_iff hplugins ⟨disk, parser⟩ act
      have hplugins' := perform_onlyCompile hplugins ⟨disk, parser⟩ (hsteps _ List.mem_cons_self)
      have hrest : ∀ step ∈ steps, step.2.OnlyCompiles := fun s hs =>
        hsteps s (List.mem_cons_of_mem _ hs)
      constructor
      · rintro ⟨-, hlater⟩
        exact ⟨hstep.1 hlater.start, (ih hlater.start hplugins' hrest).1 hlater⟩
      · rintro ⟨hagrees, hlater⟩
        exact ⟨he, (ih (hstep.2 hagrees) hplugins' hrest).2 hlater⟩

/-! ## §4. New engines with the same registrations. -/

/-- The registrations of a run. -/
def registrations (steps : Steps) : Steps := steps.filter fun step => step.2.isRegistration

/-- After a run, an engine is set up as if there had been the registrations only. -/
theorem after_setup {parser : Parser} :
    ∀ {steps : Steps} {a b : Engine}, SameSetup a b →
      SameSetup (after parser a steps) (after parser b (registrations steps)) := by
  intro steps
  induction steps with
  | nil => exact fun hab => hab
  | cons step steps ih =>
      obtain ⟨disk, act⟩ := step
      intro a b hab
      unfold registrations
      cases hact : act.isRegistration with
      | false =>
          rw [List.filter_cons_of_neg (by simp [hact])]
          exact ih ((perform_setup ⟨disk, parser⟩ a hact).symm.trans hab)
      | true =>
          rw [List.filter_cons_of_pos (by simp [hact])]
          obtain ⟨language, plugin, rfl⟩ := Act.eq_register hact
          exact ih (hab.register language plugin)

/-- Nothing is remembered and nothing is kept. -/
structure Blank (e : Engine) : Prop where
  session : e.session.memo = []
  memo : e.memo = []
  store : e.store.entries = []

theorem Blank.after_registrations {parser : Parser} :
    ∀ {steps : Steps} {e : Engine}, e.Blank → (after parser e (registrations steps)).Blank := by
  intro steps
  induction steps with
  | nil => exact fun he => he
  | cons step steps ih =>
      obtain ⟨disk, act⟩ := step
      intro e he
      unfold registrations
      cases hact : act.isRegistration with
      | false =>
          rw [List.filter_cons_of_neg (by simp [hact])]
          exact ih he
      | true =>
          rw [List.filter_cons_of_pos (by simp [hact])]
          obtain ⟨language, plugin, rfl⟩ := Act.eq_register hact
          exact ih ⟨he.session, he.memo, rfl⟩

/-- A new engine with the registrations of a run; the guard, which is made once for an engine, is
that of the engine after the run. -/
def renewed (parser : Parser) (root : Option String) (settings : Settings) (steps : Steps) :
    Engine :=
  { after parser (new root settings) (registrations steps) with
    guard := (after parser (new root settings) steps).guard,
    closed := (after parser (new root settings) steps).closed }

/-- A current engine, the results that it has kept put aside, looks like a new one. -/
theorem Current.alike_renewed {parser : Parser} {root : Option String} {settings : Settings}
    {steps : Steps} (hcurrent : (after parser (new root settings) steps).Current) :
    Alike (fun m m' => Memo.Fresh (after parser (new root settings) steps).grammars m ∧
        Memo.Fresh (after parser (new root settings) steps).grammars m')
      (after parser (new root settings) steps).clearStore (renewed parser root settings steps) := by
  have hsetup : SameSetup (after parser (new root settings) steps)
      (after parser (new root settings) (registrations steps)) :=
    after_setup (.refl _)
  have hblank : (after parser (new root settings) (registrations steps)).Blank :=
    Blank.after_registrations ⟨rfl, rfl, rfl⟩
  obtain ⟨hsession, hmemo⟩ := current_iff.1 hcurrent
  refine ⟨⟨congrArg Settings.defaultQueries hsetup.settings, hsetup.grammars, hsetup.plugins,
    ⟨hmemo, ?_⟩, hsetup.catalog, hsession, ?_⟩, hsetup.root,
    congrArg Settings.extensions hsetup.settings, rfl, rfl⟩
  · show Memo.Fresh _ (after parser (new root settings) (registrations steps)).memo
    rw [hblank.memo]
    exact Memo.fresh_nil _
  · show Memo.Fresh _ (after parser (new root settings) (registrations steps)).session.memo
    rw [hblank.session]
    exact Memo.fresh_nil _

/-! ## §5. The main result. -/

/-- After a run, the results that were kept make no difference to the next act. -/
theorem perform_after_clearStore {parser : Parser} {root : Option String} {settings : Settings}
    {steps : Steps} (hsteps : ∀ step ∈ steps, step.2.OnlyCompiles) {disk : Files.Disk} {act : Act}
    (hkeys : KeysApart (askings parser (new root settings) (steps ++ [(disk, act)]))) :
    (perform ⟨disk, parser⟩ (after parser (new root settings) steps) act).1 =
      (perform ⟨disk, parser⟩ (after parser (new root settings) steps).clearStore act).1 := by
  have hasked := askings_append parser [(disk, act)] steps (new root settings)
  obtain ⟨-, hm⟩ := Mirrors.run hkeys (mirrors_new parser _ root settings) hsteps fun q hq => by
    rw [hasked]
    exact List.mem_append_left _ hq
  cases hact : act.isRegistration with
  | true =>
      obtain ⟨language, plugin, rfl⟩ := Act.eq_register hact
      rfl
  | false =>
      obtain ⟨hsame, -⟩ := hm.perform hkeys disk act (Act.onlyCompiles_of_not_registration hact)
        fun r q hr hask => by
          rw [hasked]
          exact List.mem_append_right _ (mem_askings_cons [] hr hask)
      exact hsame.trans (hm.perform_clearStore ⟨disk, parser⟩ act).symm

/-- **Staleness.**  Whatever is done with an engine, it stays current exactly when every act agrees
with what is remembered.  Then every act is answered as on a new engine with the same registrations:
with the results put aside that were kept, and, unless digests collide, with them as well. -/
theorem current_iff_agrees (parser : Parser) (root : Option String) (settings : Settings)
    (steps : Steps) (hsteps : ∀ step ∈ steps, step.2.OnlyCompiles) :
    (StaysCurrent parser (new root settings) steps ↔ AllAgree parser (new root settings) steps) ∧
      (AllAgree parser (new root settings) steps →
        (∀ h act, (perform h (after parser (new root settings) steps).clearStore act).1 =
          (perform h (renewed parser root settings steps) act).1) ∧
        ∀ disk act, KeysApart (askings parser (new root settings) (steps ++ [(disk, act)])) →
          (perform ⟨disk, parser⟩ (after parser (new root settings) steps) act).1 =
            (perform ⟨disk, parser⟩ (renewed parser root settings steps) act).1) := by
  have hiff : StaysCurrent parser (new root settings) steps ↔
      AllAgree parser (new root settings) steps :=
    staysCurrent_iff (new_current root settings) Plugins.builtin_onlyCompile hsteps
  refine ⟨hiff, fun hagree => ?_⟩
  have hblank : (after parser (new root settings) (registrations steps)).Blank :=
    Blank.after_registrations ⟨rfl, rfl, rfl⟩
  have hrenewed : ∀ h act, (perform h (after parser (new root settings) steps).clearStore act).1 =
      (perform h (renewed parser root settings steps) act).1 :=
    (hiff.2 hagree).after.alike_renewed.perform_fst (Memo.indistinguishable_fresh _)
      (after_onlyCompile Plugins.builtin_onlyCompile hsteps) (fun key => Store.find?_of_empty rfl)
      fun key => Store.find?_of_empty hblank.store
  refine ⟨hrenewed, fun disk act hkeys => ?_⟩
  rw [perform_after_clearStore hsteps hkeys]
  exact hrenewed ⟨disk, parser⟩ act

/-- A parser for files that have nothing in them. -/
def bareFile : Parser := fun d source =>
  let kind := if d.grammar.name == "java" then "program" else "module"
  let stop := source.length
  some
    { source := source.toList,
      root := .node { id := 0, kind := kind, named := true, start := stop, stop := stop } [] }

/-- A request for a text in the language called Python. -/
def inPython (source : String) : Request :=
  { path := "a.py", language := some "python", source := some source }

/-- A query is run, then another grammar is put behind the name of the language. -/
def exchange (grammar : Grammar) : Steps :=
  [({}, .runText (inPython "") "(module)"),
    ({}, .register "python"
      { language := "python", extensions := ["py"], grammar := some grammar })]

theorem exchange_onlyCompiles (grammar : Grammar) :
    ∀ step ∈ exchange grammar, step.2.OnlyCompiles := by
  intro step hstep
  simp only [exchange, List.mem_cons, List.not_mem_nil, or_false] at hstep
  rcases hstep with rfl | rfl
  · trivial
  · exact fun p => .pure []

/-- The grammar that is behind the name already agrees with what is remembered. -/
theorem exchange_python_allAgree : AllAgree bareFile (new none {}) (exchange Grammar.python) := by
  have hgrown := (runText_grows ⟨{}, bareFile⟩ (new none {}) (inPython "") "(module)").1
  obtain ⟨hsession, hmemo⟩ := current_iff.1 ((new_current none {}).grown hgrown)
  have hname : Text.lowercase "python" = "python" := by decide +kernel
  refine ⟨trivial, ?_, trivial⟩
  rintro _ ⟨⟩ query c hfound
  rw [← hgrown.grammars] at hsession hmemo
  rw [hname] at hfound
  rcases hfound with hfound | hfound
  · exact hsession "python" query c Grammar.python hfound (by decide +kernel)
  · exact hmemo "python" query c Grammar.python hfound (by decide +kernel)

/-- Putting the same grammar behind the name does no harm to a query of the catalog. -/
theorem exchange_python_answers :
    (∀ step ∈ exchange Grammar.python, step.2.OnlyCompiles) ∧
      AllAgree bareFile (new none {}) (exchange Grammar.python) ∧
      (perform ⟨{}, bareFile⟩ (after bareFile (new none {}) (exchange Grammar.python))
          (.runNamed (inPython "") "functions")).1 =
        (perform ⟨{}, bareFile⟩ (renewed bareFile none {} (exchange Grammar.python))
          (.runNamed (inPython "") "functions")).1 := by
  let q : Asking :=
    { request := queryRequest (inPython "") "functions", path := "a.py", source := "",
      language := "python" }
  have hasked : askings bareFile (new none {}) (exchange Grammar.python ++
      [(({} : Files.Disk), .runNamed (inPython "") "functions")]) = [q] := by
    decide +kernel
  have hfits : q.fingerprint.Fits :=
    Fingerprint.ofRequest_fits q.content (by decide) (by decide) (by rintro _ ⟨⟩; decide)
      (by decide)
  have hkeys := keysApart_of_one hfits (fun a ha => List.mem_singleton.1 ha)
  rw [← hasked] at hkeys
  have hcurrent := current_iff_agrees bareFile none {} (exchange Grammar.python)
    (exchange_onlyCompiles _)
  exact ⟨exchange_onlyCompiles _, exchange_python_allAgree,
    (hcurrent.2 exchange_python_allAgree).2 {} _ hkeys⟩

/-- **A stale query.**  After Java's grammar has been put behind the name, a query for a kind of
node that it does not have still runs; a new engine with the same registration refuses it. -/
theorem stale_module_query :
    (runText ⟨{}, bareFile⟩ (after bareFile (new none {}) (exchange Grammar.java))
        (inPython "\n") "(module)").1.toOption.map Outcome.error? = some none ∧
      (runText ⟨{}, bareFile⟩ (renewed bareFile none {} (exchange Grammar.java))
        (inPython "\n") "(module)").1.toOption.map Outcome.error?
        = some (some "invalid query for python: Query error at 1:2. Invalid node type module") := by
  decide +kernel

end Engine

end CodeSurvey
