/-
  What a cleanup gives up.

  The first cleanup of an engine empties its store, forgets its compiled queries and drops its
  timings.  The engine can be used after that, but it counts as closed, and on a closed engine a
  cleanup does nothing.  So what is left behind after the first cleanup stays:

      every analysis is measured, and nothing but a cleanup drops timings      (`analyze_left`)
      a query text that runs is compiled, and compiled queries are remembered  (`runText_memo`)
      everything else leaves nothing behind                               (`Released.perform`)

  Main result, `released_by_cleanup_iff`: a cleanup leaves an engine with nothing kept exactly if,
  since every cleanup before it, nothing was done that leaves something behind.
-/
import CodeSurvey.Proofs.Transparency

namespace CodeSurvey.Engine

open Analysis Extract Syntax Query

/-! ## §1. Nothing kept, something left. -/

/-- The store is empty and its counts are zero, no compiled query is remembered and nothing was
measured. -/
structure Released (e : Engine) : Prop where
  entries : e.store.entries = []
  order : e.store.order = []
  hits : e.store.hits = 0
  misses : e.store.misses = 0
  compiled : e.session.memo = []
  timings : e.timings = []

/-- Something was measured, or a compiled query is remembered. -/
def Left (e : Engine) : Prop := e.timings ≠ [] ∨ e.session.memo ≠ []

theorem Left.not_released {e : Engine} (h : e.Left) : ¬ e.Released := fun hreleased =>
  h.elim (fun hne => hne hreleased.timings) fun hne => hne hreleased.compiled

/-- Is this a cleanup? -/
def Act.isCleanup : Act → Bool
  | .cleanup => true
  | _ => false

theorem Act.eq_cleanup {act : Act} (h : act.isCleanup = true) : act = .cleanup := by
  cases act with
  | cleanup => rfl
  | _ => cases h

/-- Does an act, answered like this, leave something behind?  Analyses do, queries by name among
them, and query texts that run. -/
def Act.leaves : Act → Answer → Bool
  | .analyze _, _ => true
  | .analyzeCode _ _ _, _ => true
  | .runNamed _ _, _ => true
  | .runText _ _, .outcome (.ok outcome) => outcome.success
  | _, _ => false

/-- Does a run leave nothing behind? -/
def idle (parser : Parser) (e : Engine) : Steps → Bool
  | [] => true
  | (disk, act) :: steps =>
    !act.leaves (perform ⟨disk, parser⟩ e act).1
      && idle parser (perform ⟨disk, parser⟩ e act).2 steps

/-! ## §2. Timings. -/

theorem measured_timings (e : Engine) (name : String) : (e.measured name).timings ≠ [] :=
  NameMap.insert_ne_nil _ _ _

section Timings

variable {e : Engine}

theorem findElements_timings (hne : e.timings ≠ []) (r : Request) (plugin : Plugin) (p : Parsed) :
    (e.findElements r plugin p).2.timings ≠ [] := by
  unfold findElements
  split
  · dsimp only
    rcases (plugin.extract p).run (e.measured "extract").memo with ⟨_ | _, _⟩
    · exact measured_timings e "extract"
    · exact measured_timings e "extract"
  · exact hne

theorem runQueries_timings (hne : e.timings ≠ []) (r : Request) (names : List String)
    (p : Parsed) : (e.runQueries r names p).2.timings ≠ [] := by
  unfold runQueries
  split
  · exact measured_timings e "queries"
  · exact hne

theorem survey_timings (h : Host) (e : Engine) (r : Request) (path source language : String) :
    (survey h e r path source language).2.timings ≠ [] := by
  unfold survey
  dsimp only
  cases (e.measured "parse").grammars.parse h.parser source language path with
  | error f => exact measured_timings e "parse"
  | ok p =>
      dsimp only
      have hfound := findElements_timings (measured_timings e "parse") r
        (e.plugins.resolve language) p
      rcases hfind : (e.measured "parse").findElements r (e.plugins.resolve language) p with
        ⟨f | elements, e'⟩
      · rw [hfind] at hfound
        exact hfound
      · rw [hfind] at hfound
        exact runQueries_timings hfound r _ p

theorem answer_timings (hne : e.timings ≠ []) (q : Asking) (h : Host) :
    (q.answer h e).2.timings ≠ [] := by
  have hsurvey := survey_timings h e.missed q.request q.path q.source q.language
  cases hstore : e.store.find? q.key with
  | some result =>
      rw [answer_of_hit hstore]
      exact hne
  | none =>
      cases hfound : (q.survey h e.missed).1 with
      | error f =>
          rw [answer_of_failed hstore hfound]
          exact hsurvey
      | ok findings =>
          rw [answer_of_found hstore hfound]
          exact hsurvey

/-- **An analysis is always measured**, also one that is refused. -/
theorem analyze_left (h : Host) (e : Engine) (r : Request) : (analyze h e r).2.Left := by
  have hasked : (e.asked h.disk).timings ≠ [] := measured_timings (e.opened h.disk) "analyze"
  refine .inl ?_
  rw [analyze_eq]
  rcases ask h e r with result | q
  · exact hasked
  · exact answer_timings hasked q h

end Timings

/-! ## §3. Compiled queries. -/

/-- A query that runs is remembered; one that does not leaves the memory as it was. -/
theorem runOn_memo (s : Session) (t : Session.Target) (name : String)
    (query : Except String String) :
    ((s.runOn t name query).1.success = true ∧ (s.runOn t name query).2.memo ≠ []) ∨
      ((s.runOn t name query).1.success = false ∧ (s.runOn t name query).2.memo = s.memo) := by
  rcases Session.runOn_cases t name query with ⟨message, hrefused⟩ | ⟨tree, d, text, -, hrun⟩
  · rw [hrefused]
    exact .inr ⟨rfl, rfl⟩
  · rw [hrun, Session.finish_memo]
    rcases Memo.compile_cases s.memo d text with
      ⟨c, hfound, heq⟩ | ⟨fault, -, -, heq⟩ | ⟨c, -, -, heq⟩
    · -- what is found is remembered already
      rw [heq]
      refine .inl ⟨rfl, fun hnil => ?_⟩
      rw [show s.memo = [] from hnil] at hfound
      cases hfound
    · rw [heq]
      exact .inr ⟨rfl, rfl⟩
    · rw [heq]
      exact .inl ⟨rfl, List.cons_ne_nil _ _⟩

/-- The outcome of a query text and what the session remembers after it. -/
theorem runText_memo (h : Host) (e : Engine) (r : Request) (query : String) :
    ((Act.runText r query).leaves (.outcome (runText h e r query).1) = true ∧
        (runText h e r query).2.session.memo ≠ []) ∨
      ((Act.runText r query).leaves (.outcome (runText h e r query).1) = false ∧
        (runText h e r query).2.session.memo = e.session.memo) := by
  rw [runText_eq]
  rcases ask h e r with known | q
  · rcases known with f | result
    · exact .inr ⟨rfl, rfl⟩
    · exact .inr ⟨rfl, rfl⟩
  · dsimp only
    cases e.grammars.parse h.parser q.source q.language q.path with
    | error f => exact .inr ⟨rfl, rfl⟩
    | ok p => exact runOn_memo e.session (target p) customName _

theorem runText_frame (h : Host) (e : Engine) (r : Request) (query : String) :
    ∃ session, (runText h e r query).2 = { e.opened h.disk with session := session } := by
  rw [runText_eq]
  rcases ask h e r with known | q
  · rcases known with f | result
    · exact ⟨e.session, rfl⟩
    · exact ⟨e.session, rfl⟩
  · dsimp only
    cases e.grammars.parse h.parser q.source q.language q.path with
    | error f => exact ⟨e.session, rfl⟩
    | ok p => exact ⟨_, rfl⟩

/-! ## §4. Closed engines. -/

theorem analyze_closed (h : Host) (e : Engine) (r : Request) :
    (analyze h e r).2.closed = e.closed := by
  rw [analyze_eq]
  rcases ask h e r with result | q
  · rfl
  · obtain ⟨timings, memo, session, store, hframe⟩ := answer_frame q h (e.asked h.disk)
    rw [hframe]
    rfl

/-- A cleanup closes an engine, and nothing opens it again. -/
theorem perform_closed (h : Host) (e : Engine) (act : Act) :
    (perform h e act).2.closed = (e.closed || act.isCleanup) := by
  cases act with
  | analyze r => simp [perform, analyze_closed, Act.isCleanup]
  | analyzeCode code language name => simp [perform, analyzeCode, analyze_closed, Act.isCleanup]
  | runNamed r name => simp [perform, runNamed_eq, analyze_closed, Act.isCleanup]
  | runText r query =>
      obtain ⟨session, hframe⟩ := runText_frame h e r query
      simp [perform, hframe, opened, Act.isCleanup]
  | cleanup =>
      show e.cleanup.closed = _
      unfold cleanup
      split
      · rename_i hclosed
        rw [hclosed]
        rfl
      · simp [Act.isCleanup]
  | _ => simp [perform, clearStore, register, resetQueryCounts, Act.isCleanup]

theorem closed_after (parser : Parser) : ∀ (steps : Steps) (e : Engine),
    (after parser e steps).closed = (e.closed || steps.any fun step => step.2.isCleanup) := by
  intro steps
  induction steps with
  | nil => simp [after]
  | cons step steps ih =>
      intro e
      rw [after, ih, perform_closed, List.any_cons, Bool.or_assoc]

/-! ## §5. Acts on a closed engine. -/

section Closed

variable {e : Engine}

theorem cleanup_of_closed (hclosed : e.closed = true) : e.cleanup = e := if_pos hclosed

theorem cleanup_released (hopen : e.closed = false) : e.cleanup.Released := by
  unfold cleanup
  rw [hopen]
  exact ⟨rfl, rfl, rfl, rfl, rfl, rfl⟩

/-- What leaves something behind does so on every engine. -/
theorem perform_left_of_leaves (h : Host) (e : Engine) {act : Act}
    (hleaves : act.leaves (perform h e act).1 = true) : (perform h e act).2.Left := by
  cases act with
  | analyze r => exact analyze_left h e r
  | analyzeCode code language name => exact analyze_left h e _
  | runNamed r name =>
      simp only [perform, runNamed_eq]
      exact analyze_left h e _
  | runText r query =>
      rcases runText_memo h e r query with ⟨-, hmemo⟩ | ⟨hnot, -⟩
      · exact .inr hmemo
      · exact absurd hleaves (Bool.eq_false_iff.1 hnot)
  | _ => cases hleaves

/-- **What is left on a closed engine stays.** -/
theorem Left.perform (hleft : e.Left) (hclosed : e.closed = true) (h : Host) (act : Act) :
    (Engine.perform h e act).2.Left := by
  cases act with
  | analyze r => exact analyze_left h e r
  | analyzeCode code language name => exact analyze_left h e _
  | runNamed r name =>
      simp only [Engine.perform, runNamed_eq]
      exact analyze_left h e _
  | runText r query =>
      obtain ⟨session, hframe⟩ := runText_frame h e r query
      refine hleft.imp (fun htimings => ?_) fun hmemo => ?_
      · simp only [Engine.perform, hframe]
        exact htimings
      · rcases runText_memo h e r query with ⟨-, hne⟩ | ⟨-, heq⟩
        · exact hne
        · exact fun hnil => hmemo (heq.symm.trans hnil)
  | cleanup =>
      simp only [Engine.perform, cleanup_of_closed hclosed]
      exact hleft
  | _ => exact hleft

/-- **What leaves nothing behind** leaves an engine with nothing kept as it is. -/
theorem Released.perform (hreleased : e.Released) (h : Host) {act : Act}
    (hidle : act.leaves (Engine.perform h e act).1 = false) :
    (Engine.perform h e act).2.Released := by
  cases act with
  | analyze r => cases hidle
  | analyzeCode code language name => cases hidle
  | runNamed r name => cases hidle
  | runText r query =>
      obtain ⟨session, hframe⟩ := runText_frame h e r query
      rcases runText_memo h e r query with ⟨hleaves, -⟩ | ⟨-, hmemo⟩
      · exact absurd (hidle.symm.trans hleaves) Bool.false_ne_true
      · simp only [Engine.perform, hframe] at hmemo ⊢
        exact ⟨hreleased.entries, hreleased.order, hreleased.hits, hreleased.misses,
          hmemo.trans hreleased.compiled, hreleased.timings⟩
  | clearStore => exact ⟨rfl, rfl, rfl, rfl, hreleased.compiled, hreleased.timings⟩
  | register language plugin => exact ⟨rfl, rfl, rfl, rfl, hreleased.compiled, hreleased.timings⟩
  | cleanup =>
      simp only [Engine.perform, cleanup]
      split
      · exact hreleased
      · exact ⟨rfl, rfl, rfl, rfl, rfl, rfl⟩
  | _ =>
      exact ⟨hreleased.entries, hreleased.order, hreleased.hits, hreleased.misses,
        hreleased.compiled, hreleased.timings⟩

end Closed

/-! ## §6. Runs. -/

theorem Left.after (parser : Parser) : ∀ {steps : Steps} {e : Engine}, e.Left →
    e.closed = true → (Engine.after parser e steps).Left := by
  intro steps
  induction steps with
  | nil => exact fun hleft _ => hleft
  | cons step steps ih =>
      intro e hleft hclosed
      refine ih (hleft.perform hclosed _ step.2) ?_
      rw [perform_closed, hclosed]
      rfl

/-- A run on a closed engine that leaves something behind leaves it for good. -/
theorem left_after_of_not_idle (parser : Parser) : ∀ {steps : Steps} {e : Engine},
    e.closed = true → idle parser e steps = false → (after parser e steps).Left := by
  intro steps
  induction steps with
  | nil => rintro e - ⟨⟩
  | cons step steps ih =>
      obtain ⟨disk, act⟩ := step
      intro e hclosed hidle
      have hstill : (perform ⟨disk, parser⟩ e act).2.closed = true := by
        rw [perform_closed, hclosed]
        rfl
      rw [idle, Bool.and_eq_false_iff, Bool.not_eq_false'] at hidle
      rcases hidle with hleaves | hrest
      · exact (perform_left_of_leaves _ e hleaves).after parser hstill
      · exact ih hstill hrest

theorem Released.after (parser : Parser) : ∀ {steps : Steps} {e : Engine}, e.Released →
    idle parser e steps = true → (Engine.after parser e steps).Released := by
  intro steps
  induction steps with
  | nil => exact fun hreleased _ => hreleased
  | cons step steps ih =>
      obtain ⟨disk, act⟩ := step
      intro e hreleased hidle
      rw [idle, Bool.and_eq_true, Bool.not_eq_true'] at hidle
      exact ih (hreleased.perform _ hidle.1) hidle.2

theorem after_append (parser : Parser) (more : Steps) : ∀ (steps : Steps) (e : Engine),
    after parser e (steps ++ more) = after parser (after parser e steps) more := by
  intro steps
  induction steps with
  | nil => exact fun _ => rfl
  | cons step steps ih => exact fun e => ih _

/-- **A cleanup gives up everything exactly if nothing was left behind since an earlier one.**
Whatever was done with an engine, after a cleanup its store is empty with counts of zero, no
compiled query is remembered and nothing counts as measured, if and only if after each cleanup
before it there was no analysis, no query by name and no query text that ran. -/
theorem released_by_cleanup_iff (parser : Parser) (root : Option String) (settings : Settings)
    (steps : Steps) :
    (after parser (new root settings) steps).cleanup.Released ↔
      ∀ before disk since, steps = before ++ (disk, .cleanup) :: since →
        idle parser (after parser (new root settings) (before ++ [(disk, .cleanup)])) since
          = true := by
  generalize hstart : new root settings = start
  have hopen : start.closed = false := by rw [← hstart]; rfl
  -- at every cleanup the run splits in two, and the second part begins closed
  have hsplit : ∀ before disk since, steps = before ++ (disk, .cleanup) :: since →
      after parser start steps
        = after parser (after parser start (before ++ [(disk, .cleanup)])) since ∧
      (after parser start (before ++ [(disk, .cleanup)])).closed = true := by
    rintro before disk since rfl
    rw [← after_append, closed_after, List.append_assoc]
    simp [Act.isCleanup]
  constructor
  · intro hreleased before disk since heq
    obtain ⟨hafter, hclosed⟩ := hsplit before disk since heq
    have hstill : (after parser start steps).closed = true := by
      rw [closed_after, heq]
      simp [Act.isCleanup]
    rw [cleanup_of_closed hstill, hafter] at hreleased
    rw [← Bool.not_eq_false]
    exact fun hidle => (left_after_of_not_idle parser hclosed hidle).not_released hreleased
  · intro hidle
    cases hclosed : (after parser start steps).closed with
    | false => exact cleanup_released hclosed
    | true =>
        rw [cleanup_of_closed hclosed]
        rw [closed_after, hopen, Bool.false_or, List.any_eq_true, ← List.find?_isSome,
          Option.isSome_iff_exists] at hclosed
        obtain ⟨⟨disk, act⟩, hfind⟩ := hclosed
        obtain ⟨hact, before, since, heq, hbefore⟩ := List.find?_eq_some_iff_append.1 hfind
        obtain rfl : act = .cleanup := Act.eq_cleanup hact
        -- the first cleanup finds the engine open, so it gives up everything
        have hfirst : (after parser start (before ++ [(disk, .cleanup)])).Released := by
          rw [after_append]
          refine cleanup_released ?_
          rw [closed_after, hopen, Bool.false_or, List.any_eq_false]
          exact fun step hstep => by simpa using hbefore step hstep
        rw [(hsplit before disk since heq).1]
        exact hfirst.after parser (hidle before disk since heq)

/-- A request for a text in C and the functions in it. -/
def countedC : Request :=
  { path := "snippet", language := some "c", source := some "x", queries := some ["functions"] }

/-- A text in C is analysed, with a query, before and after a first cleanup. -/
def usedAgain : Steps :=
  [({}, .analyze countedC), ({}, .cleanup), ({}, .analyze countedC)]

/-- The second cleanup leaves the result, its miss, the compiled query and the timings. -/
theorem second_cleanup_keeps :
    let e := (after emptyUnit (new none {}) usedAgain).cleanup
    ¬ e.Released ∧ (e.store.size, e.store.misses, e.session.memo.length, e.timings.counts)
      = (1, 1, 1, [("analyze", 1), ("extract", 1), ("parse", 1), ("queries", 1)]) := by
  intro e
  have htold : (e.store.size, e.store.misses, e.session.memo.length, e.timings.counts)
      = (1, 1, 1, [("analyze", 1), ("extract", 1), ("parse", 1), ("queries", 1)]) := by
    decide +kernel
  refine ⟨fun hreleased => ?_, htold⟩
  have hsize : e.store.size = 0 := congrArg List.length hreleased.entries
  rw [hsize] at htold
  cases htold

end CodeSurvey.Engine
