/-
  A text that comes with a request.

  A request may bring the text that is to be taken for the file.  If it brings what the file holds,
  it asks for the same as a request without one (`ask_override`): under the same key, so that the
  store and the survey cannot tell the two apart.  An engine keeps what has findings, and the entry
  that was set last is never given up (`Store.find?_set`), so the second of the two is answered from
  the store if the first has found something.

  Main result, `override_eq_file`: an analysis and a query text come to the same with the text as
  with the file, on every engine; and of two analyses in a row, the second is answered from the
  store exactly if the first has findings.
-/
import CodeSurvey.Proofs.Mapping
import CodeSurvey.Proofs.Recency

namespace CodeSurvey

open Analysis Extract Syntax Query

/-! ## §1. The entry that was set last. -/

namespace Store

variable {α : Type} {s : Store α} {past : List (Event α)}

/-- What was set last is kept. -/
theorem find?_set (h : Accounted s past) (hon : s.enabled = true) (key : String) (value : α) :
    (s.set key value).find? key = some value := by
  have hon' : (s.set key value).enabled = true := (perform_setup s (.set key value)).2.trans hon
  -- nothing was set since
  have hcapacity : (([] : List (String × α)).map Prod.fst).dedup.length
      < (s.set key value).capacity := (h.set key value).positive
  have hkept := ((h.on hon).set hon h.positive key value).find?_entries key
  rw [find?, if_pos hon', hkept, remembered, List.takeWhile_cons_of_neg (by simp), if_pos hcapacity,
    lookup_cons_ite, if_pos rfl]

end Store

/-- The request with a text that is to be taken for the file. -/
def Analysis.Request.overridden (r : Request) (text : String) : Request :=
  { r with source := some text }

namespace Engine

/-- What an answer does with the store: a look-up, and perhaps a setting. -/
theorem answer_history (q : Asking) (h : Host) (e : Engine) :
    ∃ acts, (q.answer h e).2.store = e.store.after acts := by
  have hleft := survey_store q h e.missed
  cases hfind : e.store.find? q.key with
  | some result =>
      refine ⟨[.get q.key], ?_⟩
      rw [answer_of_hit hfind]
      show _ = (e.store.get q.key).2
      rw [Store.get_of_some hfind]
  | none =>
      have hget : (e.store.get q.key).2 = e.missed.store := by
        rw [Store.get_of_none hfind]
        rfl
      cases hfound : (q.survey h e.missed).1 with
      | error f =>
          refine ⟨[.get q.key], ?_⟩
          rw [answer_of_failed hfind hfound, hleft]
          exact hget.symm
      | ok findings =>
          refine ⟨[.get q.key, .set q.key (q.result (.ok findings))], ?_⟩
          rw [answer_of_found hfind hfound, hleft]
          show _ = (e.store.get q.key).2.set _ _
          rw [hget]

theorem analyze_history (h : Host) (e : Engine) (r : Request) :
    ∃ acts, (analyze h e r).2.store = e.store.after acts := by
  rw [analyze_eq]
  rcases ask h e r with known | q
  · exact ⟨[], rfl⟩
  · exact answer_history q h (e.asked h.disk)

/-- Whatever is done with an engine, its store goes through look-ups, settings and clearings. -/
theorem perform_history (h : Host) (e : Engine) (act : Act) :
    ∃ acts, (perform h e act).2.store = e.store.after acts := by
  cases act with
  | analyze r => exact analyze_history h e r
  | analyzeCode code language name => exact analyze_history h e _
  | runNamed r name =>
      simp only [perform, runNamed_eq]
      exact analyze_history h e _
  | runText r query => exact ⟨[], (runText_grows h e r query).2⟩
  | clearStore => exact ⟨[.clear], rfl⟩
  | register language plugin => exact ⟨[.clear], rfl⟩
  | resetQueryCounts => exact ⟨[], rfl⟩
  | cleanup =>
      show ∃ acts, e.cleanup.store = e.store.after acts
      unfold cleanup
      split
      · exact ⟨[], rfl⟩
      · exact ⟨[.clear], rfl⟩
  | share more => exact ⟨[], rfl⟩

/-- In every state that an engine can get into, the store is accounted for by what happened. -/
theorem Reachable.accounted {e : Engine} (he : Reachable e) :
    ∃ past, Store.Accounted e.store past := by
  induction he with
  | new root settings => exact ⟨[], Store.accounted_new _ _⟩
  | @perform e he h act ih =>
      obtain ⟨past, hpast⟩ := ih
      obtain ⟨acts, hacts⟩ := perform_history h e act
      rw [hacts]
      exact ⟨_, hpast.after⟩

/-! ## §2. Requests with a text. -/

/-- The file of a request, as octets: the request brings no text, and its path may be used and leads
to a file. -/
structure Reads (h : Host) (e : Engine) (r : Request) (bytes : List UInt8) : Prop where
  source : r.source = none
  file : ∃ path, (e.checkPath h.disk r.path).1 = .ok path ∧ h.disk.isThere path = true ∧
    h.disk.read path = .ok bytes

section Override

variable {h : Host} {e : Engine} {r : Request} {bytes : List UInt8}

/-- A text that is what the file holds is asked for like the file. -/
theorem ask_override (hreads : Reads h e r bytes) :
    ask h e (r.overridden (Text.decodeLossy bytes)) = (ask h e r).map fun q =>
      { q with request := r.overridden (Text.decodeLossy bytes) } := by
  obtain ⟨path, hpath, hthere, hread⟩ := hreads.file
  have hfile : loadSource h.disk r path = .ok (.ok (Text.decodeLossy bytes)) := by
    unfold loadSource
    rw [hreads.source]
    dsimp only
    rw [if_pos hthere, hread]
  have hpath' : (e.checkPath h.disk (r.overridden (Text.decodeLossy bytes)).path).1 = .ok path :=
    hpath
  have htext : loadSource h.disk (r.overridden (Text.decodeLossy bytes)) path
      = .ok (.ok (Text.decodeLossy bytes)) := rfl
  have hlanguage : e.resolveLanguage (r.overridden (Text.decodeLossy bytes)) path
      = e.resolveLanguage r path := rfl
  unfold ask
  rw [hpath, hpath']
  dsimp only
  rw [hfile, htext]
  dsimp only
  rw [hlanguage]
  cases e.resolveLanguage r path with
  | error f => rfl
  | ok language => rfl

/-- Requests that ask the same have one outcome for a query text. -/
theorem runText_eq_of_ask {r' : Request}
    (hask : ask h e r' = (ask h e r).map fun q => { q with request := r' }) (query : String) :
    runText h e r' query = runText h e r query := by
  rw [runText_eq, runText_eq, hask]
  rcases ask h e r with (f | known) | q
  · rfl
  · rfl
  · rfl

/-- The key tells no more than what a survey reads. -/
theorem Asking.Same.key_eq {a b : Asking} (hab : a.Same b) : a.key = b.key := by
  show keyOf a.request.options a.path a.source a.language
    = keyOf b.request.options b.path b.source b.language
  rw [hab.path, hab.source, hab.language, hab.options]

end Override

/-! ## §3. Hits. -/

section Hits

variable {h : Host} {e : Engine} {r : Request} {past : List (Store.Event Result)}

/-- The store answers the request. -/
def IsHit (h : Host) (e : Engine) (r : Request) : Prop :=
  (analyze h e r).2.store.hits = e.store.hits + 1

theorem hits_answer_of_miss {q : Asking} (hmiss : e.store.find? q.key = none) :
    (q.answer h e).2.store.hits = e.store.hits := by
  have hleft := survey_store q h e.missed
  cases hfound : (q.survey h e.missed).1 with
  | error f =>
      rw [answer_of_failed hmiss hfound, hleft]
      rfl
  | ok findings =>
      rw [answer_of_found hmiss hfound, hleft]
      exact (Store.set_counts _ _ _).1

theorem isHit_iff :
    IsHit h e r ↔ ∃ q result, ask h e r = .ok q ∧ e.store.find? q.key = some result := by
  unfold IsHit
  rw [analyze_eq]
  rcases ask h e r with known | q
  · refine iff_of_false (fun hhits => ?_) (by rintro ⟨q, result, ⟨⟩, -⟩)
    exact absurd hhits (Nat.ne_of_lt (Nat.lt_succ_self _))
  · cases hfind : e.store.find? q.key with
    | some result =>
        refine iff_of_true ?_ ⟨q, result, rfl, hfind⟩
        show (q.answer h (e.asked h.disk)).2.store.hits = _
        rw [answer_of_hit (e := e.asked h.disk) hfind]
        rfl
    | none =>
        refine iff_of_false (fun hhits => ?_) ?_
        · have hsame := hits_answer_of_miss (h := h) (e := e.asked h.disk) hfind
          exact absurd (hsame.symm.trans hhits) (Nat.ne_of_lt (Nat.lt_succ_self _))
        · rintro ⟨q', result, ⟨⟩, hsome⟩
          rw [hfind] at hsome
          cases hsome

/-- **What an analysis leaves in the store** for what it was asked: its result, if that has
findings, and else nothing. -/
theorem find?_after_answer (hpast : Store.Accounted e.store past) (hkept : HoldsFindings e.store)
    (hon : e.store.enabled = true) (q : Asking) :
    (q.answer h e).2.store.find? q.key
      = if (q.answer h e).1.success then some (q.answer h e).1 else none := by
  have hleft := survey_store q h e.missed
  cases hfind : e.store.find? q.key with
  | some result =>
      have hsuccess : result.success = true := hkept _ (Store.mem_of_find? hfind)
      rw [answer_of_hit hfind, if_pos hsuccess]
      exact hfind
  | none =>
      cases hfound : (q.survey h e.missed).1 with
      | error f =>
          rw [answer_of_failed hfind hfound, hleft]
          exact hfind
      | ok findings =>
          have hmissed := hpast.get q.key
          rw [Store.get_of_none hfind] at hmissed
          rw [answer_of_found hfind hfound, hleft]
          exact Store.find?_set hmissed hon q.key _

/-- **The same request once more** is answered from the store if the first answer has findings. -/
theorem isHit_again_iff (hpast : Store.Accounted e.store past) (hkept : HoldsFindings e.store)
    (hon : e.store.enabled = true) :
    IsHit h (analyze h e r).2 r ↔
      ∃ result, (analyze h e r).1 = .ok result ∧ result.success = true := by
  rw [isHit_iff, ask_analyze, analyze_eq]
  rcases hask : ask h e r with (f | known) | q
  · exact iff_of_false (by rintro ⟨q, result, ⟨⟩, -⟩) (by rintro ⟨result, ⟨⟩, -⟩)
  · obtain ⟨path, message, -, -, rfl⟩ := ask_eq_known_iff.1 hask
    exact iff_of_false (by rintro ⟨q, result, ⟨⟩, -⟩) (by rintro ⟨result, ⟨⟩, ⟨⟩⟩)
  · have hleft := find?_after_answer (e := e.asked h.disk) (h := h) hpast hkept hon q
    dsimp only
    constructor
    · rintro ⟨q', result, ⟨⟩, hfind⟩
      rw [hleft] at hfind
      refine ⟨_, rfl, ?_⟩
      by_contra hfailed
      rw [if_neg hfailed] at hfind
      cases hfind
    · rintro ⟨result, ⟨⟩, hsuccess⟩
      rw [if_pos hsuccess] at hleft
      exact ⟨q, _, rfl, hleft⟩

/-- The same request once more gets the same answer: from the store, or because plugins that only
compile come to the same as before. -/
theorem analyze_again (hpast : Store.Accounted e.store past) (hkept : HoldsFindings e.store)
    (hon : e.store.enabled = true)
    (hsame : IsHit h (analyze h e r).2 r ∨ e.plugins.OnlyCompile) :
    (analyze h (analyze h e r).2 r).1 = (analyze h e r).1 := by
  rw [isHit_again_iff hpast hkept hon] at hsame
  have hask := ask_analyze h e r r
  rw [analyze_eq h e r] at hask hsame ⊢
  rcases hq : ask h e r with known | q
  · rw [hq] at hask hsame
    dsimp only at hask ⊢
    rw [analyze_eq, hask]
  · rw [hq] at hask hsame
    dsimp only at hask hsame ⊢
    rw [analyze_eq, hask]
    refine congrArg Except.ok ?_
    have hleft := find?_after_answer (e := e.asked h.disk) (h := h) hpast hkept hon q
    by_cases hsuccess : (q.answer h (e.asked h.disk)).1.success = true
    · rw [if_pos hsuccess] at hleft
      rw [answer_of_hit (e := Engine.asked _ _) hleft]
    · have hplugins : e.plugins.OnlyCompile := by
        refine hsame.resolve_left ?_
        rintro ⟨result, ⟨⟩, h⟩
        exact hsuccess h
      have hmiss : (e.asked h.disk).store.find? q.key = none := by
        cases hfind : (e.asked h.disk).store.find? q.key with
        | none => rfl
        | some result =>
            rw [answer_of_hit hfind] at hsuccess
            exact absurd (hkept _ (Store.mem_of_find? hfind)) hsuccess
      have hgrown := answer_grows (e := e.asked h.disk) hplugins q h
      rw [if_neg hsuccess] at hleft
      exact answer_of_grown (e := e.asked h.disk) hplugins
        (hgrown.unobserved _ (Engine.store _) _) hmiss hleft

end Hits

/-! ## §4. The text and the file. -/

/-- **A text in place of the file.**  A request that brings what its file holds asks under the same
key as one that leaves it to the file; an analysis and a query text come to the same and leave the
same engine.  Of the two analyses in a row, whichever comes first, the second is answered from the
store exactly if the first has findings; then it has the same answer, as it has whenever the plugins
only compile. -/
theorem override_eq_file {e : Engine} (he : Reachable e) (h : Host) (r : Request)
    (bytes : List UInt8) (hreads : Reads h e r bytes) :
    let r' := r.overridden (Text.decodeLossy bytes)
    (ask h e r').map Asking.key = (ask h e r).map Asking.key ∧
      analyze h e r' = analyze h e r ∧
      (∀ query, runText h e r' query = runText h e r query) ∧
      (e.store.enabled = true → ∀ first ∈ [r, r'], ∀ second ∈ [r, r'],
        let e' := (analyze h e first).2
        (IsHit h e' second ↔
          ∃ result, (analyze h e first).1 = .ok result ∧ result.success = true) ∧
        (IsHit h e' second ∨ e.plugins.OnlyCompile →
          (analyze h e' second).1 = (analyze h e first).1)) := by
  intro r'
  have hask := ask_override hreads
  have hoptions : r'.options = r.options := rfl
  have hsame : analyze h e r' = analyze h e r := (analyze_eq_of_ask hoptions hask).symm
  refine ⟨?_, hsame, runText_eq_of_ask hask, fun hon first hfirst second hsecond => ?_⟩
  · rw [hask]
    rcases hq : ask h e r with known | q
    · rfl
    · have hasked : ({ q with request := r' } : Asking).Same q :=
        ⟨rfl, rfl, rfl, (request_of_ask hq).symm ▸ hoptions⟩
      exact congrArg Except.ok hasked.key_eq
  · obtain ⟨past, hpast⟩ := he.accounted
    have hkept := he.holdsFindings
    -- whichever request comes first leaves the same engine, and there the two ask the same again
    have hleft : analyze h e first = analyze h e r := by
      rcases List.mem_pair.1 hfirst with rfl | rfl
      · rfl
      · exact hsame
    have hthen : analyze h (analyze h e r).2 second = analyze h (analyze h e r).2 r := by
      rcases List.mem_pair.1 hsecond with rfl | rfl
      · rfl
      · refine (analyze_eq_of_ask hoptions ?_).symm
        rw [ask_analyze, ask_analyze, hask]
    dsimp only
    unfold IsHit
    rw [hleft, hthen]
    exact ⟨isHit_again_iff hpast hkept hon, analyze_again hpast hkept hon⟩

/-- A disk with one file in the current directory; its first octet is no text. -/
def damagedFile (name : String) : Files.Disk :=
  { entries := [(["w"], .directory), (["w", name], .file [0xff, 0x78])], current := ["w"] }

/-- A file in C is analysed, and then its text. -/
theorem override_of_damaged_file :
    let h : Host := ⟨damagedFile "a.c", emptyUnit⟩
    let e := new none {}
    let r : Request := { path := "a.c" }
    Reads h e r [0xff, 0x78] ∧ IsHit h (analyze h e r).2 (r.overridden "\uFFFDx") := by
  intro h e r
  have htext : Text.decodeLossy [0xff, 0x78] = "\uFFFDx" := by decide +kernel
  have hreads : Reads h e r [0xff, 0x78] :=
    ⟨rfl, .ofText "a.c", by decide +kernel, by decide +kernel, by decide +kernel⟩
  have hsuccess : (analyze h e r).1.toOption.map Result.success = some true := by decide +kernel
  obtain ⟨-, -, -, hhits⟩ := override_eq_file (.new none {}) h r _ hreads
  rw [htext] at hhits
  refine ⟨hreads, (hhits rfl r (by simp) _ (by simp)).1.2 ?_⟩
  cases hresult : (analyze h e r).1 with
  | error f =>
      rw [hresult] at hsuccess
      cases hsuccess
  | ok result =>
      rw [hresult] at hsuccess
      exact ⟨result, rfl, Option.some.inj hsuccess⟩

/-- **A failed analysis is not kept**: a language with a plugin and no grammar. -/
theorem failure_not_kept :
    let h : Host := ⟨damagedFile "a.foo", emptyUnit⟩
    let e := (new none {}).register "foo" { language := "foo", extensions := ["foo"] }
    let r : Request := { path := "a.foo" }
    (e.store.enabled = true ∧ Reads h e r [0xff, 0x78]) ∧
      (analyze h e r).1.toOption.bind Result.error?
        = some "failed to parse foo source: no grammar available" ∧
      ¬IsHit h (analyze h e r).2 (r.overridden (Text.decodeLossy [0xff, 0x78])) := by
  intro h e r
  have hreads : Reads h e r [0xff, 0x78] :=
    ⟨rfl, .ofText "a.foo", by decide +kernel, by decide +kernel, by decide +kernel⟩
  refine ⟨⟨rfl, hreads⟩, by decide +kernel, ?_⟩
  unfold IsHit
  decide +kernel

end Engine

end CodeSurvey
