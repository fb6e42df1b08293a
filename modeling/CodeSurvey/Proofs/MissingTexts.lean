/-
  Filters that miss a text.

  An element without text is taken for one whose text was left out, and a filter that reads texts
  refuses it.  A request for details leaves no text out:

      texts of the result  =  texts that the plugin has found                (`text_trimElement`)

  but a plugin may find an element that has none.  Whatever was analysed before, the elements of a
  result, kept or not, are those that its plugin has found in the tree (`Gathered`).

  Main result, `text_filter_fails_iff`: with details, a filter fails for want of a text exactly if it
  reads texts and a declaration without text was found, and else it answers.  Of the plugins at hand
  such a declaration is a node that spans nothing, or that does not lie between characters.
-/
import CodeSurvey.Proofs.Arrangement
import CodeSurvey.Proofs.Conjunction
import CodeSurvey.Proofs.Offsets
import CodeSurvey.Proofs.QueryPaths

namespace CodeSurvey

open Analysis Extract Syntax Query

/-! ## §1. Filters. -/

namespace Filter

variable {α : Type} {language source : String} {view : α → Subject} {items : List α} {expr : Expr}

theorem missingText?_eq_missing {e : Error}
    (h : expr.missingText? language view items = some e) :
    ∃ clause name, e = .missingText clause name := by
  unfold Expr.missingText? at h
  split at h
  · cases h
    exact ⟨_, _, rfl⟩
  · cases h

/-- **A filter that can be read** misses a text or answers. -/
theorem keep_eq_missing_iff (hparse : Expr.parse source = .ok expr) :
    (∃ clause name, keep language view items source = .error (.missingText clause name)) ↔
      ¬ Answerable expr view items := by
  rw [← missingText?_eq_none_iff (Text.normalized language)]
  unfold keep
  rw [hparse]
  dsimp only
  cases hmissing : expr.missingText? (Text.normalized language) view items with
  | none => simp
  | some e =>
      obtain ⟨clause, name, rfl⟩ := missingText?_eq_missing hmissing
      simp

theorem exists_keep_eq_ok_iff (hparse : Expr.parse source = .ok expr) :
    (∃ kept, keep language view items source = .ok kept) ↔ Answerable expr view items := by
  constructor
  · rintro ⟨kept, hkept⟩
    obtain ⟨expr', hparse', hanswer, -⟩ := keep_eq_ok_iff.1 hkept
    rw [Except.ok.inj (hparse.symm.trans hparse')]
    exact hanswer
  · exact fun hanswer => ⟨_, keep_eq_ok_iff.2 ⟨expr, hparse, hanswer, rfl⟩⟩

end Filter

/-! ## §2. Texts of elements. -/

theorem Syntax.SyntaxTree.text_eq_empty_iff (s : SyntaxTree) (t : Tree) :
    s.text t = "" ↔ t.start = t.stop ∨ ¬ Text.Addressable s.source t.start t.stop := by
  unfold text text?
  cases htext : Text.slice? s.source t.start t.stop with
  | none => simp [Text.slice?_eq_none_iff.1 htext]
  | some text =>
      have hspan : Text.Addressable s.source t.start t.stop :=
        Text.addressable_iff_exists_slice.2 ⟨text, htext⟩
      obtain ⟨before, after, -, hstart, hstop⟩ := Text.slice?_eq_some_iff.1 htext
      have hlength : t.start + Text.byteLength text = t.stop := by
        rw [← hstart, ← hstop, Text.byteLength_append]
      have hempty : String.ofList text = "" ↔ text = [] := String.ofList_eq_empty_iff
      simp only [Option.map_some, Option.getD_some, hempty, hspan, not_true_eq_false, or_false]
      rw [← Text.byteLength_eq_zero_iff]
      omega

/-- **What the plugins at hand find** are nodes of the tree, told with their texts. -/
theorem Extract.Extractor.tells_of_nodes {v : Extractor} (hv : v ∈ Extractor.all) {p : Parsed}
    {memo memo' : Memo} (hmemo : memo.Genuine) {found : List Element}
    (hrun : (v.plugin.extract p).run memo = (.ok found, memo')) :
    ∀ element ∈ found, ∃ n ∈ p.tree.root.nodes, TellsOf p n element := by
  have hsound := Extractor.sound_of_mem hv
  obtain ⟨made, hmade, rfl⟩ := hsound.exists_candidates hrun
  obtain ⟨-, htells, -⟩ := hsound.yields_candidates p memo hmemo made memo' hmade
  intro element helement
  obtain ⟨c, hc, rfl⟩ := List.mem_map.1 helement
  have hmem : c ∈ made :=
    (stablySorted_mergeSort made).mem_iff.1 ((firstOfRepeats_sublist _).subset hc)
  obtain ⟨n, hn, -, htell⟩ := htells c hmem
  exact ⟨n, hn, htell⟩

theorem Extract.TellsOf.text_eq {p : Parsed} {n : Tree} {element : Element}
    (h : TellsOf p n element) : element.text = p.tree.text n := by
  obtain ⟨name, kind, rfl⟩ := h
  rfl

namespace Engine

/-- With details, an element keeps its text. -/
theorem text_trimElement {r : Request} (hdetails : r.details = true) (element : Element) :
    (trimElement r element).text = element.text := by
  unfold trimElement
  rw [if_pos hdetails]
  split
  · rfl
  · unfold Element.withoutComplexity
    split
    · rfl
    · rfl

/-! ## §3. Elements of results. -/

/-- The elements are those that the plugin has found in the tree, each without what was not asked
for. -/
def Gathered (parser : Parser) (e : Engine) (a : Asking) (findings : Findings) : Prop :=
  ∃ p memo memo', e.grammars.parse parser a.source a.language a.path = .ok p ∧
    (elementsWanted a.request (e.plugins.resolve a.language) p).run memo
      = (.ok findings.elements, memo')

section Gathered

variable {parser : Parser} {disk : Files.Disk} {e later : Engine} {a q : Asking}
  {findings : Findings}

theorem Gathered.taught (h : Gathered parser e a findings) (hlater : Taught e later) :
    Gathered parser later a findings := by
  unfold Gathered at h ⊢
  rw [← hlater.grammars, ← hlater.plugins]
  exact h

theorem Gathered.same (h : Gathered parser e a findings) (hsame : a.Same q) :
    Gathered parser e q findings := by
  have hwanted : ∀ plugin p, elementsWanted a.request plugin p = elementsWanted q.request plugin p := by
    intro plugin p
    show elementsWanted a.request.options plugin p = elementsWanted q.request.options plugin p
    rw [hsame.options]
  unfold Gathered at h ⊢
  simp only [← hsame.source, ← hsame.language, ← hsame.path, ← hwanted]
  exact h

theorem gathered_of_survey (hok : (q.survey ⟨disk, parser⟩ e).1 = .ok findings) :
    Gathered parser (q.survey ⟨disk, parser⟩ e).2 q findings := by
  obtain ⟨p, elements, memo, timings, hparse, hfound, rfl, hleft⟩ := exists_of_survey_ok hok
  rw [hleft]
  exact ⟨p, e.memo, memo, hparse, hfound⟩

theorem gathered_abiding (parser : Parser) : Abiding parser (Gathered parser) :=
  ⟨gathered_of_survey, Gathered.same, Gathered.taught⟩

theorem exists_of_elementsWanted {r : Request} {plugin : Plugin} {p : Parsed} {memo memo' : Memo}
    {elements : List Element}
    (h : (elementsWanted r plugin p).run memo = (.ok elements, memo')) :
    ∃ found, elements = found.map (trimElement r) ∧
      (r.elements = true → (plugin.extract p).run memo = (.ok found, memo')) ∧
      (r.elements = false → found = []) := by
  unfold elementsWanted at h
  cases helements : r.elements with
  | false =>
      rw [helements] at h
      cases h
      exact ⟨[], rfl, fun htrue => (nomatch htrue), fun _ => rfl⟩
  | true =>
      rw [helements, if_pos rfl, run_map] at h
      rcases hfound : (plugin.extract p).run memo with ⟨message | found, left⟩
      · rw [hfound] at h
        cases h
      · rw [hfound] at h
        cases h
        exact ⟨found, rfl, fun _ => rfl, fun hfalse => (nomatch hfalse)⟩

/-- **The elements of a result**, kept or not, were found by the plugin that the engine has now. -/
theorem gathered_of_analyze (parser : Parser) (root : Option String) (settings : Settings)
    (steps : Steps) (disk : Files.Disk) {r : Request}
    (hkeys : KeysApart (askings parser (new root settings) (steps ++ [(disk, .analyze r)])))
    {result : Result}
    (hresult : (analyze ⟨disk, parser⟩ (after parser (new root settings) steps) r).1 = .ok result)
    (hsuccess : result.success = true) :
    ∃ q, ask ⟨disk, parser⟩ (after parser (new root settings) steps) r = .ok q ∧ q.request = r ∧
      Gathered parser (after parser (new root settings) steps) q result.findings := by
  have habiding := gathered_abiding parser
  obtain ⟨hkept, hknown⟩ :=
    keptAs_and_known habiding root settings steps disk (.analyze r) rfl
  generalize after parser (new root settings) steps = e at hresult hkept hknown ⊢
  rw [analyze_eq] at hresult
  cases hask : ask ⟨disk, parser⟩ e r with
  | error known =>
      -- without anything asked there are no findings
      rw [hask] at hresult
      obtain rfl : known = .ok result := hresult
      obtain ⟨path, message, -, -, rfl⟩ := ask_eq_known_iff.1 hask
      cases hsuccess
  | ok q =>
      rw [hask] at hresult
      obtain rfl := Except.ok.inj hresult
      obtain ⟨path, source, language, -, -, -, hq⟩ := ask_eq_ok_iff.1 hask
      refine ⟨q, rfl, by rw [hq], ?_⟩
      cases houtcome : (q.answer ⟨disk, parser⟩ (e.asked disk)).1.outcome with
      | error message =>
          rw [Result.success, houtcome] at hsuccess
          cases hsuccess
      | ok findings =>
          obtain ⟨later, hlater, hgathered⟩ :=
            (hkept.asked habiding disk).answer_found habiding hkeys (hknown q hask) houtcome
          unfold Gathered at hgathered ⊢
          rw [← hlater.grammars, ← hlater.plugins] at hgathered
          rw [Result.findings, houtcome]
          exact hgathered

end Gathered

/-! ## §4. The main result. -/

theorem answerable_iff_texts {r : Request} (hdetails : r.details = true) (found : List Element)
    (expr : Filter.Expr) :
    Filter.Answerable expr (fun e : Element => .declaration e.name e.text)
        (found.map (trimElement r)) ↔
      ¬ ((∃ clause ∈ expr, clause.readsText = true) ∧ ∃ element ∈ found, element.text = "") := by
  unfold Filter.Answerable Filter.Subject.hasText
  rw [not_and]
  simp only [List.forall_mem_map, text_trimElement hdetails, Bool.not_eq_true',
    ← String.isEmpty_iff, not_exists, not_and, Bool.not_eq_true]

/-- **When a filter misses a text.**  Whatever was done with an engine before and whatever its store
has kept: the elements of a result with details have the texts that the plugin of the language has
found for them.  So an expression that can be read is refused for want of a text exactly if one of
its clauses reads texts and an element was found that has none; otherwise there is an answer.  What
the plugins at hand find tells of a node of the tree, and has no text exactly if the node spans
nothing or does not lie between characters. -/
theorem text_filter_fails_iff (parser : Parser) (root : Option String) (settings : Settings)
    (steps : Steps) (disk : Files.Disk) (r : Request) (hdetails : r.details = true)
    (hkeys : KeysApart (askings parser (new root settings) (steps ++ [(disk, .analyze r)])))
    {result : Result}
    (hresult : (analyze ⟨disk, parser⟩ (after parser (new root settings) steps) r).1 = .ok result)
    (hsuccess : result.success = true) :
    let e := after parser (new root settings) steps
    ∃ q p memo memo' found, ask ⟨disk, parser⟩ e r = .ok q ∧
      e.grammars.parse parser q.source q.language q.path = .ok p ∧
      (r.elements = true →
        ((e.plugins.resolve q.language).extract p).run memo = (.ok found, memo')) ∧
      (r.elements = false → found = []) ∧
      result.elements = found.map (trimElement r) ∧
      result.elements.map Element.text = found.map Element.text ∧
      (∀ source expr, Filter.Expr.parse source = .ok expr →
        ((∃ clause name, filterElements result source = .error (.missingText clause name)) ↔
          (∃ clause ∈ expr, clause.readsText = true) ∧ ∃ element ∈ found, element.text = "") ∧
        ((∃ kept, filterElements result source = .ok kept) ↔
          ¬ ((∃ clause ∈ expr, clause.readsText = true) ∧
            ∃ element ∈ found, element.text = ""))) ∧
      ∀ v ∈ Extractor.all, ∀ m m' elements, m.Genuine →
        (v.plugin.extract p).run m = (.ok elements, m') →
          ∀ element ∈ elements, ∃ n ∈ p.tree.root.nodes, TellsOf p n element ∧
            (element.text = "" ↔
              n.start = n.stop ∨ ¬ Text.Addressable p.tree.source n.start n.stop) := by
  intro e
  obtain ⟨q, hask, hrequest, p, memo, memo', hparse, hwanted⟩ :=
    gathered_of_analyze parser root settings steps disk hkeys hresult hsuccess
  rw [hrequest] at hwanted
  obtain ⟨found, helements, hfound, hnone⟩ := exists_of_elementsWanted hwanted
  have hview : ∀ source, filterElements result source
      = Filter.keep result.language (fun e => .declaration e.name e.text)
          (found.map (trimElement r)) source :=
    fun source => by rw [← helements, filterElements, Result.elements]
  refine ⟨q, p, memo, memo', found, hask, hparse, hfound, hnone, helements, ?_,
    fun source expr hread => ⟨?_, ?_⟩, fun v hv m m' elements hm hrun element helement => ?_⟩
  · show result.findings.elements.map Element.text = found.map Element.text
    rw [helements, List.map_map]
    exact List.map_congr_left fun element _ => text_trimElement hdetails element
  · rw [hview, Filter.keep_eq_missing_iff hread, answerable_iff_texts hdetails, not_not]
  · rw [hview, Filter.exists_keep_eq_ok_iff hread, answerable_iff_texts hdetails]
  · obtain ⟨n, hn, htells⟩ := Extractor.tells_of_nodes hv hm hrun element helement
    refine ⟨n, hn, htells, ?_⟩
    rw [htells.text_eq, SyntaxTree.text_eq_empty_iff]

/-- A parser that finds one node in every text, which spans all of it. -/
def wholeFile : Parser := fun _ source =>
  let kind := "module"
  some
    { source := source.toList,
      root := .node { id := 0, kind := kind, named := true, start := 0,
                      stop := Text.byteLength source.toList } [] }

/-- A plugin for Python that finds the file itself. -/
def findsFile : Steps :=
  [({}, .register "python"
    { language := "python", extensions := ["py"],
      extract := fun p => pure [elementOf p p.tree.root "module" .package] })]

/-- A request for the details of a text in Python. -/
def detailed (source : String) : Request :=
  { path := "a.py", language := some "python", source := some source, details := true }

theorem exists_ok_of_toOption {ε α β : Type} {x : Except ε α} {f : α → β} {b : β}
    (h : x.toOption.map f = some b) : ∃ a, x = .ok a ∧ f a = b := by
  cases x with
  | error e => cases h
  | ok a => exact ⟨a, rfl, Option.some.inj h⟩

/-- A file with a letter in it has a text, so every filter that can be read is answered. -/
theorem letter_filtered :
    ∃ result, (analyze ⟨{}, wholeFile⟩ (after wholeFile (new none {}) findsFile)
        (detailed "x")).1 = .ok result ∧ result.success = true ∧
      ∀ source expr, Filter.Expr.parse source = .ok expr →
        ∃ kept, filterElements result source = .ok kept := by
  let q : Asking := { request := detailed "x", path := "a.py", source := "x", language := "python" }
  have hasked : askings wholeFile (new none {})
      (findsFile ++ [(({} : Files.Disk), .analyze (detailed "x"))]) = [q] := by decide +kernel
  have hfits : q.fingerprint.Fits :=
    Fingerprint.ofRequest_fits q.content (by decide) (by decide) (by rintro _ ⟨⟩) (by decide)
  have hkeys : KeysApart [q] := keysApart_of_one hfits (by simp)
  rw [← hasked] at hkeys
  obtain ⟨result, hresult, htold⟩ := exists_ok_of_toOption
    (x := (analyze ⟨{}, wholeFile⟩ (after wholeFile (new none {}) findsFile) (detailed "x")).1)
    (f := fun result => (result.success, result.elements.map Element.text)) (b := (true, ["x"]))
    (by decide +kernel)
  obtain ⟨hsuccess, helements⟩ := Prod.mk.inj htold
  obtain ⟨-, -, -, -, found, -, -, -, -, -, htexts, hfilter, -⟩ :=
    text_filter_fails_iff wholeFile none {} findsFile {} (detailed "x") rfl hkeys hresult hsuccess
  refine ⟨result, hresult, hsuccess, fun source expr hread => (hfilter source expr hread).2.2 ?_⟩
  rintro ⟨-, element, helement, hempty⟩
  have hmem : element.text ∈ ["x"] := by
    rw [← helements, htexts]
    exact List.mem_map_of_mem helement
  rw [hempty] at hmem
  exact absurd hmem (by decide)

/-- An empty file has none: with details, too, a filter by parameters is refused. -/
theorem empty_file_refused :
    ∃ result, (analyze ⟨{}, wholeFile⟩ (after wholeFile (new none {}) findsFile)
        (detailed "")).1 = .ok result ∧ result.success = true ∧ (detailed "").details = true ∧
      filterElements result "params=0" = .error (.missingText "0 parameter(s)" "module") := by
  obtain ⟨result, hresult, htold⟩ := exists_ok_of_toOption
    (x := (analyze ⟨{}, wholeFile⟩ (after wholeFile (new none {}) findsFile) (detailed "")).1)
    (f := fun result => (result.success, filterElements result "params=0"))
    (b := (true, .error (.missingText "0 parameter(s)" "module"))) (by decide +kernel)
  obtain ⟨hsuccess, hfilter⟩ := Prod.mk.inj htold
  exact ⟨result, hresult, hsuccess, rfl, hfilter⟩

end Engine

end CodeSurvey
