/-
  Functions, seen by extraction and by query.

  A plugin finds functions with the query for its declarations, reads off what is known of them and
  arranges them among all other elements.  The catalog has queries of its own for functions.  In a
  tree where each function has exactly one name and no two start together, the two find the same
  functions in the same order, with the same lines and texts.

      each plugin's rule makes functions of just the function roles   (`observes_functions`)
      the catalog's captures are the places of the same kinds          (`Fits.merged`)

  Main result, `functions_agree`, for Python, Rust, Java and Go.
-/
import CodeSurvey.Proofs.Rules
import CodeSurvey.Proofs.StartingQueries

namespace CodeSurvey.Extract

open Syntax Query

/-! ## §1. Lines and texts. -/

/-- The lines and the text of a function. -/
def functionPlace (e : Element) : Option (Nat × Nat × String) :=
  match e.kind with
  | .function _ => some (e.startLine, e.endLine, e.text)
  | _ => none

/-- The lines and the text of a place. -/
def placeOf (p : Parsed) (s : Spot) : Nat × Nat × String :=
  (p.tree.startLine s.tree, p.tree.endLine s.tree, p.tree.text s.tree)

theorem isSome_functionPlace (e : Element) :
    (functionPlace e).isSome = (e.kind.word == "function") := by
  unfold functionPlace
  cases e.kind with
  | _ => rfl

/-! ## §2. The rules. -/

/-- **Functions are observed** where the roles for functions are those of some forms, and all go by
names. -/
theorem observes_functions {p : Parsed} {decisions : String} {r : RoleTable} {forms : List Form}
    {rule : Sighting → Extraction (Option Element)} (hmakes : ∀ s, Makes p decisions r s (rule s))
    (haccepted : Accepted p.dialect.grammar (fun _ => true) decisions)
    (hroles : forms.map Form.role = r.rolesFor "function")
    (hnamed : ∀ role ∈ r.rolesFor "function", role ∈ r.named) :
    Observes forms functionPlace (placeOf p) rule := by
  refine observes_of_makes hmakes haccepted isSome_functionPlace hroles fun s hrole hname => ?_
  obtain ⟨name, facts, hrule⟩ := (hmakes s).named_function hrole (hnamed _ hrole) hname
  rw [hrule]
  refine (gives_functionOf haccepted s.spot.tree name facts).map ?_
  rintro e ⟨facts', rfl⟩
  rfl

/-- How functions are declared in Python. -/
def Python.functionForms : List Form := [⟨"function_definition", "identifier", "function"⟩]

/-- How functions are declared in Rust. -/
def Rust.functionForms : List Form := [⟨"function_item", "identifier", "function"⟩]

/-- How functions are declared in Java: as methods or as constructors. -/
def Java.functionForms : List Form :=
  [⟨"method_declaration", "identifier", "method"⟩,
   ⟨"constructor_declaration", "identifier", "constructor"⟩]

/-- How functions are declared in Go: as functions or as methods. -/
def Go.functionForms : List Form :=
  [⟨"function_declaration", "identifier", "function"⟩,
   ⟨"method_declaration", "field_identifier", "method"⟩]

/-! ## §3. The view of the catalog. -/

/-- The lines and the text of a capture. -/
def capturePlace (c : Capture) : Nat × Nat × String := (c.startLine, c.endLine, c.text)

/-- The captures of several queries, merged by their starts. -/
def mergeByStart : List (List Capture) → List Capture
  | [] => []
  | captures :: rest => captures.merge (mergeByStart rest) fun a b => a.startByte ≤ b.startByte

theorem mergeByStart_perm (lists : List (List Capture)) :
    (mergeByStart lists).Perm lists.flatten := by
  induction lists with
  | nil => exact .refl _
  | cons captures rest ih => exact (List.merge_perm_append _).trans (ih.append_left _)

theorem mergeByStart_sorted : ∀ {lists : List (List Capture)},
    (∀ captures ∈ lists, captures.Pairwise fun a b => a.startByte ≤ b.startByte) →
    (mergeByStart lists).Pairwise fun a b => a.startByte ≤ b.startByte := by
  intro lists
  induction lists with
  | nil => exact fun _ => .nil
  | cons captures rest ih =>
      intro hall
      have hhere := hall captures List.mem_cons_self
      have hrest := ih fun cs hcs => hall cs (List.mem_cons_of_mem _ hcs)
      refine List.Pairwise.imp (fun h => of_decide_eq_true h) (List.pairwise_merge ?_ ?_ _ _
        (hhere.imp fun h => decide_eq_true h) (hrest.imp fun h => decide_eq_true h))
      · intro a b c hab hbc
        simp only [decide_eq_true_eq] at hab hbc ⊢
        omega
      · intro a b
        simp only [Bool.or_eq_true, decide_eq_true_eq]
        omega

/-- What is reported for a node whose text can be read. -/
theorem capture_ofNode {p : Parsed} {n : Spot} (htext : (p.tree.text? n.tree).isSome = true)
    (name : String) :
    ((Capture.ofNode p.tree p.tree.source name n.tree).startByte,
      capturePlace (Capture.ofNode p.tree p.tree.source name n.tree))
      = (n.tree.start, placeOf p n) := by
  unfold SyntaxTree.text? at htext
  rw [Option.isSome_map] at htext
  obtain ⟨text, hslice⟩ := Option.isSome_iff_exists.1 htext
  have hread : p.tree.text n.tree = String.ofList text := by
    unfold SyntaxTree.text SyntaxTree.text?
    rw [hslice]
    rfl
  unfold Capture.ofNode placeOf
  rw [hslice, hread]
  rfl

/-- The kinds that a query asks for. -/
def kindsAsked (language name : String) : List String :=
  ((wantsOf language name).flatMap Want.shapes).map Shape.kind

/-- **A query for plain kinds** reports the places of these kinds, in the order of their starts. -/
theorem runNamed_kinds {language : String} {queries : List Definition} {g : Grammar}
    {d : Definition} {s : Session} {p : Parsed} (h : (language, queries) ∈ startingQueries)
    (hd : d ∈ queries) (hg : Grammar.ofName? language = some g)
    (hcatalog : s.catalog = Catalog.builtin) (hmemo : s.memo.Genuine)
    (hdialect : p.dialect = ⟨language, g⟩) (hroot : p.tree.root.Numbered)
    (hplain : (wantsOf language d.name).map Want.shapes
      = (kindsAsked language d.name).map fun kind => [.plain kind])
    (htexts : ∀ n ∈ p.tree.root.nodes, ∀ kind ∈ kindsAsked language d.name,
      n.isA kind = true → (p.tree.text? n).isSome = true) :
    ∃ captures,
      (s.runNamed ⟨some p.tree, some p.dialect, p.tree.source⟩ d.name).1.result = .ok captures ∧
      captures.Pairwise (fun a b => a.startByte ≤ b.startByte) ∧
      (captures.map fun c => (c.startByte, capturePlace c)).Perm
        (((kindsAsked language d.name).flatMap fun kind => placesOf kind p.tree.root).map
          fun n => (n.tree.start, placeOf p n)) := by
  obtain ⟨c, hrules, hresult⟩ := runNamed_builtin p.tree p.tree.source h hd hg hcatalog hmemo
  rw [← hdialect] at hresult
  have hperm := map_snd_captures_perm hrules hplain hroot (Text.octets p.tree.source)
  have htext : ∀ x ∈ c.captures (Text.octets p.tree.source) p.tree.root,
      (p.tree.text? x.2.tree).isSome = true := by
    intro x hx
    obtain ⟨kind, hkind, hplace⟩ := List.mem_flatMap.1 (hperm.mem_iff.1 (List.mem_map_of_mem hx))
    obtain ⟨hspot, hisA⟩ := List.mem_filter.1 hplace
    exact htexts _ (mem_nodes_of_mem_spots (List.mem_of_mem_filter hspot)) kind hkind hisA
  have hkeys := fun x hx => capture_ofNode (n := x.2) (htext x hx) x.1
  refine ⟨_, hresult, ?_, ?_⟩
  · rw [List.pairwise_map]
    refine (captures_sorted c _ _).imp_of_mem fun {a b} ha hb hle => ?_
    rw [(Prod.mk.inj (hkeys a ha)).1, (Prod.mk.inj (hkeys b hb)).1]
    exact hle
  · rw [List.map_map]
    refine .trans (.of_eq ?_) (hperm.map fun n => (n.tree.start, placeOf p n))
    rw [List.map_map]
    exact List.map_congr_left hkeys

/-! ## §4. The two views. -/

/-- The two views of functions that there are for a language. -/
structure FunctionView where
  plugin : Plugin
  grammar : Grammar
  /-- How functions are declared. -/
  forms : List Form
  /-- The queries of the catalog that are for functions. -/
  queries : List String

/-- The languages whose functions are seen twice. -/
def functionViews : List FunctionView :=
  [⟨.python, .python, Python.functionForms, ["functions"]⟩,
   ⟨.rust, .rust, Rust.functionForms, ["functions"]⟩,
   ⟨.java, .java, Java.functionForms, ["methods"]⟩,
   ⟨.go, .go, Go.functionForms, ["functions", "methods"]⟩]

namespace FunctionView

/-- Is a node a function? -/
def isFunction (v : FunctionView) (n : Tree) : Bool := v.forms.any fun f => n.isA f.kind

/-- The places of all functions. -/
def places (v : FunctionView) (root : Tree) : List Spot :=
  v.forms.flatMap fun f => placesOf f.kind root

/-- A tree of the language in which every function has exactly one name, no two functions start
together and the text of each can be read. -/
structure Clear (v : FunctionView) (p : Parsed) : Prop where
  dialect : p.dialect = ⟨v.plugin.language, v.grammar⟩
  numbered : p.tree.root.Numbered
  named : ∀ f ∈ v.forms, f.Named p.tree.root
  starts : ((p.tree.root.nodes.filter v.isFunction).map Tree.start).Nodup
  texts : ∀ n ∈ p.tree.root.nodes, v.isFunction n = true → (p.tree.text? n).isSome = true

variable {v : FunctionView} {p : Parsed}

theorem isFunction_of_mem {f : Form} (hf : f ∈ v.forms) {n : Tree} (hn : n.isA f.kind = true) :
    v.isFunction n = true :=
  List.any_eq_true.2 ⟨f, hf, hn⟩

/-- No two places of functions start together. -/
theorem Clear.nodup_starts (h : v.Clear p) (hkinds : (v.forms.map Form.kind).Nodup) :
    ((v.places p.tree.root).map fun s => s.tree.start).Nodup :=
  Extract.nodup_starts hkinds h.starts

/-- What makes the two views of a language fit together. -/
structure Fits (v : FunctionView) : Prop where
  kinds : (v.forms.map Form.kind).Nodup
  /-- The queries are there to begin with. -/
  starting : ∃ queries, (v.plugin.language, queries) ∈ startingQueries ∧
    Grammar.ofName? v.plugin.language = some v.grammar ∧
    ∀ name ∈ v.queries, ∃ d ∈ queries, d.name = name
  plain : ∀ name ∈ v.queries, (wantsOf v.plugin.language name).map Want.shapes
    = (kindsAsked v.plugin.language name).map fun kind => [.plain kind]
  /-- Together the queries ask for the kinds of the forms. -/
  asked : v.queries.flatMap (kindsAsked v.plugin.language) = v.forms.map Form.kind
  extract : ∀ p, v.Clear p →
    Gives (ArrangedAs functionPlace (v.places p.tree.root) (placeOf p)) (v.plugin.extract p)

section Captured

variable {s : Session}

/-- One query for functions. -/
theorem Fits.succeeds (hv : v.Fits) (hp : v.Clear p) (hcatalog : s.catalog = Catalog.builtin)
    (hmemo : s.memo.Genuine) {name : String} (hname : name ∈ v.queries) :
    (s.outcomeOf p name).success = true ∧
      (s.outcomeOf p name).captures.Pairwise (fun a b => a.startByte ≤ b.startByte) ∧
      ((s.outcomeOf p name).captures.map fun c => (c.startByte, capturePlace c)).Perm
        (((kindsAsked v.plugin.language name).flatMap fun kind => placesOf kind p.tree.root).map
          fun n => (n.tree.start, placeOf p n)) := by
  obtain ⟨queries, hstarting, hgrammar, hthere⟩ := hv.starting
  obtain ⟨d, hd, rfl⟩ := hthere name hname
  have htexts : ∀ n ∈ p.tree.root.nodes, ∀ kind ∈ kindsAsked v.plugin.language d.name,
      n.isA kind = true → (p.tree.text? n).isSome = true := by
    intro n hn kind hkind hisA
    have hform : kind ∈ v.forms.map Form.kind :=
      hv.asked ▸ List.mem_flatMap.2 ⟨d.name, hname, hkind⟩
    obtain ⟨f, hf, rfl⟩ := List.mem_map.1 hform
    exact hp.texts n hn (isFunction_of_mem hf hisA)
  obtain ⟨captures, hresult, hsorted, hperm⟩ := runNamed_kinds hstarting hd hgrammar hcatalog hmemo
    hp.dialect hp.numbered (hv.plain d.name hname) htexts
  have hcaptures : (s.outcomeOf p d.name).captures = captures := by
    rw [Outcome.captures, Session.outcomeOf, hresult]
    rfl
  rw [hcaptures, Outcome.success, Session.outcomeOf, hresult]
  exact ⟨rfl, hsorted, hperm⟩

/-- All queries for functions, merged: the places of the functions, in the order of their starts. -/
theorem Fits.merged (hv : v.Fits) (hp : v.Clear p) (hcatalog : s.catalog = Catalog.builtin)
    (hmemo : s.memo.Genuine) :
    ((mergeByStart (v.queries.map fun name => (s.outcomeOf p name).captures)).map
        fun c => (c.startByte, capturePlace c)).Perm
      ((v.places p.tree.root).map fun n => (n.tree.start, placeOf p n)) := by
  refine ((mergeByStart_perm _).map _).trans ?_
  rw [← List.flatMap_def, List.map_flatMap]
  refine (List.Perm.flatMap_left _ fun name hname =>
    (hv.succeeds hp hcatalog hmemo hname).2.2).trans (.of_eq ?_)
  rw [← List.map_flatMap, ← List.flatMap_assoc, hv.asked, List.flatMap_map]
  rfl

/-- **Views that fit agree.** -/
theorem Fits.agree (hv : v.Fits) (hp : v.Clear p) {m : Memo} (hm : m.Genuine)
    (hcatalog : s.catalog = Catalog.builtin) (hmemo : s.memo.Genuine) :
    ∃ elements m', (v.plugin.extract p).run m = (.ok elements, m') ∧
      elements.filterMap functionPlace
        = (mergeByStart (v.queries.map fun name => (s.outcomeOf p name).captures)).map
            capturePlace := by
  obtain ⟨elements, m', hrun, -, sorted, hperm, hsorted, helements⟩ := hv.extract p hp m hm
  refine ⟨elements, m', hrun, ?_⟩
  have hmerged := hv.merged hp hcatalog hmemo
  have horder : (mergeByStart (v.queries.map fun name => (s.outcomeOf p name).captures)).Pairwise
      fun a b => a.startByte ≤ b.startByte := by
    refine mergeByStart_sorted fun captures hcaptures => ?_
    obtain ⟨name, hname, rfl⟩ := List.mem_map.1 hcaptures
    exact (hv.succeeds hp hcatalog hmemo hname).2.1
  -- starts differ, so the order by starts leaves no choice
  have hstarts : (sorted.map Prod.fst).Nodup := by
    rw [(hperm.map _).nodup_iff, List.map_map]
    exact hp.nodup_starts hv.kinds
  have hsame : sorted
      = (mergeByStart (v.queries.map fun name => (s.outcomeOf p name).captures)).map
          fun c => (c.startByte, capturePlace c) := by
    refine List.Perm.eq_of_pairwise ?_ hsorted (List.pairwise_map.2 horder)
      (hperm.trans hmerged.symm)
    intro a b ha hb hab hba
    have hb : b ∈ sorted := (hperm.trans hmerged.symm).mem_iff.2 hb
    exact List.inj_on_of_nodup_map hstarts ha hb (Nat.le_antisymm hab hba)
  rw [helements, hsame, List.map_map]
  rfl

end Captured

end FunctionView

/-! ## §5. The four languages. -/

namespace FunctionView

variable {v : FunctionView} {p : Parsed} {declarations decisions : String} {roles : List String}

/-- In a clear tree, the declarations of functions are found. -/
theorem Clear.declares (hp : v.Clear p)
    (hdeclared : Accepted v.grammar (declares v.forms) declarations)
    (hoverlooks : Ensures Rule.overlooks declarations)
    (hformed : wellFormed roles v.forms = true) (hkinds : (v.forms.map Form.kind).Nodup) :
    Declares p declarations roles v.forms where
  accepted := by
    rw [hp.dialect]
    exact hdeclared
  overlooks := hoverlooks
  formed := hformed
  numbered := hp.numbered
  named := hp.named
  starts := hp.nodup_starts hkinds

theorem Clear.decided (hp : v.Clear p) {check : List Rule → Bool}
    (haccepted : Accepted v.grammar check decisions) :
    Accepted p.dialect.grammar (fun _ => true) decisions := by
  rw [hp.dialect]
  exact haccepted.weaken

set_option maxRecDepth 10000 in
/-- The views of all four languages fit. -/
theorem fits_of_mem (hv : v ∈ functionViews) : v.Fits := by
  simp only [functionViews, List.mem_cons, List.not_mem_nil, or_false] at hv
  rcases hv with rfl | rfl | rfl | rfl
  · refine ⟨by decide, ⟨pythonQueries, by decide, rfl, by decide⟩, by decide, rfl, fun p hp => ?_⟩
    have hdeclared : Accepted .python (declares Python.functionForms) Python.declarations :=
      accepted_of_compileText rfl (by decide +kernel)
    exact gives_arranged (hp.declares hdeclared Python.declarations_overlook rfl (by decide))
      isSome_functionPlace
      (observes_functions (Python.makes_rule p) (hp.decided Python.decisions_accepted) rfl
        (by decide))
  · refine ⟨by decide, ⟨rustQueries, by decide, rfl, by decide⟩, by decide, rfl, fun p hp => ?_⟩
    have hdeclared : Accepted .rust (declares Rust.functionForms) Rust.declarations :=
      accepted_of_compileText rfl (by decide +kernel)
    exact gives_credited (hp.declares hdeclared Rust.declarations_overlook rfl (by decide))
      isSome_functionPlace (by decide)
      (observes_functions (Rust.makes_rule p) (hp.decided Rust.decisions_accepted) rfl
        (by decide)) _ _
  · refine ⟨by decide, ⟨javaQueries, by decide, rfl, by decide⟩, by decide, rfl, fun p hp => ?_⟩
    have hdeclared : Accepted .java (declares Java.functionForms) Java.declarations :=
      accepted_of_compileText rfl (by decide +kernel)
    exact gives_arranged (hp.declares hdeclared Java.declarations_overlook rfl (by decide))
      isSome_functionPlace
      (observes_functions (Java.makes_rule p) (hp.decided Java.decisions_accepted) rfl
        (by decide))
  · refine ⟨by decide, ⟨goQueries, by decide, rfl, by decide⟩, by decide, rfl, fun p hp => ?_⟩
    have hdeclared : Accepted .go (declares Go.functionForms) Go.declarations :=
      accepted_of_compileText rfl (by decide +kernel)
    exact gives_credited (hp.declares hdeclared Go.declarations_overlook rfl (by decide))
      isSome_functionPlace (by decide)
      (observes_functions (Go.makes_rule p) (hp.decided Go.decisions_accepted) rfl
        (by decide)) _ _

/-- **Extraction and catalog agree on functions**: in every tree of one of the four languages that is
clear about its functions, both succeed, and the lines and texts of the functions that the plugin
extracts are, in their order, those that the queries for functions capture. -/
theorem functions_agree {v : FunctionView} (hv : v ∈ functionViews) {p : Parsed} (hp : v.Clear p)
    {m : Memo} (hm : m.Genuine) {s : Session} (hcatalog : s.catalog = Catalog.builtin)
    (hmemo : s.memo.Genuine) :
    ∃ elements m', (v.plugin.extract p).run m = (.ok elements, m') ∧
      (∀ name ∈ v.queries, (s.outcomeOf p name).success = true) ∧
      elements.filterMap functionPlace
        = (mergeByStart (v.queries.map fun name => (s.outcomeOf p name).captures)).map
            capturePlace := by
  have hfits := fits_of_mem hv
  obtain ⟨elements, m', hrun, hagree⟩ := hfits.agree hp hm hcatalog hmemo
  exact ⟨elements, m', hrun, fun name hname => (hfits.succeeds hp hcatalog hmemo hname).1, hagree⟩

/-- A Python file with a function inside a function. -/
def nestedFunctions : Parsed :=
  { tree :=
      { source := "def f():\n    def g(): pass\n".toList,
        root := phrase 0 "module" none 0 27
          [phrase 1 "function_definition" none 0 26
            [token 2 "def" 0 3, phrase 3 "identifier" (some "name") 4 5 [],
             phrase 4 "parameters" (some "parameters") 5 7 [token 5 "(" 5 6, token 6 ")" 6 7],
             token 7 ":" 7 8,
             phrase 8 "block" (some "body") 13 26
              [phrase 9 "function_definition" none 13 26
                [token 10 "def" 13 16, phrase 11 "identifier" (some "name") 17 18 [],
                 phrase 12 "parameters" (some "parameters") 18 20
                  [token 13 "(" 18 19, token 14 ")" 19 20],
                 token 15 ":" 20 21,
                 phrase 16 "block" (some "body") 22 26
                  [phrase 17 "pass_statement" none 22 26 [token 18 "pass" 22 26]]]]]] },
    dialect := ⟨"python", .python⟩,
    path := "a.py" }

/-- The view that Python files have. -/
def pythonView : FunctionView := ⟨.python, .python, Python.functionForms, ["functions"]⟩

theorem nestedFunctions_clear : pythonView.Clear nestedFunctions where
  dialect := rfl
  numbered := by decide
  named := by
    unfold Form.Named
    decide
  starts := by decide
  texts := by decide +kernel

/-- Both functions are seen by both. -/
theorem nestedFunctions_agree :
    (nestedFunctions.tree.root.nodes.filter pythonView.isFunction).length = 2 ∧
    ∃ elements m', (Plugin.python.extract nestedFunctions).run [] = (.ok elements, m') ∧
      (∀ name ∈ ["functions"],
        (Session.outcomeOf { catalog := Catalog.builtin } nestedFunctions name).success = true) ∧
      elements.filterMap functionPlace
        = (mergeByStart (["functions"].map fun name =>
            (Session.outcomeOf { catalog := Catalog.builtin } nestedFunctions name).captures)).map
              capturePlace :=
  ⟨by decide, functions_agree (v := pythonView) List.mem_cons_self nestedFunctions_clear
    Memo.genuine_nil rfl Memo.genuine_nil⟩

end FunctionView

end CodeSurvey.Extract
