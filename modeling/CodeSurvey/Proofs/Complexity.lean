/-
  The complexity of functions.

  A plugin counts the decisions in a function with a query of its own, run on the node that the
  function is extracted from.  So the complexity of a function is told by that node: one, and one
  more for each decision in it.

      work whose results, if there are any, are of some kind             (`Yields`)
      a function that comes of a rule is one of the node it looks at     (`Makes.of_function`)
      all functions of a file come of what the rules make                (`Sound.yields_extract`)

  Main result, `complexity_counts_decisions`, for all plugins at hand.
-/
import CodeSurvey.Proofs.DecisionPoints
import CodeSurvey.Proofs.FunctionViews

namespace CodeSurvey.Extract

open Syntax Query

/-! ## §1. Work and its results. -/

/-- Whenever the work succeeds, its result is of some kind. -/
def Yields {α : Type} (P : α → Prop) (x : Extraction α) : Prop :=
  ∀ m : Memo, m.Genuine → ∀ a m', x.run m = (.ok a, m') → m'.Genuine ∧ P a

/-- The work can have this result. -/
def ComesOf {α : Type} (x : Extraction α) (a : α) : Prop :=
  ∃ m m' : Memo, m.Genuine ∧ x.run m = (.ok a, m')

namespace Yields

variable {α β : Type} {P : α → Prop} {Q : β → Prop}

theorem pure {a : α} (h : P a) : Yields P (pure a) := by
  rintro m hm _ _ ⟨⟩
  exact ⟨hm, h⟩

theorem bind {x : Extraction α} {f : α → Extraction β} (hx : Yields P x)
    (hf : ∀ a, P a → Yields Q (f a)) : Yields Q (x >>= f) := by
  intro m hm b m'' hrun
  rw [run_bind] at hrun
  rcases hx' : x.run m with ⟨message | a, m'⟩
  · rw [hx'] at hrun
    cases hrun
  · rw [hx'] at hrun
    obtain ⟨hm', ha⟩ := hx m hm a m' hx'
    exact hf a ha m' hm' b m'' hrun

theorem imp {P' : α → Prop} {x : Extraction α} (hx : Yields P x) (h : ∀ a, P a → P' a) :
    Yields P' x :=
  fun m hm a m' hrun => ⟨(hx m hm a m' hrun).1, h a (hx m hm a m' hrun).2⟩

theorem map {x : Extraction α} {f : α → β} (hx : Yields P x) (hf : ∀ a, P a → Q (f a)) :
    Yields Q (f <$> x) := by
  rw [← bind_pure_comp]
  exact hx.bind fun a ha => .pure (hf a ha)

theorem compiled (p : Parsed) (query : String) :
    Yields (fun c => ∃ g, compile g query = .ok c) (compiled p query) := by
  intro m hm c m' hrun
  obtain ⟨hgenuine, hmade⟩ := hm.compile p.dialect query
  rw [run_compiled, Prod.mk.injEq] at hrun
  obtain ⟨hok, rfl⟩ := hrun
  exact ⟨hgenuine, hmade c (mapError_eq_ok.1 hok)⟩

/-- A list is worked through; each result comes of something in it, and something comes of each. -/
theorem mapM {R : α → β → Prop} {f : α → Extraction β} : ∀ {as : List α},
    (∀ a ∈ as, Yields (R a) (f a)) →
      Yields (fun bs => (∀ b ∈ bs, ∃ a ∈ as, R a b) ∧ ∀ a ∈ as, ∃ b ∈ bs, R a b) (as.mapM f) := by
  intro as
  induction as with
  | nil =>
      intro _
      refine .pure ⟨?_, ?_⟩
      · rintro b ⟨⟩
      · rintro a ⟨⟩
  | cons a as ih =>
      intro h
      rw [List.mapM_cons]
      refine (h a List.mem_cons_self).bind fun b hb => ?_
      refine (ih fun a' ha' => h a' (List.mem_cons_of_mem a ha')).bind ?_
      rintro bs ⟨hof, hfrom⟩
      refine .pure ⟨fun b' hb' => ?_, fun a' ha' => ?_⟩
      · rcases List.mem_cons.1 hb' with rfl | hb'
        · exact ⟨a, List.mem_cons_self, hb⟩
        · obtain ⟨a', ha', hR⟩ := hof b' hb'
          exact ⟨a', List.mem_cons_of_mem a ha', hR⟩
      · rcases List.mem_cons.1 ha' with rfl | ha'
        · exact ⟨b, List.mem_cons_self, hb⟩
        · obtain ⟨b', hb', hR⟩ := hfrom a' ha'
          exact ⟨b', List.mem_cons_of_mem b hb', hR⟩

theorem of_comesOf {x : Extraction α} {a : α} (hx : Yields P x) (h : ComesOf x a) : P a := by
  obtain ⟨m, m', hm, hrun⟩ := h
  exact (hx m hm a m' hrun).2

theorem comesOf {x : Extraction α} (hx : Yields P x) : Yields (ComesOf x) x :=
  fun m hm a m' hrun => ⟨(hx m hm a m' hrun).1, m, m', hm, hrun⟩

end Yields

/-! ## §2. Functions. -/

/-- The complexity that an element tells. -/
def complexityOf (e : Element) : Option Nat :=
  match e.kind with
  | .function facts => facts.complexity
  | _ => none

/-- Only functions tell a complexity. -/
theorem word_of_complexityOf {e : Element} {n : Nat} (h : complexityOf e = some n) :
    e.kind.word = "function" := by
  unfold complexityOf at h
  split at h
  · rename_i facts hkind
    rw [hkind]
    rfl
  · cases h

/-- A function of a node, with the decisions in the node counted. -/
structure Counted (d : DecisionTable) (p : Parsed) (t : Tree) (e : Element) : Prop where
  element : ∃ name facts, e = elementOf p t name (.function facts)
  complexity : complexityOf e = some (1 + (t.nodes.filter fun n => 0 < n.stop).countP d.decides)

section Functions

variable {p : Parsed} {decisions : String} {t : Tree} {d : DecisionTable}

/-- **A function** tells how many decisions its node has. -/
theorem yields_functionOf (hd : d.sound = true)
    (hcounted : CountedBy d decisions)
    (hnumbered : t.Numbered) (hone : DecisionTable.OneOperator t) (name : String)
    (facts : FunctionFacts) : Yields (Counted d p t) (functionOf p t name facts decisions) := by
  have hcount : Yields (fun n => n = 1 + (t.nodes.filter fun n => 0 < n.stop).countP d.decides)
      (complexity p t decisions) := by
    refine (Yields.compiled p decisions).bind ?_
    rintro c ⟨g, hc⟩
    refine .pure ?_
    rw [DecisionTable.length_captures hd (hcounted g c hc) hnumbered hone]
  refine hcount.bind fun n hn => .pure ⟨⟨name, _, rfl⟩, ?_⟩
  exact congrArg some hn

/-- Whatever is counted, a function has the facts it is made of. -/
theorem yields_facts (p : Parsed) (t : Tree) (name : String) (facts : FunctionFacts)
    (decisions : String) :
    Yields (fun e => ∃ n, e = elementOf p t name (.function { facts with complexity := some n }))
      (functionOf p t name facts decisions) := by
  have hcount : Yields (fun _ => True) (complexity p t decisions) :=
    (Yields.compiled p decisions).bind fun _ _ => .pure trivial
  exact hcount.bind fun n _ => .pure ⟨n, rfl⟩

namespace Makes

variable {r : RoleTable} {s : Sighting} {x : Extraction (Option Element)}

theorem yields (h : Makes p decisions r s x) : Yields (fun _ => True) x := by
  cases h with
  | function name facts hrole hname =>
      exact (yields_facts p s.spot.tree name facts decisions).map fun _ _ => trivial
  | element name kind hkind hname => exact .pure trivial
  | nothing hname => exact .pure trivial

/-- A function comes of a role for functions only, and of a name. -/
theorem of_function (h : Makes p decisions r s x) {e : Element} (he : ComesOf x (some e))
    (hword : e.kind.word = "function") : s.role ∈ r.rolesFor "function" ∧
      ∃ name facts, s.name = some name ∧
        x = some <$> functionOf p s.spot.tree name facts decisions := by
  cases h with
  | function name facts hrole hname => exact ⟨hrole, name, facts, hname, rfl⟩
  | element name kind hkind hname =>
      obtain ⟨m, m', -, hrun⟩ := he
      cases hrun
      exact absurd hword (bne_iff_ne.1 (Bool.and_eq_true_iff.1 hkind).2)
  | nothing hname =>
      obtain ⟨m, m', -, hrun⟩ := he
      cases hrun

/-- A function that comes of a rule. -/
theorem counted (h : Makes p decisions r s x) (hd : d.sound = true)
    (hcounted : CountedBy d decisions) (hnumbered : s.spot.tree.Numbered)
    (hone : DecisionTable.OneOperator s.spot.tree) {e : Element} (he : ComesOf x (some e))
    (hword : e.kind.word = "function") : Counted d p s.spot.tree e := by
  obtain ⟨-, name, facts, -, rfl⟩ := h.of_function he hword
  have hmade : Yields (fun made => ∀ e, made = some e → Counted d p s.spot.tree e)
      (some <$> functionOf p s.spot.tree name facts decisions) := by
    refine (yields_functionOf hd hcounted hnumbered hone name facts).map fun e he e' heq => ?_
    obtain rfl := Option.some.inj heq
    exact he
  exact hmade.of_comesOf he e rfl

end Makes

end Functions

/-! ## §3. Whole extractions. -/

theorem dropRepeats_sublist : ∀ (cs : List Candidate) (last : Candidate),
    (dropRepeats last cs).Sublist cs := by
  intro cs
  induction cs with
  | nil => exact fun _ => .refl _
  | cons c cs ih =>
      intro last
      rw [dropRepeats]
      split
      · exact (ih last).cons c
      · exact (ih c).cons_cons c

/-- What is arranged was a candidate. -/
theorem exists_candidate_of_mem_arrange {made : List Candidate} {e : Element}
    (h : e ∈ arrange made) : ∃ c ∈ made, c.2 = e := by
  have hperm : (made.mergeSort fun a b => a.1 ≤ b.1).Perm made := List.mergeSort_perm _ _
  unfold arrange at h
  generalize made.mergeSort (fun a b => a.1 ≤ b.1) = cs at h hperm
  cases cs with
  | nil => cases h
  | cons c cs =>
      obtain ⟨c', hc', rfl⟩ := List.mem_map.1 h
      refine ⟨c', hperm.mem_iff.1 ?_, rfl⟩
      rcases List.mem_cons.1 hc' with rfl | hc'
      · exact List.mem_cons_self
      · exact List.mem_cons_of_mem c ((dropRepeats_sublist cs c).subset hc')

/-- Crediting methods makes no functions. -/
theorem mem_of_mem_creditMethods {exempt : String} {owners : List (String × Nat)}
    {made : List Candidate} {c : Candidate} (h : c ∈ creditMethods exempt owners made)
    (hword : c.2.kind.word = "function") : c ∈ made := by
  obtain ⟨⟨start, e⟩, hc, rfl⟩ := List.mem_map.1 h
  have hclass : ∀ facts, (ElementKind.classLike facts).word ≠ "function" := by
    intro facts
    exact (by decide : "class" ≠ "function")
  dsimp only at hword ⊢
  split at hword
  · split at hword
    · rename_i facts hkind _
      rw [hkind] at hword
      exact absurd hword (hclass facts)
    · exact absurd hword (hclass _)
  · exact hc

theorem yields_sightings (p : Parsed) (query : String) (roles : List String) :
    Yields (fun found => ∃ g c, compile g query = .ok c ∧ found = sighted p roles c)
      (sightings p query roles) := by
  rw [sightings_eq]
  refine (Yields.compiled p query).map ?_
  rintro c ⟨g, hc⟩
  exact ⟨g, c, hc, rfl⟩

/-- **Candidates** are what the rule makes of the sightings, each with the start of its node. -/
theorem yields_candidates {rule : Sighting → Extraction (Option Element)} {found : List Sighting}
    (hrule : ∀ s ∈ found, Yields (fun _ => True) (rule s)) :
    Yields (fun made =>
        (∀ c ∈ made, ∃ s ∈ found, c.1 = s.spot.tree.start ∧ ComesOf (rule s) (some c.2)) ∧
        ∀ s ∈ found, ∃ e, ComesOf (rule s) e ∧ ∀ x, e = some x → (s.spot.tree.start, x) ∈ made)
      (candidates rule found) := by
  have hmade := Yields.mapM
    (R := fun s c => ∃ e, ComesOf (rule s) e ∧ c = e.map fun x => (s.spot.tree.start, x))
    (f := fun s => do
      let element ← rule s
      pure (element.map fun e => (s.spot.tree.start, e)))
    fun s hs => (hrule s hs).comesOf.bind fun e he => .pure ⟨e, he, rfl⟩
  refine hmade.bind ?_
  rintro made ⟨hof, hfrom⟩
  refine .pure ⟨fun c hc => ?_, fun s hs => ?_⟩
  · obtain ⟨_, hc, rfl⟩ := List.mem_filterMap.1 hc
    obtain ⟨s, hs, e, he, hmap⟩ := hof _ hc
    obtain ⟨x, rfl, rfl⟩ := Option.map_eq_some_iff.1 hmap.symm
    exact ⟨s, hs, rfl, he⟩
  · obtain ⟨c, hc, e, he, rfl⟩ := hfrom s hs
    refine ⟨e, he, ?_⟩
    rintro x rfl
    exact List.mem_filterMap.2 ⟨_, hc, rfl⟩

/-- How a plugin extracts functions and counts their decisions. -/
structure Counting where
  plugin : Plugin
  declarations : String
  roles : List String
  rule : Parsed → Sighting → Extraction (Option Element)
  decisions : String
  /-- What counts as a decision. -/
  table : DecisionTable

namespace Counting

/-- The element is what the plugin's rule makes of a match of its declarations, and the node is the
main node of the match. -/
def Extracted (v : Counting) (p : Parsed) (f : Tree) (e : Element) : Prop :=
  ∃ g c s, compile g v.declarations = .ok c ∧ s ∈ sighted p v.roles c ∧ s.spot.tree = f ∧
    ComesOf (v.rule p s) (some e)

/-- What makes the table tell the complexities that the plugin counts. -/
structure Sound (v : Counting) : Prop where
  table : v.table.sound = true
  counted : CountedBy v.table v.decisions
  overlooks : Ensures Rule.overlooks v.declarations
  rule : ∀ p s, ∃ r, Makes p v.decisions r s (v.rule p s)
  /-- What is done to the candidates before they are arranged makes no functions. -/
  extract : ∀ p, ∃ change : List Sighting → List Candidate → List Candidate,
    (∀ found made, ∀ c ∈ change found made, c.2.kind.word = "function" → c ∈ made) ∧
    v.plugin.extract p = do
      let found ← sightings p v.declarations v.roles
      let made ← candidates (v.rule p) found
      pure (arrange (change found made))

variable {v : Counting} {p : Parsed} {f : Tree} {e : Element}

namespace Sound

theorem yields_rule (hv : v.Sound) (p : Parsed) (s : Sighting) :
    Yields (fun _ => True) (v.rule p s) := by
  obtain ⟨r, hmakes⟩ := hv.rule p s
  exact hmakes.yields

/-- **All functions of a file** are extracted from some node. -/
theorem yields_extract (hv : v.Sound) (p : Parsed) :
    Yields (fun elements => ∀ e ∈ elements, e.kind.word = "function" → ∃ f, v.Extracted p f e)
      (v.plugin.extract p) := by
  obtain ⟨change, hchange, hextract⟩ := hv.extract p
  rw [hextract]
  refine (yields_sightings p v.declarations v.roles).bind ?_
  rintro found ⟨g, c, hc, rfl⟩
  refine (yields_candidates fun s _ => hv.yields_rule p s).bind fun made hmade => .pure ?_
  intro e he hword
  obtain ⟨x, hx, rfl⟩ := exists_candidate_of_mem_arrange he
  obtain ⟨s, hs, -, hcomes⟩ := hmade.1 x (hchange _ _ x hx hword)
  exact ⟨s.spot.tree, g, c, s, hc, hs, rfl, hcomes⟩

theorem mem_nodes (hv : v.Sound) (h : v.Extracted p f e) : f ∈ p.tree.root.nodes := by
  obtain ⟨g, c, s, hc, hs, rfl, -⟩ := h
  have hover : c.overlooks = true := List.all_eq_true.2 (hv.overlooks g c hc)
  obtain ⟨hmain, _, _, _, hcaptured⟩ := seen_of_mem_sighted hc hover hs
  exact (hcaptured _ hmain).inside

/-- **One function** tells how many decisions there are in its node. -/
theorem counted_function (hv : v.Sound) (hnumbered : p.tree.root.Numbered)
    (hone : DecisionTable.OneOperator p.tree.root) (h : v.Extracted p f e)
    (hword : e.kind.word = "function") : Counted v.table p f e := by
  have hf := hv.mem_nodes h
  have hsublist := Tree.nodes_sublist hf
  obtain ⟨g, c, s, hc, hs, rfl, hcomes⟩ := h
  obtain ⟨r, hmakes⟩ := hv.rule p s
  exact hmakes.counted hv.table hv.counted (List.Pairwise.sublist (hsublist.map _) hnumbered)
    (fun n hn => hone n (hsublist.subset hn)) hcomes hword

end Sound

end Counting

/-! ## §4. The plugins at hand. -/

/-- The decisions of Python. -/
def Python.decisionTable : DecisionTable where
  kinds := ["if_statement", "elif_clause", "for_statement", "while_statement",
    "conditional_expression", "except_clause", "case_clause"]
  operation := "boolean_operator"
  operators := ["and", "or"]

/-- The decisions of Java. -/
def Java.decisionTable : DecisionTable where
  kinds := ["if_statement", "for_statement", "enhanced_for_statement", "while_statement",
    "do_statement", "switch_block_statement_group", "switch_rule", "ternary_expression",
    "catch_clause"]
  operation := "binary_expression"
  operators := ["&&", "||"]

/-- The decisions of JavaScript and TypeScript. -/
def Script.decisionTable : DecisionTable where
  kinds := ["if_statement", "for_statement", "for_in_statement", "while_statement", "do_statement",
    "switch_case", "ternary_expression", "catch_clause"]
  operation := "binary_expression"
  operators := ["&&", "||", "??"]

/-- The decisions of Go. -/
def Go.decisionTable : DecisionTable where
  kinds := ["if_statement", "for_statement", "expression_case", "type_case", "communication_case"]
  operation := "binary_expression"
  operators := ["&&", "||"]

/-- The decisions of Rust. -/
def Rust.decisionTable : DecisionTable where
  kinds := ["if_expression", "for_expression", "while_expression", "match_arm"]
  operation := "binary_expression"
  operators := ["&&", "||"]

section Reading

set_option maxRecDepth 10000

theorem Python.decisions_counted : CountedBy Python.decisionTable Python.decisions :=
  countedBy_of_accepted (g := .python) (accepted_of_compileText rfl (by decide +kernel))

theorem Java.decisions_counted : CountedBy Java.decisionTable Java.decisions :=
  countedBy_of_accepted (g := .java) (accepted_of_compileText rfl (by decide +kernel))

theorem Script.decisions_counted : CountedBy Script.decisionTable Script.decisions :=
  countedBy_of_accepted (g := .javascript) (accepted_of_compileText rfl (by decide +kernel))

theorem Go.decisions_counted : CountedBy Go.decisionTable Go.decisions :=
  countedBy_of_accepted (g := .go) (accepted_of_compileText rfl (by decide +kernel))

theorem Rust.decisions_counted : CountedBy Rust.decisionTable Rust.decisions :=
  countedBy_of_accepted (g := .rust) (accepted_of_compileText rfl (by decide +kernel))

end Reading

namespace Counting

/-- How Python functions are counted. -/
def python : Counting :=
  ⟨.python, Python.declarations, ["function", "class", "import", "import_from", "variable"],
    Python.rule, Python.decisions, Python.decisionTable⟩

/-- How Java methods are counted. -/
def java : Counting :=
  ⟨.java, Java.declarations, ["package", "import", "class", "interface", "enum", "record", "method",
    "constructor", "field"], Java.rule, Java.decisions, Java.decisionTable⟩

/-- How the functions of a script are counted. -/
def script (plugin : Plugin) (typed : Bool) : Counting :=
  ⟨plugin, Script.declarations typed, ["function", "function_variable", "class", "method",
    "variable", "import", "interface", "type", "enum"], Script.rule, Script.decisions,
    Script.decisionTable⟩

/-- How Go functions are counted. -/
def go : Counting :=
  ⟨.go, Go.declarations, ["package", "import", "function", "method", "type", "variable"], Go.rule,
    Go.decisions, Go.decisionTable⟩

/-- How Rust functions are counted. -/
def rust : Counting :=
  ⟨.rust, Rust.declarations, ["function", "struct", "enum", "union", "trait", "type", "module",
    "impl", "import", "variable"], Rust.rule, Rust.decisions, Rust.decisionTable⟩

/-- All plugins at hand. -/
def all : List Counting :=
  [python, java, script .javascript false, script .typescript true, script .tsx true, go, rust]

theorem sound_python : python.Sound where
  table := by decide
  counted := Python.decisions_counted
  overlooks := Python.declarations_overlook
  rule p s := ⟨_, Python.makes_rule p s⟩
  extract p := ⟨fun _ made => made, fun _ _ _ hc _ => hc, by
    simp only [bind_pure_comp]
    rfl⟩

theorem sound_java : java.Sound where
  table := by decide
  counted := Java.decisions_counted
  overlooks := Java.declarations_overlook
  rule p s := ⟨_, Java.makes_rule p s⟩
  extract p := ⟨fun _ made => made, fun _ _ _ hc _ => hc, by
    simp only [bind_pure_comp]
    rfl⟩

theorem sound_script {plugin : Plugin} {typed : Bool}
    (hplugin : plugin.extract = Script.extract typed) : (script plugin typed).Sound where
  table := (by decide : Script.decisionTable.sound = true)
  counted := Script.decisions_counted
  overlooks := Script.declarations_overlook typed
  rule p s := ⟨_, Script.makes_rule p s⟩
  extract p := ⟨fun _ made => made, fun _ _ _ hc _ => hc, by
    simp only [bind_pure_comp]
    exact congrFun hplugin p⟩

theorem sound_go : go.Sound where
  table := by decide
  counted := Go.decisions_counted
  overlooks := Go.declarations_overlook
  rule p s := ⟨_, Go.makes_rule p s⟩
  extract p := ⟨fun found => creditMethods "interface" (found.filterMap (Go.owner? p)),
    fun _ _ _ => mem_of_mem_creditMethods, rfl⟩

theorem sound_rust : rust.Sound where
  table := by decide
  counted := Rust.decisions_counted
  overlooks := Rust.declarations_overlook
  rule p s := ⟨_, Rust.makes_rule p s⟩
  extract p := ⟨fun found => creditMethods "trait" (found.filterMap (Rust.owner? p)),
    fun _ _ _ => mem_of_mem_creditMethods, rfl⟩

theorem sound_of_mem {v : Counting} (hv : v ∈ all) : v.Sound := by
  simp only [all, List.mem_cons, List.not_mem_nil, or_false] at hv
  rcases hv with rfl | rfl | rfl | rfl | rfl | rfl | rfl
  · exact sound_python
  · exact sound_java
  · exact sound_script rfl
  · exact sound_script rfl
  · exact sound_script rfl
  · exact sound_go
  · exact sound_rust

/-- **Complexity is one plus the decisions.**  In every tree whose nodes have no more than one
operator each, and from every memory of what was compiled: every function that a plugin finds is
extracted from a node of the tree, and a function extracted from a node has a complexity of one and
one more for each decision in the node, itself included, unless a decision ends where the text
begins and is passed over.  So a function inside another is not the more complex one. -/
theorem complexity_counts_decisions {v : Counting} (hv : v ∈ all) {p : Parsed}
    (hnumbered : p.tree.root.Numbered) (hone : DecisionTable.OneOperator p.tree.root)
    {m m' : Memo} (hm : m.Genuine) {elements : List Element}
    (hrun : (v.plugin.extract p).run m = (.ok elements, m')) :
    (∀ e ∈ elements, e.kind.word = "function" → ∃ f, v.Extracted p f e) ∧
      (∀ f e, v.Extracted p f e → e.kind.word = "function" →
        f ∈ p.tree.root.nodes ∧ (∃ name facts, e = elementOf p f name (.function facts)) ∧
        complexityOf e
          = some (1 + (f.nodes.filter fun n => 0 < n.stop).countP v.table.decides) ∧
        ((∀ n ∈ f.nodes, v.table.decides n = true → 0 < n.stop) →
          complexityOf e = some (1 + v.table.count f))) ∧
      ∀ inner outer e e' n n', v.Extracted p inner e → v.Extracted p outer e' →
        inner ∈ outer.nodes → complexityOf e = some n → complexityOf e' = some n' → n ≤ n' := by
  have hsound := sound_of_mem hv
  refine ⟨(hsound.yields_extract p m hm elements m' hrun).2, fun f e he hword => ?_, ?_⟩
  · have hcounted := hsound.counted_function hnumbered hone he hword
    refine ⟨hsound.mem_nodes he, hcounted.element, hcounted.complexity, fun hstop => ?_⟩
    rw [hcounted.complexity, DecisionTable.countP_filter_stop hstop]
  · intro inner outer e e' n n' he he' hinside hn hn'
    have hcounted := hsound.counted_function hnumbered hone he (word_of_complexityOf hn)
    have hcounted' := hsound.counted_function hnumbered hone he' (word_of_complexityOf hn')
    obtain rfl := Option.some.inj (hn.symm.trans hcounted.complexity)
    obtain rfl := Option.some.inj (hn'.symm.trans hcounted'.complexity)
    exact Nat.add_le_add_left (((Tree.nodes_sublist hinside).filter _).countP_le) 1

/-- A Python file with a function inside a condition inside a function. -/
def guardedFunction : Parsed :=
  { tree :=
      { source :=
          "def f(a):\n    if a and b:\n        def g():\n            while a: pass\n".toList,
        root := phrase 0 "module" none 0 69
          [phrase 1 "function_definition" none 0 68
            [token 2 "def" 0 3, phrase 3 "identifier" (some "name") 4 5 [],
             phrase 4 "parameters" (some "parameters") 5 8
              [token 5 "(" 5 6, phrase 6 "identifier" none 6 7 [], token 7 ")" 7 8],
             token 8 ":" 8 9,
             phrase 9 "block" (some "body") 14 68
              [phrase 10 "if_statement" none 14 68
                [token 11 "if" 14 16,
                 phrase 12 "boolean_operator" (some "condition") 17 24
                  [phrase 13 "identifier" (some "left") 17 18 [],
                   .node
                    { id := 14, kind := "and", named := false, field := some "operator",
                      start := 19, stop := 22 } [],
                   phrase 15 "identifier" (some "right") 23 24 []],
                 token 16 ":" 24 25,
                 phrase 17 "block" (some "consequence") 34 68
                  [phrase 18 "function_definition" none 34 68
                    [token 19 "def" 34 37, phrase 20 "identifier" (some "name") 38 39 [],
                     phrase 21 "parameters" (some "parameters") 39 41
                      [token 22 "(" 39 40, token 23 ")" 40 41],
                     token 24 ":" 41 42,
                     phrase 25 "block" (some "body") 55 68
                      [phrase 26 "while_statement" none 55 68
                        [token 27 "while" 55 60, phrase 28 "identifier" (some "condition") 61 62 [],
                         token 29 ":" 62 63,
                         phrase 30 "block" (some "body") 64 68
                          [phrase 31 "pass_statement" none 64 68
                            [token 32 "pass" 64 68]]]]]]]]]] },
    dialect := ⟨"python", .python⟩,
    path := "a.py" }

theorem guardedFunction_clear : FunctionView.pythonView.Clear guardedFunction where
  dialect := rfl
  numbered := by decide +kernel
  named := by
    unfold Form.Named
    decide +kernel
  starts := by decide +kernel
  texts := by decide +kernel

/-- The outer function has three decisions, one of them in the inner one. -/
theorem guardedFunction_counted :
    ((guardedFunction.tree.root.nodes.filter fun n => n.isA "function_definition").map
        Python.decisionTable.count = [3, 1] ∧
      DecisionTable.OneOperator guardedFunction.tree.root) ∧
    ∃ elements m', (Plugin.python.extract guardedFunction).run [] = (.ok elements, m') ∧
      (elements.filterMap functionPlace).length = 2 ∧
      ∀ e ∈ elements, e.kind.word = "function" → ∃ f, python.Extracted guardedFunction f e ∧
        complexityOf e = some (1 + Python.decisionTable.count f) := by
  have hclear := guardedFunction_clear
  have hone : DecisionTable.OneOperator guardedFunction.tree.root := by decide +kernel
  have hstop : ∀ n ∈ guardedFunction.tree.root.nodes,
      Python.decisionTable.decides n = true → 0 < n.stop := by decide +kernel
  have hplaces : (FunctionView.pythonView.places guardedFunction.tree.root).length = 2 := by
    decide +kernel
  have hfits : FunctionView.pythonView.Fits := FunctionView.fits_of_mem List.mem_cons_self
  obtain ⟨elements, m', hrun, -, sorted, hperm, -, hsorted⟩ :=
    hfits.extract guardedFunction hclear [] Memo.genuine_nil
  obtain ⟨hfound, hcounted, -⟩ := complexity_counts_decisions (v := python) List.mem_cons_self
    hclear.numbered hone Memo.genuine_nil hrun
  refine ⟨⟨by decide +kernel, hone⟩, elements, m', hrun, ?_, fun e he hword => ?_⟩
  · rw [hsorted, List.length_map, hperm.length_eq, List.length_map, hplaces]
  · obtain ⟨f, hf⟩ := hfound e he hword
    obtain ⟨hmem, -, -, hcount⟩ := hcounted f e hf hword
    exact ⟨f, hf, hcount fun n hn => hstop n ((Tree.nodes_sublist hmem).subset hn)⟩

end Counting

end CodeSurvey.Extract
