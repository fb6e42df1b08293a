/-
  Variables of a Go package.

  A spec declares the variables or constants it names.  Those of a package are the specs that no
  function and no block encloses, and each name of such a spec is to be a variable, with the place and
  the type of the spec.

      what stands around a place are the nodes that enclose it       (`mem_above_iff`)
      of a run of names, those in the first two slots are found      (`Form.map_tree_namesAt_of_rest`)
      the variables that are made are those of the names found       (`gives_variables`)

  Main result, `package_variables_iff`.  The names of constants, with the commas between them, are one
  run of the field, and the second name of a constant is passed over (`second_constant_passed_over`).
-/
import CodeSurvey.Proofs.Names
import Mathlib.Data.List.Flatten

namespace CodeSurvey

open Syntax Query

/-! ## §1. Enclosing nodes. -/

namespace Syntax

/-- Is the second node inside of the first? -/
def Tree.encloses (a n : Tree) : Bool := (Tree.nodesOfAll a.children).any fun x => x.id == n.id

mutual

/-- The places inside of a place are places of the tree. -/
theorem spotsBelow_subset {s : Spot} {above : List Tree} : ∀ {t : Tree}, s ∈ spotsBelow above t →
    spotsBelow s.above s.tree ⊆ spotsBelow above t
  | .node l cs, hs => by
      rw [spotsBelow_eq above] at hs ⊢
      rcases List.mem_cons.1 hs with rfl | hs
      · rw [spotsBelow_eq]
        exact List.Subset.refl _
      · exact fun x hx => List.mem_cons_of_mem _ (spotsOfAll_subset hs hx)

theorem spotsOfAll_subset {s : Spot} {above : List Tree} : ∀ {ts : List Tree},
    s ∈ spotsOfAll above ts → spotsBelow s.above s.tree ⊆ spotsOfAll above ts
  | t :: ts, hs => by
      rw [spotsOfAll] at hs ⊢
      rcases List.mem_append.1 hs with hs | hs
      · exact fun x hx => List.mem_append_left _ (spotsBelow_subset hs hx)
      · exact fun x hx => List.mem_append_right _ (spotsOfAll_subset hs hx)

end

mutual

theorem mem_above_of_mem_spotsBelow {a : Tree} {s : Spot} : ∀ {above : List Tree} {t : Tree},
    a ∈ above → s ∈ spotsBelow above t → a ∈ s.above
  | above, .node l cs, ha, hs => by
      rcases List.mem_cons.1 (spotsBelow_eq above (.node l cs) ▸ hs) with rfl | hs
      · exact ha
      · exact mem_above_of_mem_spotsOfAll (List.mem_cons_of_mem _ ha) hs

theorem mem_above_of_mem_spotsOfAll {a : Tree} {s : Spot} : ∀ {above : List Tree} {ts : List Tree},
    a ∈ above → s ∈ spotsOfAll above ts → a ∈ s.above
  | above, t :: ts, ha, hs => by
      rcases List.mem_append.1 hs with hs | hs
      · exact mem_above_of_mem_spotsBelow ha hs
      · exact mem_above_of_mem_spotsOfAll ha hs

end

variable {root a : Tree} {s : Spot}

/-- What stands around a place encloses its node. -/
theorem encloses_of_mem_above : ∀ {above : List Tree} {s : Spot}, s.above = above → s ∈ root.spots →
    a ∈ above → a ∈ root.nodes ∧ s.tree ∈ Tree.nodesOfAll a.children := by
  intro above
  induction above with
  | nil => exact fun _ _ ha => absurd ha List.not_mem_nil
  | cons up above ih =>
      -- from the place around this one
      intro s habove hs ha
      have hparent : s.parent = some ⟨up, above⟩ := by rw [Spot.parent, habove]
      obtain ⟨hup, hchild⟩ := mem_of_parent hs hparent
      have hmem : s.tree ∈ up.children := by
        obtain ⟨c, hc, rfl⟩ := List.mem_map.1 hchild
        exact hc
      rcases List.mem_cons.1 ha with rfl | ha
      · exact ⟨mem_nodes_of_mem_spots hup, (Tree.sublist_nodesOfAll a.children).subset hmem⟩
      · obtain ⟨hnode, hinside⟩ := ih rfl hup ha
        refine ⟨hnode, (Tree.nodesOfAll_sublist hinside).subset ?_⟩
        exact Tree.mem_nodes_of_mem_children hmem

/-- **What stands around a place** are the nodes that enclose it. -/
theorem mem_above_iff (hroot : root.Numbered) (hs : s ∈ root.spots) :
    a ∈ s.above ↔ a ∈ root.nodes ∧ a.encloses s.tree = true := by
  constructor
  · intro ha
    obtain ⟨hnode, hinside⟩ := encloses_of_mem_above rfl hs ha
    exact ⟨hnode, List.any_eq_true.2 ⟨s.tree, hinside, beq_self_eq_true _⟩⟩
  · rintro ⟨hnode, hencloses⟩
    obtain ⟨n, hn, hid⟩ := List.any_eq_true.1 hencloses
    rw [← map_tree_spots] at hnode
    obtain ⟨place, hplace, rfl⟩ := List.mem_map.1 hnode
    -- the node inside has a place below that of the outer one, and it has no other place
    rw [← map_tree_spotsOfAll (place.tree :: place.above)] at hn
    obtain ⟨inner, hinner, rfl⟩ := List.mem_map.1 hn
    have hbelow : inner ∈ spotsBelow place.above place.tree := by
      rw [spotsBelow_eq]
      exact List.mem_cons_of_mem _ hinner
    rw [← hroot.spot_eq (spotsBelow_subset hplace hbelow) hs (beq_iff_eq.1 hid)]
    exact mem_above_of_mem_spotsOfAll List.mem_cons_self hinner

end Syntax

/-! ## §2. Runs of names. -/

namespace Query

variable {s c : Spot} {field : String}

/-- Only what is in a field closes it, so the other siblings may be left out. -/
theorem filter_inField_upToClosing (field : String) (siblings : List Spot) :
    (upToClosing field siblings).filter (fun c => c.tree.field == some field)
      = upToClosing field (siblings.filter fun c => c.tree.field == some field) := by
  induction siblings with
  | nil => rfl
  | cons c after ih =>
      rw [upToClosing]
      cases hc : c.tree.field == some field with
      | true =>
          simp only [List.filter_cons, hc, if_true, upToClosing]
          split
          · simp only [List.filter_cons, hc, if_true, List.filter_nil]
          · simp only [List.filter_cons, hc, if_true, ih]
      | false =>
          have hopen : c.closes field = false := by
            rw [Spot.closes, hc]
            rfl
          simp only [List.filter_cons, hc, hopen, Bool.false_eq_true, if_false, ih]

/-- In a run of two slots a child closes the field if none follows it or one comes before it. -/
theorem closes_of_rest (hrun : runs.lookup (s.tree.kind, field) = some .rest) (hc : c ∈ s.children)
    (hfield : c.tree.field = some field) : c.closes field = true ↔
      (∀ x ∈ s.tree.childrenByField field, ¬ c.tree.id < x.id) ∨
        ∃ x ∈ s.tree.childrenByField field, x.id < c.tree.id := by
  obtain ⟨t, -, rfl⟩ := List.mem_map.1 hc
  unfold Spot.closes Spot.laterInField
  simp [hfield, hrun, List.isEmpty_iff, List.filter_eq_nil_iff]

/-- **Of a run of names** the first two children are looked at. -/
theorem map_tree_upToClosing_of_rest (hnumbered : (s.tree.children.map Tree.id).Pairwise (· < ·))
    (hrun : runs.lookup (s.tree.kind, field) = some .rest) :
    ((upToClosing field s.children).filter fun c => c.tree.field == some field).map Spot.tree
      = (s.tree.childrenByField field).take 2 := by
  have hfields : s.tree.childrenByField field
      = (s.children.filter fun c => c.tree.field == some field).map Spot.tree :=
    (map_tree_filter_children s fun c => c.field == some field).symm
  have horder : (s.tree.childrenByField field).Pairwise fun x y => x.id < y.id :=
    (List.pairwise_map.1 hnumbered).filter _
  have hmem : ∀ c ∈ s.children.filter (fun c => c.tree.field == some field),
      c ∈ s.children ∧ c.tree.field = some field :=
    fun c hc => ⟨List.mem_of_mem_filter hc, beq_iff_eq.1 (List.mem_filter.1 hc).2⟩
  have hcloses : ∀ c ∈ s.children.filter (fun c => c.tree.field == some field), _ :=
    fun c hc => closes_of_rest hrun (hmem c hc).1 (hmem c hc).2
  rw [filter_inField_upToClosing]
  rw [hfields] at hcloses horder ⊢
  generalize s.children.filter (fun c => c.tree.field == some field) = names at hcloses horder ⊢
  match names with
  | [] => rfl
  | [c] =>
      rw [upToClosing]
      split <;> rfl
  | c :: d :: rest =>
      have hcd : c.tree.id < d.tree.id :=
        (List.pairwise_cons.1 horder).1 d.tree List.mem_cons_self
      -- the first does not close the field, for the second follows, and the second does
      have hopen : ¬ c.closes field = true := by
        rw [hcloses c List.mem_cons_self]
        rintro (hnone | ⟨x, hx, hlt⟩)
        · exact hnone d.tree (List.mem_cons_of_mem _ List.mem_cons_self) hcd
        · rcases List.mem_cons.1 hx with rfl | hx
          · exact Nat.lt_irrefl _ hlt
          · exact Nat.lt_asymm hlt ((List.pairwise_cons.1 horder).1 x hx)
      have hclosed : d.closes field = true :=
        (hcloses d (List.mem_cons_of_mem c List.mem_cons_self)).2
          (.inr ⟨c.tree, List.mem_cons_self, hcd⟩)
      rw [upToClosing, if_neg hopen, upToClosing, if_pos hclosed]
      rfl

end Query

namespace Extract

/-- **The names found in a run** are those among its first two children. -/
theorem Form.map_tree_namesAt_of_rest {f : Form} {root : Tree} {s : Spot} (hroot : root.Numbered)
    (hs : s ∈ root.spots) (hrun : runs.lookup (s.tree.kind, "name") = some .rest) :
    (f.namesAt s).map Spot.tree
      = ((s.tree.childrenByField "name").take 2).filter (·.isA f.nameKind) := by
  have hsplit : f.namesAt s
      = ((upToClosing "name" s.children).filter fun c => c.tree.field == some "name").filter
          fun c => c.tree.isA f.nameKind := by
    rw [List.filter_filter]
    rfl
  rw [hsplit, ← map_tree_upToClosing_of_rest (hroot.children (mem_nodes_of_mem_spots hs)) hrun,
    List.filter_map]
  rfl

/-! ## §3. The specs of a package. -/

namespace Go

/-- Does a node declare variables or constants? -/
def isSpec (n : Tree) : Bool := n.isA "var_spec" || n.isA "const_spec"

/-- Is a node inside of a function or a block? -/
def isEnclosed (root n : Tree) : Bool :=
  root.nodes.any fun a =>
    ["block", "function_declaration", "method_declaration"].contains a.kind && a.encloses n

/-- The specs of the package. -/
def packageSpecs (root : Tree) : List Tree :=
  (root.nodes.filter isSpec).filter fun n => !isEnclosed root n

/-- The names of a spec. -/
def specNames (n : Tree) : List Tree := (n.childrenByField "name").filter (·.isA "identifier")

/-- The names of a spec that are found: those of a constant only among the first two children that are
in the field. -/
def foundNames (n : Tree) : List Tree :=
  if n.isA "const_spec" then ((n.childrenByField "name").take 2).filter (·.isA "identifier")
  else specNames n

/-- The variable that a spec declares by a name. -/
def variableOf (p : Parsed) (x : Tree × Tree) : Candidate :=
  (x.1.start, elementOf p x.1 (p.tree.text x.2) (.variable (fieldText p x.1 "type")))

/-- Is a candidate a variable? -/
def isVariable (c : Candidate) : Bool := c.2.kind.word == "variable"

/-- The specs of the package with names, one by one. -/
def packageNames (names : Tree → List Tree) (root : Tree) : List (Tree × Tree) :=
  (packageSpecs root).flatMap fun n => (names n).map fun c => (n, c)

/-- How variables are declared: as variables or as constants. -/
def variableForms : List Form :=
  [⟨"var_spec", "identifier", "variable"⟩, ⟨"const_spec", "identifier", "variable"⟩]

section Reading

set_option maxRecDepth 10000

theorem declarations_declare_variables : Accepted .go (declares variableForms) declarations :=
  accepted_of_compileText rfl (by decide +kernel)

end Reading

section Specs

variable {root : Tree} {s : Spot}

theorem isLocal_eq (hroot : root.Numbered) (hs : s ∈ root.spots) :
    isLocal s = isEnclosed root s.tree := by
  rw [Bool.eq_iff_iff, isLocal, isEnclosed, List.any_eq_true, List.any_eq_true]
  simp only [mem_above_iff hroot hs, Bool.and_eq_true]
  exact ⟨fun ⟨a, ⟨ha, hin⟩, hkind⟩ => ⟨a, ha, hkind, hin⟩,
    fun ⟨a, ha, hkind, hin⟩ => ⟨a, ⟨ha, hin⟩, hkind⟩⟩

theorem map_tree_namesAt {f : Form} (hf : f ∈ variableForms) (hroot : root.Numbered)
    (hs : s ∈ root.spots) (hkind : s.tree.isA f.kind = true) :
    (f.namesAt s).map Spot.tree = foundNames s.tree := by
  have hkind' := Tree.kind_of_isA hkind
  simp only [variableForms, List.mem_cons, List.not_mem_nil, or_false] at hf
  rcases hf with rfl | rfl
  · have hconst : s.tree.isA "const_spec" = false := isA_eq_false_of_ne hkind (by decide)
    rw [Form.namesAt_eq hroot hs (by rw [hkind']; decide), foundNames, hconst,
      if_neg Bool.false_ne_true, specNames, Tree.childrenByField, List.filter_filter]
    exact map_tree_filter_children s _
  · rw [Form.map_tree_namesAt_of_rest hroot hs (by rw [hkind']; decide), foundNames, if_pos hkind]

end Specs

/-! ## §4. The variables that are made. -/

/-- The variable that is made of a sighting. -/
def variableAt? (p : Parsed) (s : Sighting) : Option Element :=
  if s.role == "variable" && !isLocal s.spot then
    s.name.map fun name =>
      elementOf p s.spot.tree name (.variable (fieldText p s.spot.tree "type"))
  else none

section Made

variable {p : Parsed} {s : Sighting}

theorem variableAt?_of_role (hrole : s.role ≠ "variable") : variableAt? p s = none := by
  rw [variableAt?, beq_eq_false_iff_ne.2 hrole]
  rfl

/-- **What the rule makes of variables**: those that are not local, and none in other roles. -/
theorem gives_variable (haccepted : Accepted p.dialect.grammar (fun _ => true) decisions)
    (s : Sighting) : Gives (fun e => e.bind (ofWord "variable") = variableAt? p s) (rule p s) := by
  by_cases hrole : s.role = "variable"
  · unfold rule variableAt?
    rw [hrole]
    cases s.name with
    | none =>
        refine .pure ?_
        cases isLocal s.spot with
        | true => rfl
        | false => rfl
    | some name =>
        refine .pure ?_
        cases isLocal s.spot with
        | true => rfl
        | false => rfl
  · have hother : s.role ∉ roleTable.rolesFor "variable" := mt List.mem_singleton.1 hrole
    refine ((makes_rule p s).unobserved haccepted isSome_ofWord hother).imp fun e he => ?_
    rw [he, variableAt?_of_role hrole]

/-- **The variables that are sighted** are those of the names that are found. -/
theorem sighted_variables {q : Compiled} (hdeclares : declares variableForms q.rules = true)
    (hover : ∀ r ∈ q.rules, r.overlooks = true) (hroot : p.tree.root.Numbered)
    (hstop : ∀ n ∈ p.tree.root.nodes, isSpec n = true → 0 < n.stop) :
    ((sighted p Extractor.go.roles q).filterMap fun s =>
        (variableAt? p s).map fun e => (s.spot.tree.start, e)).Perm
      ((packageNames foundNames p.tree.root).map (variableOf p)) := by
  refine (sighted_perm_speaking (of_decide_eq_true hdeclares) hover fun s hrole => ?_).trans ?_
  · rw [variableAt?_of_role fun h => by rw [h] at hrole; cases hrole]
    rfl
  have hspec : ∀ n : Tree, (variableForms.any fun f => n.isA f.kind) = isSpec n := by
    simp [variableForms, isSpec]
  have hrole : ∀ f ∈ variableForms, f.role = "variable" := by decide
  refine (Form.filterMap_matchesIn_perm (by decide) (by decide) hroot
    (fun n hn hkind => hstop n hn (hspec n ▸ hkind))
    (fun _ s c => if isLocal s then none else some (variableOf p (s.tree, c.tree)))
    (fun n => if !isEnclosed p.tree.root n then (foundNames n).map fun c => variableOf p (n, c) else [])
    (fun f hf s c => ?_) fun f hf s hs hkind => ?_).trans (.of_eq ?_)
  · rw [hrole f hf, sight?_pair (by decide) (by decide), Option.bind_some, variableAt?]
    cases isLocal s with
    | true => rfl
    | false => rfl
  · rw [isLocal_eq hroot hs, ← map_tree_namesAt hf hroot hs hkind]
    cases isEnclosed p.tree.root s.tree with
    | true => exact List.filterMap_none _
    | false =>
        rw [List.map_map, ← List.filterMap_eq_map]
        rfl
  · rw [packageNames, packageSpecs, List.map_flatMap,
      flatMap_filter_ite fun n => !isEnclosed p.tree.root n]
    simp only [hspec, List.map_map, Function.comp_def]

/-- **The variables of a file**, before they are arranged. -/
theorem gives_variables (hgrammar : p.dialect.grammar = .go) (hroot : p.tree.root.Numbered)
    (hstop : ∀ n ∈ p.tree.root.nodes, isSpec n = true → 0 < n.stop) :
    Gives (fun made => (made.filter isVariable).Perm
        ((packageNames foundNames p.tree.root).map (variableOf p)))
      (Extractor.go.candidates p) := by
  have hdeclared : Accepted p.dialect.grammar (declares variableForms) declarations := by
    rw [hgrammar]
    exact declarations_declare_variables
  have hdecided : Accepted p.dialect.grammar (fun _ => true) decisions := by
    rw [hgrammar]
    exact decisions_accepted.weaken
  refine Extractor.gives_candidates_of_accepted (v := .go) hdeclared declarations_overlook
    fun q hdeclares hover => ?_
  refine (gives_candidates fun s _ => gives_variable hdecided s).imp fun made hmade => ?_
  refine .trans (.of_eq (filterMap_observed_ofWord _).symm) ?_
  exact (creditMethods_observed isSome_ofWord (by decide) _ _ made).trans hmade ▸
    sighted_variables hdeclares hover hroot hstop

end Made

/-! ## §5. All variables of a package. -/

section Names

variable {root : Tree}

theorem mem_packageNames {names : Tree → List Tree} {n c : Tree} :
    (n, c) ∈ packageNames names root ↔ n ∈ packageSpecs root ∧ c ∈ names n := by
  simp only [packageNames, List.mem_flatMap, List.mem_map, Prod.mk.injEq]
  constructor
  · rintro ⟨n, hn, c, hc, rfl, rfl⟩
    exact ⟨hn, hc⟩
  · rintro ⟨hn, hc⟩
    exact ⟨n, hn, c, hc, rfl, rfl⟩

theorem foundNames_sublist (n : Tree) : (foundNames n).Sublist (specNames n) := by
  unfold foundNames
  split
  · exact (List.take_sublist 2 _).filter _
  · exact .refl _

/-- The names found are all names if and only if no constant has a name behind the first two children
that are in the field. -/
theorem packageNames_eq_iff (hroot : root.Numbered) :
    packageNames foundNames root = packageNames specNames root ↔
      ∀ n ∈ packageSpecs root, n.isA "const_spec" = true →
        ∀ c ∈ (n.childrenByField "name").drop 2, c.isA "identifier" = false := by
  constructor
  · intro heq n hn hconst c hc
    rw [Bool.eq_false_iff]
    intro hname
    have hspec : (n, c) ∈ packageNames specNames root :=
      mem_packageNames.2 ⟨hn, List.mem_filter.2 ⟨List.mem_of_mem_drop hc, hname⟩⟩
    have hfound := (mem_packageNames.1 (heq ▸ hspec)).2
    rw [foundNames, if_pos hconst] at hfound
    -- no child is both among the first two and behind them
    have hnode : n ∈ root.nodes := List.mem_of_mem_filter (List.mem_of_mem_filter hn)
    have hnodup : (n.childrenByField "name").Nodup :=
      (List.Nodup.of_map _ ((hroot.children hnode).imp Nat.ne_of_lt)).filter _
    exact List.disjoint_take_drop hnodup (Nat.le_refl 2) (List.mem_of_mem_filter hfound) hc
  · intro hnone
    refine List.flatMap_congr fun n hn => congrArg (List.map _) ?_
    unfold foundNames
    split
    · rename_i hconst
      have hbehind : ((n.childrenByField "name").drop 2).filter (·.isA "identifier") = [] :=
        List.filter_eq_nil_iff.2 fun c hc => Bool.eq_false_iff.1 (hnone n hn hconst c hc)
      conv_rhs => rw [specNames, ← List.take_append_drop 2 (n.childrenByField "name")]
      rw [List.filter_append, hbehind, List.append_nil]
    · rfl

end Names

/-- **The variables of a Go file.**  A tree whose specs do not end at its start has its elements
extracted, and they are arranged of candidates of which the variables are, up to their order, those of
the names found in the specs that no function, method or block encloses: all names of variables, and of
a constant those among the first two children in the field, with the start and the type of the spec.
These are the variables of all names of such specs if and only if no constant has a name further
behind. -/
theorem package_variables_iff {p : Parsed} (hgrammar : p.dialect.grammar = .go)
    (hroot : p.tree.root.Numbered)
    (hstop : ∀ n ∈ p.tree.root.nodes, isSpec n = true → 0 < n.stop) {m : Memo} (hm : m.Genuine) :
    ∃ made m', (Plugin.go.extract p).run m = (.ok (arrange made), m') ∧
      (Extractor.go.candidates p).run m = (.ok made, m') ∧
      (made.filter isVariable).Perm ((packageNames foundNames p.tree.root).map (variableOf p)) ∧
      ((made.filter isVariable).Perm ((packageNames specNames p.tree.root).map (variableOf p)) ↔
        ∀ n ∈ packageSpecs p.tree.root, n.isA "const_spec" = true →
          ∀ c ∈ (n.childrenByField "name").drop 2, c.isA "identifier" = false) := by
  obtain ⟨made, m', hextract, hmade, hfound⟩ :=
    Extractor.sound_go.exists_extract (gives_variables hgrammar hroot hstop) hm
  refine ⟨made, m', hextract, hmade, hfound, ?_⟩
  rw [← packageNames_eq_iff hroot]
  refine ⟨fun hall => ?_, fun heq => heq ▸ hfound⟩
  -- what is found is part of what there is, and as long
  have hlength := (hfound.symm.trans hall).length_eq
  rw [List.length_map, List.length_map] at hlength
  refine List.Sublist.eq_of_length ?_ hlength
  exact List.Sublist.flatMap_right _ fun n _ => (foundNames_sublist n).map _

/-- A file with two variables of the package and one of a function. -/
def twoVariables : Parsed :=
  { tree :=
      { source := "package p\nvar a, b int\nfunc f() \x7b var c int \x7d\n".toList,
        root := phrase 0 "source_file" none 0 46
          [phrase 1 "package_clause" none 0 9
            [token 2 "package" 0 7, phrase 3 "package_identifier" none 8 9 []],
           phrase 4 "var_declaration" none 10 22
            [token 5 "var" 10 13,
             phrase 6 "var_spec" none 14 22
              [phrase 7 "identifier" (some "name") 14 15 [], token 8 "," 15 16,
               phrase 9 "identifier" (some "name") 17 18 [],
               phrase 10 "type_identifier" (some "type") 19 22 []]],
           phrase 11 "function_declaration" none 23 45
            [token 12 "func" 23 27, phrase 13 "identifier" (some "name") 28 29 [],
             phrase 14 "parameter_list" (some "parameters") 29 31
              [token 15 "(" 29 30, token 16 ")" 30 31],
             phrase 17 "block" (some "body") 32 45
              [token 18 "\x7b" 32 33,
               phrase 19 "var_declaration" none 34 43
                [token 20 "var" 34 37,
                 phrase 21 "var_spec" none 38 43
                  [phrase 22 "identifier" (some "name") 38 39 [],
                   phrase 23 "type_identifier" (some "type") 40 43 []]],
               token 24 "\x7d" 44 45]]] },
    dialect := ⟨"go", .go⟩,
    path := "p.go" }

/-- A file with two constants that are declared at once. -/
def twoConstants : Parsed :=
  { tree :=
      { source := "package p\nconst a, b = 1, 2\n".toList,
        root := phrase 0 "source_file" none 0 28
          [phrase 1 "package_clause" none 0 9
            [token 2 "package" 0 7, phrase 3 "package_identifier" none 8 9 []],
           phrase 4 "const_declaration" none 10 27
            [token 5 "const" 10 15,
             phrase 6 "const_spec" none 16 27
              [phrase 7 "identifier" (some "name") 16 17 [],
               .node { id := 8, kind := ",", named := false, field := some "name",
                       start := 17, stop := 18 } [],
               phrase 9 "identifier" (some "name") 19 20 [], token 10 "=" 21 22,
               phrase 11 "expression_list" (some "value") 23 27
                [phrase 12 "int_literal" none 23 24 [], token 13 "," 24 25,
                 phrase 14 "int_literal" none 26 27 []]]]] },
    dialect := ⟨"go", .go⟩,
    path := "p.go" }

/-- Two variables are found, and the one inside of the function is not. -/
theorem two_variables_found : ∃ made m',
    (Plugin.go.extract twoVariables).run [] = (.ok (arrange made), m') ∧
      (Extractor.go.candidates twoVariables).run [] = (.ok made, m') ∧
      (made.filter isVariable).Perm
        ((packageNames specNames twoVariables.tree.root).map (variableOf twoVariables)) ∧
      ((packageNames specNames twoVariables.tree.root).map fun x => twoVariables.tree.text x.2)
        = ["a", "b"] := by
  obtain ⟨made, m', hextract, hmade, -, hall⟩ :=
    package_variables_iff (p := twoVariables) rfl (by decide) (by decide) Memo.genuine_nil
  exact ⟨made, m', hextract, hmade, hall.2 (by decide), by decide +kernel⟩

/-- **The second constant is passed over**: the comma before it is in the field too. -/
theorem second_constant_passed_over : ∃ made m',
    (Plugin.go.extract twoConstants).run [] = (.ok (arrange made), m') ∧
      (Extractor.go.candidates twoConstants).run [] = (.ok made, m') ∧
      (made.filter isVariable).map (fun c => c.2.name) = ["a"] ∧
      ((packageNames specNames twoConstants.tree.root).map fun x => twoConstants.tree.text x.2)
        = ["a", "b"] := by
  obtain ⟨made, m', hextract, hmade, hfound⟩ := Extractor.sound_go.exists_extract
    (gives_variables (p := twoConstants) rfl (by decide) (by decide)) Memo.genuine_nil
  have hnames := hfound.map fun c => c.2.name
  have hone : ((packageNames foundNames twoConstants.tree.root).map (variableOf twoConstants)).map
      (fun c => c.2.name) = ["a"] := by
    decide +kernel
  rw [hone, List.perm_singleton] at hnames
  exact ⟨made, m', hextract, hmade, hnames, by decide +kernel⟩

end Go

end Extract

end CodeSurvey
