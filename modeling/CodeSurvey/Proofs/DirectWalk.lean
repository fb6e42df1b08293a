/-
  Python files, walked directly.

  What is extracted from a Python file comes of a query with five patterns.  A walk through the tree
  that looks at one node at a time, knowing only what is right around it, finds the same: functions
  and classes at any depth, imports, and the assignments that are statements of the module.

      a walk looks at every place once                                (`walk_eq`)
      assignments of the module, reached from it or by their parents  (`assignments_perm`)
      each pattern finds what the walk finds of its kind              (`matches_perm`)
      each finding is reported by one element                         (`reported_rule`)

  Main result, `extraction_is_walk`.
-/
import CodeSurvey.Proofs.Names
import Mathlib.Data.List.Flatten

namespace CodeSurvey.Extract.Python

open Syntax Query

/-! ## §1. The walk. -/

/-- What is found: a function, a class, an import with the name it is given, or a variable with its
type. -/
inductive What where
  | function
  | classLike
  | importing (shortName : Option String)
  | variable (declaredType : Option String)

/-- Something that is found, with its node and its name. -/
structure Finding where
  node : Tree
  name : String
  what : What

/-- What is right around a node: a module, a statement of a module, or anything else. -/
inductive Around where
  | inModule
  | inStatement
  | elsewhere
deriving DecidableEq

/-- What is right around the children of a node. -/
def Around.inside (around : Around) (t : Tree) : Around :=
  if t.isA "module" then .inModule
  else if t.isA "expression_statement" && around = .inModule then .inStatement
  else .elsewhere

/-- The identifiers that a node has in a field. -/
def identifiers (t : Tree) (field : String) : List Tree :=
  t.children.filter fun c => c.isA "identifier" && c.field == some field

/-- The first module of an import, with the name it is given. -/
def firstModule? (p : Parsed) (t : Tree) : Option Finding :=
  (t.childByField "name").bind fun first =>
    if first.kind == "aliased_import" then
      (first.childByField "name").map fun path =>
        ⟨t, p.tree.text path, .importing ((first.childByField "alias").map p.tree.text)⟩
    else some ⟨t, p.tree.text first, .importing none⟩

/-- The module that an import takes from. -/
def fromModule? (p : Parsed) (t : Tree) : Option Finding :=
  (t.childByField "module_name").map fun path => ⟨t, p.tree.text path, .importing none⟩

/-- What is found at a node. -/
def findingsAt (p : Parsed) (around : Around) (t : Tree) : List Finding :=
  if t.isA "function_definition" then
    (identifiers t "name").map fun c => ⟨t, p.tree.text c, .function⟩
  else if t.isA "class_definition" then
    (identifiers t "name").map fun c => ⟨t, p.tree.text c, .classLike⟩
  else if t.isA "import_statement" then (firstModule? p t).toList
  else if t.isA "import_from_statement" then (fromModule? p t).toList
  else if t.isA "assignment" && around = .inStatement then
    (identifiers t "left").map fun c =>
      ⟨t, p.tree.text c, .variable ((t.childByField "type").map p.tree.text)⟩
  else []

mutual

/-- What is found at a node and inside of it. -/
def walk (p : Parsed) (around : Around) : Tree → List Finding
  | .node l cs =>
      findingsAt p around (.node l cs) ++ walkAll p (around.inside (.node l cs)) cs

/-- What is found at several nodes and inside of them. -/
def walkAll (p : Parsed) (around : Around) : List Tree → List Finding
  | [] => []
  | t :: ts => walk p around t ++ walkAll p around ts

end

/-! ## §2. The places of a walk. -/

/-- What is right around a place. -/
def aroundOf : List Tree → Around
  | [] => .elsewhere
  | up :: above => (aroundOf above).inside up

mutual

/-- **A walk looks at every place.** -/
theorem walk_eq (p : Parsed) (above : List Tree) : ∀ t : Tree, walk p (aroundOf above) t
    = (spotsBelow above t).flatMap fun s => findingsAt p (aroundOf s.above) s.tree
  | .node l cs => by
      rw [walk, spotsBelow_eq, List.flatMap_cons]
      exact congrArg _ (walkAll_eq p (.node l cs :: above) cs)

theorem walkAll_eq (p : Parsed) (above : List Tree) : ∀ ts : List Tree,
    walkAll p (aroundOf above) ts
      = (spotsOfAll above ts).flatMap fun s => findingsAt p (aroundOf s.above) s.tree
  | [] => rfl
  | t :: ts => by
      rw [walkAll, spotsOfAll, List.flatMap_append, walk_eq p above t, walkAll_eq p above ts]

end

/-- Is a place a statement of a module? -/
def isStatement (s : Spot) : Bool :=
  s.tree.isA "expression_statement" && s.parent.any (·.tree.isA "module")

/-- Is a place an assignment of a module? -/
def isAssignment (s : Spot) : Bool := s.tree.isA "assignment" && s.parent.any isStatement

theorem aroundOf_eq_inModule (above : List Tree) :
    decide (aroundOf above = .inModule) = above.head?.any (·.isA "module") := by
  cases above with
  | nil => rfl
  | cons up above =>
      rw [aroundOf, Around.inside, List.head?_cons, Option.any_some]
      cases up.isA "module" with
      | true => rfl
      | false =>
          rw [if_neg Bool.false_ne_true]
          split <;> rfl

theorem aroundOf_eq_inStatement (s : Spot) :
    decide (aroundOf s.above = .inStatement) = s.parent.any isStatement := by
  obtain ⟨t, above⟩ := s
  cases above with
  | nil => rfl
  | cons up above =>
      have hparent : (Spot.parent ⟨up, above⟩).any (·.tree.isA "module")
          = decide (aroundOf above = .inModule) := by
        rw [aroundOf_eq_inModule]
        cases above <;> rfl
      show decide ((aroundOf above).inside up = .inStatement) = isStatement ⟨up, above⟩
      rw [isStatement, hparent, Around.inside]
      cases hmodule : up.isA "module" with
      | true =>
          -- a module is no statement
          rw [isA_eq_false_of_ne hmodule (by decide : "module" ≠ "expression_statement")]
          rfl
      | false =>
          rw [if_neg Bool.false_ne_true]
          split
          · rename_i hstatement
            exact hstatement.symm
          · rename_i hstatement
            exact (Bool.eq_false_iff.2 hstatement).symm

/-- The assignments among the statements right in a module. -/
def assignmentsBelow (top : Spot) : List Spot :=
  (top.children.filter fun c => c.tree.isA "expression_statement").flatMap fun s =>
    s.children.filter fun c => c.tree.isA "assignment"

/-- **The assignments of modules**, reached from the modules. -/
theorem assignments_perm (root : Tree) : (root.spots.filter isAssignment).Perm
    ((root.spots.filter fun s => s.tree.isA "module").flatMap assignmentsBelow) := by
  have hstatements := filter_spots_perm root isStatement (fun s => s.tree.isA "module")
    (·.isA "expression_statement") (by rw [isStatement]; exact Bool.and_false _) fun s _ c hc => by
      rw [isStatement, parent_of_mem_children hc, Bool.and_comm]
      rfl
  refine (filter_spots_perm root isAssignment isStatement (·.isA "assignment")
    (by rw [isAssignment]; exact Bool.and_false _) fun s _ c hc => ?_).trans ?_
  · rw [isAssignment, parent_of_mem_children hc, Bool.and_comm]
    rfl
  · unfold assignmentsBelow
    rw [← List.flatMap_assoc]
    exact hstatements.flatMap_right _

/-! ## §3. The pattern for variables. -/

/-- The identifiers on the left of an assignment. -/
def lefts (a : Spot) : List Spot :=
  a.children.filter fun c => c.tree.isA "identifier" && c.tree.field == some "left"

/-- The pattern that asks for the assignments of modules. -/
def variablePattern : Pattern :=
  .node (.ofKind "module" none [])
    [(false, .node (.ofKind "expression_statement" none [])
      [(false, .node (.ofKind "assignment" none ["variable"])
        [(false, .node (.ofKind "identifier" (some "left") ["name"]) [])])])]

/-- What is captured of an assignment, told by its left side. -/
def assigned (c : Spot) : Bindings := [("variable", c.parent.getD c), ("name", c)]

section Variables

variable {root : Tree} {s : Spot}

/-- Children of a kind, with something inside them. -/
theorem map_among_inside (kind : String) (captures : List String) (q : Pattern) (s : Spot) :
    ((Pattern.node (.ofKind kind none captures) [(false, q)]).among false s.children).map Prod.fst
      = (s.children.filter fun c => c.tree.isA kind).flatMap fun c =>
          ((q.among false c.children).map Prod.fst).map (captures.map (·, c) ++ ·) := by
  have hclosed : (Head.ofKind kind none captures).Closed s.children :=
    fun _ _ _ _ hcloses => Bool.noConfusion hcloses
  rw [map_among_node rfl (Bool.and_false _) hclosed]
  simp only [Head.fits_ofKind, Option.all_none, Bool.and_true, map_itemsAmong_single]
  rfl

theorem map_among_lefts (hroot : root.Numbered) {a : Spot} (ha : a ∈ root.spots)
    (hkind : a.tree.isA "assignment" = true) :
    ((Pattern.node (.ofKind "identifier" (some "left") ["name"]) []).among false a.children).map
        Prod.fst = (lefts a).map fun c => [("name", c)] := by
  have hclosed : (Head.ofKind "identifier" (some "left") ["name"]).Closed a.children :=
    Head.closed_children (hroot.children (mem_nodes_of_mem_spots ha))
      (by rw [Tree.kind_of_isA hkind]; rfl)
  rw [map_among_node rfl rfl hclosed]
  simp only [Head.fits_ofKind, Option.all_some]
  exact List.flatMap_pure_eq_map _ _

/-- Each assignment below a place of the tree is a place of the tree. -/
theorem mem_assignmentsBelow {a : Spot} (hs : s ∈ root.spots) (ha : a ∈ assignmentsBelow s) :
    a ∈ root.spots ∧ a.tree.isA "assignment" = true := by
  obtain ⟨statement, hstatement, ha⟩ := List.mem_flatMap.1 ha
  obtain ⟨hchild, hkind⟩ := List.mem_filter.1 ha
  exact ⟨mem_spots_of_child (mem_spots_of_child hs (List.mem_of_mem_filter hstatement)) hchild, hkind⟩

/-- What is found below a module: the left sides of its assignments. -/
theorem map_startingAt_variablePattern (hroot : root.Numbered) (hs : s ∈ root.spots)
    (after : List Spot) : (variablePattern.startingAt s after).map Prod.fst
      = if s.tree.isA "module" then ((assignmentsBelow s).flatMap lefts).map assigned else [] := by
  have hassignment : ∀ a ∈ assignmentsBelow s,
      (((Pattern.node (.ofKind "identifier" (some "left") ["name"]) []).among false a.children).map
        Prod.fst).map ([("variable", a)] ++ ·) = (lefts a).map assigned := by
    intro a ha
    obtain ⟨ha, hkind⟩ := mem_assignmentsBelow hs ha
    rw [map_among_lefts hroot ha hkind, List.map_map]
    refine List.map_congr_left fun c hc => ?_
    rw [assigned, parent_of_mem_children (List.mem_of_mem_filter hc)]
    rfl
  have hmodule : (Head.ofKind "module" none []).bind s = [] := rfl
  rw [variablePattern, map_startingAt_node, Head.fits_ofKind, Option.all_none, Bool.and_true,
    map_itemsAmong_single, map_among_inside, @List.map_flatMap _ _ _ assigned,
    ← List.flatMap_congr hassignment]
  simp only [hmodule, map_among_inside, List.map_nil, List.nil_append, List.map_id']
  rw [assignmentsBelow, List.flatMap_assoc]
  rfl

/-- No two places are the same child. -/
theorem nodup_children (hroot : root.Numbered) : (root.spots.flatMap Spot.children).Nodup :=
  (List.nodup_cons.1 ((spots_perm_children root).nodup_iff.1 (.of_map _ hroot.nodup_spots))).2

/-- **The left sides of the assignments of modules**, reached from the modules. -/
theorem lefts_perm (root : Tree) :
    ((root.spots.filter fun s => s.tree.isA "module").flatMap fun s =>
        (assignmentsBelow s).flatMap lefts).Perm
      ((root.spots.filter isAssignment).flatMap lefts) := by
  rw [← List.flatMap_assoc]
  exact (assignments_perm root).symm.flatMap_right _

theorem nodup_lefts (hroot : root.Numbered) (hs : s ∈ root.spots)
    (hkind : s.tree.isA "module" = true) : ((assignmentsBelow s).flatMap lefts).Nodup := by
  have hall : ((root.spots.filter isAssignment).flatMap lefts).Nodup := by
    refine (nodup_children hroot).sublist ?_
    refine (List.Sublist.flatMap_right _ fun a _ => List.filter_sublist).trans ?_
    exact List.filter_sublist.flatMap _
  have hmodules := (lefts_perm root).nodup_iff.2 hall
  exact (List.nodup_flatMap.1 hmodules).1 s (List.mem_filter.2 ⟨hs, hkind⟩)

/-- **The matches of the pattern for variables** at a place: one for each left side. -/
theorem matchesAt_variablePattern (hroot : root.Numbered) (hs : s ∈ root.spots) :
    variablePattern.matchesAt s
      = if s.tree.isA "module" then ((assignmentsBelow s).flatMap lefts).map assigned else [] := by
  unfold Pattern.matchesAt
  dsimp only
  rw [map_startingAt_variablePattern hroot hs]
  split
  · rename_i hkind
    have hmem : ∀ c ∈ (assignmentsBelow s).flatMap lefts, c ∈ root.spots := by
      intro c hc
      obtain ⟨a, ha, hc⟩ := List.mem_flatMap.1 hc
      exact mem_spots_of_child (mem_assignmentsBelow hs ha).1 (List.mem_of_mem_filter hc)
    -- left sides are told apart by their numbers
    refine maximal_of_pairwise (List.pairwise_map.2 ?_)
    refine List.Pairwise.imp_of_mem (fun {c c'} hc hc' hne => ?_) (nodup_lefts hroot hs hkind)
    have hid : c.tree.id ≠ c'.tree.id := fun hid => hne (hroot.spot_eq (hmem c hc) (hmem c' hc') hid)
    simp [covers, assigned, hid, Ne.symm hid]
  · rfl

end Variables

/-! ## §4. What the patterns find. -/

/-- The roles of what is sighted. -/
def roles : List String := ["function", "class", "import", "import_from", "variable"]

/-- The patterns that are asked for. -/
def patterns : List Pattern :=
  [(⟨"function_definition", "identifier", "function"⟩ : Form).pattern,
   (⟨"class_definition", "identifier", "class"⟩ : Form).pattern,
   .node (.ofKind "import_statement" none ["import"]) [],
   .node (.ofKind "import_from_statement" none ["import_from"]) [],
   variablePattern]

/-- What a sighting is about. -/
def seen (p : Parsed) (s : Sighting) : Option Finding :=
  let t := s.spot.tree
  match s.role, s.name with
  | "function", some name => some ⟨t, name, .function⟩
  | "class", some name => some ⟨t, name, .classLike⟩
  | "variable", some name => some ⟨t, name, .variable (fieldText p t "type")⟩
  | "import", _ => firstModule? p t
  | "import_from", _ => fromModule? p t
  | _, _ => none

/-- What a match is about. -/
def noticed (p : Parsed) (b : Bindings) : Option Finding := (sight? p roles b).bind (seen p)

section Finding

variable {p : Parsed} {root : Tree}

theorem seen_of_role {s : Sighting} (hrole : roles.contains s.role = false) : seen p s = none := by
  have hother : ∀ {role : String}, s.role = role → roles.contains role ≠ true :=
    fun hs => hs ▸ Bool.eq_false_iff.1 hrole
  unfold seen
  dsimp only
  split
  · rename_i hs _
    exact absurd rfl (hother hs)
  · rename_i hs _
    exact absurd rfl (hother hs)
  · rename_i hs _
    exact absurd rfl (hother hs)
  · rename_i hs
    exact absurd rfl (hother hs)
  · rename_i hs
    exact absurd rfl (hother hs)
  · rfl

/-- What is found at a node of a kind that is declared with a name. -/
def namedAt (p : Parsed) (kind : String) (what : What) (t : Tree) : List Finding :=
  if t.isA kind then (identifiers t "name").map fun c => ⟨t, p.tree.text c, what⟩ else []

/-- What is found at an import of a kind. -/
def importedAt (kind : String) (module? : Tree → Option Finding) (t : Tree) : List Finding :=
  if t.isA kind then (module? t).toList else []

/-- What is found at a place that is an assignment of a module. -/
def assignedAt (p : Parsed) (s : Spot) : List Finding :=
  if isAssignment s then
    (identifiers s.tree "left").map fun c =>
      ⟨s.tree, p.tree.text c, .variable (fieldText p s.tree "type")⟩
  else []

/-- **What is found at a place**, kind by kind. -/
theorem findingsAt_eq (p : Parsed) (s : Spot) : findingsAt p (aroundOf s.above) s.tree
    = namedAt p "function_definition" .function s.tree ++
      (namedAt p "class_definition" .classLike s.tree ++
        (importedAt "import_statement" (firstModule? p) s.tree ++
          (importedAt "import_from_statement" (fromModule? p) s.tree ++ assignedAt p s))) := by
  unfold findingsAt namedAt importedAt assignedAt
  rw [aroundOf_eq_inStatement, ← isAssignment]
  -- a node of one kind adds nothing to the others
  split
  · rename_i hkind
    simp [isAssignment, isA_eq_false_of_ne hkind]
  · split
    · rename_i hkind
      simp [isAssignment, isA_eq_false_of_ne hkind]
    · split
      · rename_i hkind
        simp [isAssignment, isA_eq_false_of_ne hkind]
      · split
        · rename_i hkind
          simp [isAssignment, isA_eq_false_of_ne hkind]
        · rfl

/-- What the pattern of a form finds. -/
theorem filterMap_named (hroot : root.Numbered) (f : Form) (what : What)
    (hname : f.nameKind = "identifier") (hrole : f.role ≠ "name")
    (hstop : ∀ n ∈ root.nodes, n.isA f.kind = true → 0 < n.stop)
    (hrun : runs.lookup (f.kind, "name") = none)
    (hnoticed : ∀ s c, noticed p [(f.role, s), ("name", c)]
      = some ⟨s.tree, p.tree.text c.tree, what⟩) :
    (f.pattern.matchesIn root).filterMap (noticed p)
      = root.spots.flatMap fun s => namedAt p f.kind what s.tree := by
  have hfound : ∀ s ∈ root.spots, s.tree.isA f.kind = true →
      (f.namesAt s).filterMap (fun c => some (⟨s.tree, p.tree.text c.tree, what⟩ : Finding))
        = (identifiers s.tree "name").map fun c => ⟨s.tree, p.tree.text c, what⟩ := by
    intro s hs hkind
    have hnames : (f.namesAt s).map Spot.tree = identifiers s.tree "name" := by
      rw [Form.namesAt_eq hroot hs (by rw [Tree.kind_of_isA hkind]; exact hrun), identifiers]
      unfold Form.isName
      rw [hname]
      exact map_tree_filter_children s fun c => c.isA "identifier" && c.field == some "name"
    rw [← hnames, List.map_map, ← List.filterMap_eq_map]
    rfl
  rw [Form.filterMap_matchesIn_names hrole hroot hnoticed, placesOf_eq hstop, flatMap_filter_ite]
  refine List.flatMap_congr fun s hs => ?_
  unfold namedAt
  split
  · rename_i hkind
    exact hfound s hs hkind
  · rfl

/-- What the pattern of an import finds. -/
theorem filterMap_imported (kind role : String) (module? : Tree → Option Finding)
    (hstop : ∀ n ∈ root.nodes, n.isA kind = true → 0 < n.stop)
    (hnoticed : ∀ s, noticed p [(role, s)] = module? s.tree) :
    ((Pattern.node (.ofKind kind none [role]) []).matchesIn root).filterMap (noticed p)
      = root.spots.flatMap fun s => importedAt kind module? s.tree := by
  have hmatches : ∀ s : Spot, (Pattern.node (.ofKind kind none [role]) []).matchesAt s
      = if s.tree.isA kind then [[(role, s)]] else [] := by
    intro s
    unfold Pattern.matchesAt
    dsimp only
    rw [map_startingAt_node, Head.fits_ofKind, Option.all_none, Bool.and_true]
    split
    · exact maximal_of_eq (List.cons_ne_nil _ _) (List.forall_mem_singleton.2 rfl)
    · rfl
  have hat : ∀ s : Spot, ((Pattern.node (.ofKind kind none [role]) []).matchesAt s).filterMap
      (noticed p) = if s.tree.isA kind then (module? s.tree).toList else [] := by
    intro s
    rw [hmatches]
    split
    · rw [List.filterMap_cons, hnoticed]
      cases module? s.tree with
      | none => rfl
      | some m => rfl
    · rfl
  rw [matchesIn_node, List.filterMap_flatMap, List.flatMap_congr fun s _ => hat s,
    ← flatMap_filter_ite (fun s : Spot => s.tree.isA kind), ← placesOf, placesOf_eq hstop,
    flatMap_filter_ite]
  rfl

/-- What the pattern for variables finds. -/
theorem filterMap_assigned (hroot : root.Numbered)
    (hstop : ∀ n ∈ root.nodes, n.isA "module" = true → n.stop = 0 → n.children = [])
    (hnoticed : ∀ s c, noticed p [("variable", s), ("name", c)]
      = some ⟨s.tree, p.tree.text c.tree, .variable (fieldText p s.tree "type")⟩) :
    ((variablePattern.matchesIn root).filterMap (noticed p)).Perm
      (root.spots.flatMap (assignedAt p)) := by
  have hat : ∀ s ∈ root.spots, (variablePattern.matchesAt s).filterMap (noticed p)
      = if s.tree.isA "module" then
          ((assignmentsBelow s).flatMap lefts).filterMap (noticed p ∘ assigned) else [] := by
    intro s hs
    rw [matchesAt_variablePattern hroot hs]
    split
    · exact List.filterMap_map
    · rfl
  -- from the modules to the assignments
  have hmodules : (variablePattern.matchesIn root).filterMap (noticed p)
      = (root.spots.filter fun s => s.tree.isA "module").flatMap fun s =>
          ((assignmentsBelow s).flatMap lefts).filterMap (noticed p ∘ assigned) := by
    rw [variablePattern, matchesIn_node, ← variablePattern, List.filterMap_flatMap,
      flatMap_filter_ite, flatMap_filter_ite]
    refine List.flatMap_congr fun s hs => ?_
    split
    · exact hat s hs
    · -- a module that is passed over has no children
      rename_i hzero
      split
      · rename_i hkind
        have hnone : s.children = [] := by
          rw [Spot.children, hstop s.tree (mem_nodes_of_mem_spots hs) hkind (by simpa using hzero)]
          rfl
        rw [assignmentsBelow, hnone]
        rfl
      · rfl
  rw [hmodules, ← List.filterMap_flatMap]
  refine ((lefts_perm root).filterMap _).trans (.of_eq ?_)
  rw [flatMap_filter_ite, List.filterMap_flatMap]
  refine List.flatMap_congr fun s _ => ?_
  unfold assignedAt
  split
  · have hlefts : (lefts s).map Spot.tree = identifiers s.tree "left" :=
      map_tree_filter_children s fun c => c.isA "identifier" && c.field == some "left"
    rw [← hlefts, List.map_map, ← List.filterMap_eq_map]
    refine List.filterMap_congr fun c hc => ?_
    rw [Function.comp_apply, assigned, parent_of_mem_children (List.mem_of_mem_filter hc)]
    exact hnoticed s c
  · rfl

theorem noticed_pair {role : String} (hrole : roles.contains role = true) (hne : role ≠ "name")
    (s c : Spot) : noticed p [(role, s), ("name", c)]
      = seen p ⟨role, s, some (p.tree.text c.tree), [(role, s), ("name", c)]⟩ := by
  rw [noticed, sight?_pair hrole hne]
  rfl

/-- The kinds of what is declared at any depth. -/
def declared : List String :=
  ["function_definition", "class_definition", "import_statement", "import_from_statement"]

/-- Nothing that is asked for ends at the start of the file, but modules without children. -/
def Reached (root : Tree) : Prop :=
  (∀ n ∈ root.nodes, declared.contains n.kind = true → 0 < n.stop) ∧
    ∀ n ∈ root.nodes, n.isA "module" = true → n.stop = 0 → n.children = []

instance (root : Tree) : Decidable (Reached root) := inferInstanceAs (Decidable (_ ∧ _))

/-- **The patterns find what a walk finds.** -/
theorem matches_perm (hroot : root.Numbered) (hreached : Reached root) :
    ((patterns.flatMap (·.matchesIn root)).filterMap (noticed p)).Perm (walk p .elsewhere root) := by
  have hstop : ∀ {kind : String}, declared.contains kind = true →
      ∀ n ∈ root.nodes, n.isA kind = true → 0 < n.stop :=
    fun hmem n hn hkind => hreached.1 n hn (by rw [Tree.kind_of_isA hkind]; exact hmem)
  have hwalk : walk p .elsewhere root = root.spots.flatMap fun s =>
      findingsAt p (aroundOf s.above) s.tree := walk_eq p [] root
  have hfunctions := filterMap_named (p := p) hroot
    ⟨"function_definition", "identifier", "function"⟩ .function rfl (by decide) (hstop rfl)
    (by decide) fun s c => (noticed_pair rfl (by decide) s c).trans rfl
  have hclasses := filterMap_named (p := p) hroot
    ⟨"class_definition", "identifier", "class"⟩ .classLike rfl (by decide) (hstop rfl)
    (by decide) fun s c => (noticed_pair rfl (by decide) s c).trans rfl
  have himports := filterMap_imported (p := p) "import_statement" "import" (firstModule? p)
    (hstop rfl) fun s => rfl
  have hfroms := filterMap_imported (p := p) "import_from_statement" "import_from" (fromModule? p)
    (hstop rfl) fun s => rfl
  have hvariables := filterMap_assigned (p := p) hroot hreached.2
    fun s c => (noticed_pair rfl (by decide) s c).trans rfl
  -- what is found kind by kind is found place by place
  have happend : ∀ {f g : Spot → List Finding} {rest : List Finding},
      rest.Perm (root.spots.flatMap g) →
      (root.spots.flatMap f ++ rest).Perm (root.spots.flatMap fun s => f s ++ g s) :=
    fun h => (h.append_left _).trans (List.flatMap_append_perm _ _ _)
  rw [hwalk]
  simp only [findingsAt_eq]
  simp only [patterns, List.flatMap_cons, List.flatMap_nil, List.append_nil, List.filterMap_append,
    hfunctions, hclasses, himports, hfroms]
  exact happend (happend (happend (happend hvariables)))

end Finding

/-! ## §5. What is reported. -/

/-- Does the kind of an element say what was found under a name? -/
def What.Told (name : String) : What → ElementKind → Prop
  | .function, .function _ => True
  | .classLike, .classLike facts => facts.classKind = "class"
  | .importing shortName, kind => kind = .importing name shortName
  | .variable declaredType, kind => kind = .variable declaredType
  | _, _ => False

/-- A candidate reports a finding: it is an element of its node, with its name and its kind. -/
def Reports (p : Parsed) (f : Finding) (c : Candidate) : Prop :=
  ∃ kind, c = (f.node.start, elementOf p f.node f.name kind) ∧ f.what.Told f.name kind

/-- Are the rules those of the patterns? -/
def asks (rules : List Rule) : Bool :=
  decide ((rules.filter (speaksOf roles)).map Rule.plain? = patterns.map some)

section Reading

set_option maxRecDepth 10000

theorem declarations_ask : Accepted .python asks declarations :=
  accepted_of_compileText rfl (by decide +kernel)

end Reading

section Reporting

variable {p : Parsed}

theorem reported_import (p : Parsed) (s : Sighting) : Reported (Reports p) s
    (firstModule? p s.spot.tree) ((importElement p s.spot.tree).bind some) := by
  unfold firstModule? importElement
  cases s.spot.tree.childByField "name" with
  | none => trivial
  | some first =>
      simp only [Option.bind_eq_bind, Option.bind_some]
      split
      · unfold fieldText
        cases first.childByField "name" with
        | none => trivial
        | some path => exact ⟨_, rfl, rfl⟩
      · exact ⟨_, rfl, rfl⟩

theorem reported_importFrom (p : Parsed) (s : Sighting) : Reported (Reports p) s
    (fromModule? p s.spot.tree) ((importFromElement p s.spot.tree).bind some) := by
  unfold fromModule? importFromElement fieldText
  cases s.spot.tree.childByField "module_name" with
  | none => trivial
  | some path => exact ⟨_, rfl, rfl⟩

theorem reports_classElement (p : Parsed) (t : Tree) (name : String) :
    Reports p ⟨t, name, .classLike⟩ (t.start, classElement p t name) := by
  unfold classElement
  split
  · exact ⟨_, rfl, rfl⟩
  · exact ⟨_, rfl, rfl⟩

/-- **Each finding is reported** by the element that is made of its sighting. -/
theorem reported_rule (haccepted : Accepted p.dialect.grammar (fun _ => true) decisions)
    (s : Sighting) :
    Gives (fun e => Reported (Reports p) s (seen p s) (e.bind some)) (rule p s) := by
  unfold rule
  split
  · rename_i name hrole hname
    rw [seen, hrole, hname]
    refine (gives_functionOf haccepted s.spot.tree name _).map ?_
    rintro _ ⟨facts, rfl⟩
    exact ⟨_, rfl, trivial⟩
  · rename_i name hrole hname
    rw [seen, hrole, hname]
    exact .pure (a := some (classElement p s.spot.tree name))
      (reports_classElement p s.spot.tree name)
  · rename_i name hrole hname
    rw [seen, hrole, hname]
    exact .pure ⟨_, rfl, rfl⟩
  · rename_i hrole
    rw [seen, hrole]
    exact .pure (a := importElement p s.spot.tree) (reported_import p s)
  · rename_i hrole
    rw [seen, hrole]
    exact .pure (a := importFromElement p s.spot.tree) (reported_importFrom p s)
  · -- of no other sighting is anything made
    rename_i himport hfrom hfunction hclass hvariable
    have hnone : seen p s = none := by
      unfold seen
      split
      · rename_i name hrole hname
        exact (hfunction name hrole hname).elim
      · rename_i name hrole hname
        exact (hclass name hrole hname).elim
      · rename_i name hrole hname
        exact (hvariable name hrole hname).elim
      · rename_i hrole
        exact (himport hrole).elim
      · rename_i hrole
        exact (hfrom hrole).elim
      · rfl
    rw [hnone]
    exact .pure (a := none) trivial

/-- **The candidates of a file** report what a walk finds. -/
theorem gives_walk (hgrammar : p.dialect.grammar = .python) (hroot : p.tree.root.Numbered)
    (hreached : Reached p.tree.root) :
    Gives (fun made => ∃ found, found.Perm (walk p .elsewhere p.tree.root) ∧
      List.Forall₂ (Reports p) found made) ((Extractor.plain .python).candidates p) := by
  have hasks : Accepted p.dialect.grammar asks declarations := by
    rw [hgrammar]
    exact declarations_ask
  have hdecided : Accepted p.dialect.grammar (fun _ => true) decisions := by
    rw [hgrammar]
    exact decisions_accepted.weaken
  refine Extractor.gives_candidates_of_accepted (v := .plain .python) hasks declarations_overlook
    fun q hrules hover => ?_
  refine (gives_candidates_reported fun s _ => reported_rule hdecided s).imp
    fun made hmade => ⟨(sighted p roles q).filterMap (seen p), ?_, ?_⟩
  · refine (sighted_perm_speaking (of_decide_eq_true hrules) hover fun s hrole => ?_).trans
      (matches_perm hroot hreached)
    exact seen_of_role hrole
  · -- nothing that is made is left out, nor is anything credited
    have hobserved : Candidate.observed (some : Element → Option Element) = some := rfl
    rw [hobserved, List.filterMap_some] at hmade
    exact hmade

end Reporting

/-! ## §6. Whole files. -/

/-- **The elements of a Python file are what a walk finds.**  A tree in which nothing that is asked for
ends at its start, but modules without children, has its elements extracted.  They are arranged of
candidates that report, one by one and up to their order, the findings of a walk: functions and classes
at any depth by their names, imports by their modules, and the assignments that are statements of a
module by their left sides. -/
theorem extraction_is_walk {p : Parsed} (hgrammar : p.dialect.grammar = .python)
    (hroot : p.tree.root.Numbered) (hreached : Reached p.tree.root) {m : Memo} (hm : m.Genuine) :
    ∃ made m', (Plugin.python.extract p).run m = (.ok (arrange made), m') ∧
      ((Extractor.plain .python).candidates p).run m = (.ok made, m') ∧
      ∃ found, found.Perm (walk p .elsewhere p.tree.root) ∧ List.Forall₂ (Reports p) found made := by
  have hsound : (Extractor.plain .python).Sound := Extractor.sound_of_mem (by simp [Extractor.all])
  exact hsound.exists_extract (gives_walk hgrammar hroot hreached) hm

/-- A file with a function, an assignment inside of it and a chain of assignments behind it. -/
def chainedAssignments : Parsed :=
  { tree :=
      { source := "def f():\n  a = 1\nx = y = 1\n".toList,
        root := phrase 0 "module" none 0 27
          [phrase 1 "function_definition" none 0 16
            [token 2 "def" 0 3, phrase 3 "identifier" (some "name") 4 5 [],
             phrase 4 "parameters" (some "parameters") 5 7 [token 5 "(" 5 6, token 6 ")" 6 7],
             token 7 ":" 7 8,
             phrase 8 "block" (some "body") 11 16
              [phrase 9 "expression_statement" none 11 16
                [phrase 10 "assignment" none 11 16
                  [phrase 11 "identifier" (some "left") 11 12 [], token 12 "=" 13 14,
                   phrase 13 "integer" (some "right") 15 16 []]]]],
           phrase 14 "expression_statement" none 17 26
            [phrase 15 "assignment" none 17 26
              [phrase 16 "identifier" (some "left") 17 18 [], token 17 "=" 19 20,
               phrase 18 "assignment" (some "right") 21 26
                [phrase 19 "identifier" (some "left") 21 22 [], token 20 "=" 23 24,
                 phrase 21 "integer" (some "right") 25 26 []]]]] },
    dialect := ⟨"python", .python⟩,
    path := "f.py" }

/-- The function and the variable of the module are found, and no other assignment is. -/
theorem chained_assignments_walked : ∃ made m',
    (Plugin.python.extract chainedAssignments).run [] = (.ok (arrange made), m') ∧
      ((Extractor.plain .python).candidates chainedAssignments).run [] = (.ok made, m') ∧
      (∃ found, found.Perm (walk chainedAssignments .elsewhere chainedAssignments.tree.root) ∧
        List.Forall₂ (Reports chainedAssignments) found made) ∧
      (walk chainedAssignments .elsewhere chainedAssignments.tree.root).map (fun f => f.name)
        = ["f", "x"] := by
  obtain ⟨made, m', hextract, hmade, hfound⟩ :=
    extraction_is_walk (p := chainedAssignments) rfl (by decide) (by decide) Memo.genuine_nil
  exact ⟨made, m', hextract, hmade, hfound, by decide +kernel⟩

end CodeSurvey.Extract.Python
