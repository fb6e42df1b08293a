/-
  Names that are bound in a script.

  Scripts bind names with `const`, `let` and `var`.  Two patterns find them: one for functions that
  are bound to a name, wherever they stand, and one for variables at the top of a file.

      at a declarator, the first one finds a function or nothing    (`matchesAt_functionPattern`)
      the second one finds what is reached from a program           (`mem_matchesAt_variablePattern`)
      of what both find, at most one element is made                (`Titles.filterMap_sightingsAt`)

  Main result, for all plugins for scripts: what is bound at the top of a file is extracted once,
  exported or not, and what is bound elsewhere if it is a function (`bindings_extracted_once`).  The
  second pattern knows of no `var` that is exported, so a variable that is bound like this is passed
  over (`exported_var_passed_over`).
-/
import CodeSurvey.Proofs.Arrangement
import CodeSurvey.Proofs.Nesting

namespace CodeSurvey

open Syntax Query

namespace Extract

namespace Script

/-! ## §1. Declarators. -/

/-- Is the value of a declarator a function? -/
def functionValued (d : Tree) : Bool :=
  (d.childByField "value").any fun v => functionKinds.contains v.kind

/-- Is the declaration of a declarator right in the program? -/
def direct (d : Spot) : Bool :=
  d.parent.any fun k => (k.tree.isA "lexical_declaration" || k.tree.isA "variable_declaration")
    && k.parent.any fun top => top.tree.isA "program"

/-- Is the declaration of a declarator of a kind and exported, right in the program? -/
def exportedAs (kind : String) (d : Spot) : Bool :=
  d.parent.any fun k => k.tree.isA kind && k.tree.field == some "declaration"
    && k.parent.any fun e => e.tree.isA "export_statement"
      && e.parent.any fun top => top.tree.isA "program"

/-- Is a declarator at the top of its file, exported or not? -/
def topLevel (d : Spot) : Bool :=
  direct d || exportedAs "lexical_declaration" d || exportedAs "variable_declaration" d

/-- What a declarator should be taken for: a function, a variable or nothing. -/
def declaredAs (d : Spot) : Option String :=
  if functionValued d.tree then some "function"
  else if topLevel d then some "variable"
  else none

/-- Is a declarator passed over?  It is exported with `var`, and it is no function. -/
def passedOver (d : Spot) : Bool :=
  exportedAs "variable_declaration" d && !functionValued d.tree

/-- Is a declarator found as a variable? -/
def foundAtTop (d : Spot) : Bool := direct d || exportedAs "lexical_declaration" d

theorem foundAtTop_of_passedOver {d : Spot} (h : passedOver d = true) : foundAtTop d = false := by
  rw [passedOver, Bool.and_eq_true] at h
  have hexported := h.1
  unfold exportedAs at hexported
  unfold foundAtTop direct exportedAs
  cases hk : d.parent with
  | none => rfl
  | some k =>
      rw [hk] at hexported
      simp only [Option.any_some, Bool.and_eq_true] at hexported ⊢
      obtain ⟨⟨hkind, -⟩, he⟩ := hexported
      -- what it stands in is neither a program nor declared with `let` or `const`
      cases hparent : k.parent with
      | none =>
          rw [hparent] at he
          cases he
      | some e =>
          rw [hparent] at he
          simp only [Option.any_some, Bool.and_eq_true] at he ⊢
          have hprogram : e.tree.isA "program" = false := by
            simp [Tree.isA, Tree.kind_of_isA he.1]
          have hlexical : k.tree.isA "lexical_declaration" = false := by
            simp [Tree.isA, Tree.kind_of_isA hkind]
          simp [hprogram, hlexical]

theorem declaredAs_of_passedOver {d : Spot} (h : passedOver d = true) :
    declaredAs d = some "variable" := by
  rw [passedOver, Bool.and_eq_true, Bool.not_eq_true'] at h
  simp [declaredAs, topLevel, h.1, h.2]

/-- Declarators whose name is an identifier. -/
def variableForm : Form := ⟨"variable_declarator", "identifier", "variable"⟩

/-- A declarator with one name, the children before and after which are known: what its field `value`
leads to is the one child after the name that has this field.  Neither it nor anything around it ends
where the text begins. -/
structure Declarator (d : Spot) (before : List Tree) (name : Tree) (after : List Tree) : Prop where
  kind : d.tree.isA "variable_declarator" = true
  children : d.tree.children = before ++ name :: after
  isName : variableForm.isName name = true
  single : ∀ c ∈ before ++ after, variableForm.isName c = false
  value : ∀ v, d.tree.childByField "value" = some v ↔ v ∈ after ∧ v.field = some "value"
  plain : ∀ v ∈ after, functionKinds.contains v.kind = true → v.isA v.kind = true
  ends : ∀ t ∈ d.tree :: d.above, 0 < t.stop

/-- The pattern for functions that are bound to a name. -/
def functionPattern : Pattern :=
  .node (.ofKind "variable_declarator" none ["function_variable"])
    [(false, .node (.ofKind "identifier" (some "name") ["name"]) []),
     (false, .either (functionKinds.map fun k => .node (.ofKind k (some "value") []) []))]

/-- The pattern for variables at the top of a file. -/
def variablePattern : Pattern :=
  .node (.ofKind "program" none [])
    [(false, .either
      [.node (.ofKind "lexical_declaration" none []) [(false, variableForm.pattern)],
       .node (.ofKind "variable_declaration" none []) [(false, variableForm.pattern)],
       .node (.ofKind "export_statement" none [])
        [(false, .node (.ofKind "lexical_declaration" (some "declaration") [])
          [(false, variableForm.pattern)])]])]

/-! ## §2. The matches at a declarator. -/

section Matches

variable {root : Tree} {d : Spot} {before after : List Tree} {name : Tree}

/-- The place of a child of a declarator. -/
def below (d : Spot) (c : Tree) : Spot := ⟨c, d.tree :: d.above⟩

namespace Declarator

theorem spots (h : Declarator d before name after) :
    d.children = before.map (below d) ++ below d name :: after.map (below d) := by
  rw [Spot.children, h.children, List.map_append, List.map_cons]
  rfl

/-- Its value is a function if a function stands in the field. -/
theorem functionValued_eq (h : Declarator d before name after) :
    functionValued d.tree = functionKinds.any fun k =>
      after.any fun v => v.field == some "value" && v.isA k := by
  rw [Bool.eq_iff_iff]
  unfold functionValued
  simp only [Option.any_eq_true, List.any_eq_true, Bool.and_eq_true, beq_iff_eq]
  constructor
  · rintro ⟨v, hv, hkind⟩
    obtain ⟨hmem, hfield⟩ := (h.value v).1 hv
    exact ⟨v.kind, List.contains_iff_mem.1 hkind, v, hmem, hfield, h.plain v hmem hkind⟩
  · rintro ⟨k, hk, v, hmem, hfield, hisA⟩
    obtain rfl := Tree.kind_of_isA hisA
    exact ⟨v, (h.value v).2 ⟨hmem, hfield⟩, List.contains_iff_mem.2 hk⟩

/-- The one place of a name. -/
theorem eq_of_isName (h : Declarator d before name after) {c : Spot} (hc : c ∈ d.children)
    (hname : variableForm.isName c.tree = true) : c = below d name := by
  rw [h.spots] at hc
  have hnot : ∀ x ∈ before ++ after, below d x ≠ c := by
    rintro x hx rfl
    exact Bool.false_ne_true ((h.single x hx).symm.trans hname)
  simp only [List.mem_append, List.mem_cons, List.mem_map] at hc hnot
  rcases hc with ⟨x, hx, heq⟩ | heq | ⟨x, hx, heq⟩
  · exact absurd heq (hnot x (.inl hx))
  · exact heq
  · exact absurd heq (hnot x (.inr hx))

end Declarator

/-- **The matches of the function pattern** at a declarator: one if its value is a function. -/
theorem matchesAt_functionPattern (hroot : root.Numbered) (hd : d ∈ root.spots)
    (h : Declarator d before name after) :
    functionPattern.matchesAt d
      = if functionValued d.tree then [[("function_variable", d), ("name", below d name)]] else [] := by
  have hnumbered := hroot.children (mem_nodes_of_mem_spots hd)
  have hkind := Tree.kind_of_isA h.kind
  have hnameClosed : (Head.ofKind "identifier" (some "name") ["name"]).Closed d.children :=
    Head.closed_children hnumbered (by rw [hkind]; rfl)
  have hvalueClosed : ∀ k, (Head.ofKind k (some "value") []).Closed (after.map (below d)) := by
    intro k
    have hclosed : (Head.ofKind k (some "value") []).Closed d.children :=
      Head.closed_children hnumbered (by rw [hkind]; rfl)
    rw [h.spots] at hclosed
    exact hclosed.of_append.tail
  have hfits : ∀ c, (Head.ofKind "identifier" (some "name") ["name"]).fits (below d c) []
      = variableForm.isName c := fun c => Head.fits_ofKind ..
  -- the name is found at one place, and what is left are the children behind it
  have hname : (Pattern.node (.ofKind "identifier" (some "name") ["name"]) []).among false d.children
      = [([("name", below d name)], after.map (below d))] := by
    rw [h.spots] at hnameClosed ⊢
    rw [Pattern.among]
    refine scan_of_unique rfl ((hfits name).trans h.isName) ?_ _ hnameClosed ?_
    · intro x hx
      obtain ⟨c, hc, rfl⟩ := List.mem_map.1 hx
      exact (hfits c).trans (h.single c (List.mem_append_right _ hc))
    · intro x hx
      obtain ⟨c, hc, rfl⟩ := List.mem_map.1 hx
      exact (hfits c).trans (h.single c (List.mem_append_left _ hc))
  -- behind it, one match for each kind of function that is there
  have hmatches : ∀ behind, (functionPattern.startingAt d behind).map Prod.fst
      = (functionKinds.filter fun k => after.any fun v => v.field == some "value" && v.isA k).map
          fun _ => [("function_variable", d), ("name", below d name)] := by
    intro behind
    rw [functionPattern, map_startingAt_node, Head.fits_ofKind, h.kind, map_itemsAmong_cons hname,
      map_itemsAmong_single, Pattern.among, map_anyAmong_closed hvalueClosed, List.map_map,
      List.map_map]
    simp only [List.any_map]
    rfl
  unfold Pattern.matchesAt
  dsimp only
  rw [hmatches, h.functionValued_eq]
  split
  · rename_i hvalued
    obtain ⟨k, hk, hany⟩ := List.any_eq_true.1 hvalued
    refine maximal_of_eq (List.ne_nil_of_mem (List.mem_map_of_mem (List.mem_filter.2 ⟨hk, hany⟩))) ?_
    simp
  · rename_i hvalued
    rw [List.filter_eq_nil_iff.2 fun k hk hany => hvalued (List.any_eq_true.2 ⟨k, hk, hany⟩)]
    rfl

/-- A declarator is found as a variable from a program. -/
def ReachedFrom (top d : Spot) : Prop :=
  top.tree.isA "program" = true ∧ ∃ k, d.parent = some k ∧
    ((k.parent = some top ∧
        (k.tree.isA "lexical_declaration" = true ∨ k.tree.isA "variable_declaration" = true)) ∨
      (k.tree.isA "lexical_declaration" = true ∧ k.tree.field = some "declaration" ∧
        ∃ e, k.parent = some e ∧ e.tree.isA "export_statement" = true ∧ e.parent = some top))

theorem foundAtTop_iff : foundAtTop d = true ↔ ∃ top, ReachedFrom top d := by
  unfold foundAtTop direct exportedAs ReachedFrom
  simp only [Bool.or_eq_true, Option.any_eq_true, Bool.and_eq_true, beq_iff_eq]
  constructor
  · rintro (⟨k, hk, hkind, top, htop, hprogram⟩ |
      ⟨k, hk, ⟨hkind, hfield⟩, e, he, hexport, top, htop, hprogram⟩)
    · exact ⟨top, hprogram, k, hk, .inl ⟨htop, hkind⟩⟩
    · exact ⟨top, hprogram, k, hk, .inr ⟨hkind, hfield, e, he, hexport, htop⟩⟩
  · rintro ⟨top, hprogram, k, hk, ⟨htop, hkind⟩ | ⟨hkind, hfield, e, he, hexport, htop⟩⟩
    · exact .inl ⟨k, hk, hkind, top, htop, hprogram⟩
    · exact .inr ⟨k, hk, ⟨hkind, hfield⟩, e, he, hexport, top, htop, hprogram⟩

/-- It is found from one program only. -/
theorem ReachedFrom.unique {top top' : Spot} (h : ReachedFrom top d) (h' : ReachedFrom top' d) :
    top = top' := by
  have hkinds : ∀ {s : Spot}, s.tree.isA "program" = true → s.tree.isA "export_statement" = true →
      False := fun hprogram hexport =>
    absurd ((Tree.kind_of_isA hprogram).symm.trans (Tree.kind_of_isA hexport)) (by decide)
  obtain ⟨hprogram, k, hk, hcase⟩ := h
  obtain ⟨hprogram', k', hk', hcase'⟩ := h'
  cases hk.symm.trans hk'
  rcases hcase with ⟨htop, -⟩ | ⟨-, -, e, he, hexport, htop⟩ <;>
    rcases hcase' with ⟨htop', -⟩ | ⟨-, -, e', he', hexport', htop'⟩
  · exact Option.some.inj (htop.symm.trans htop')
  · cases htop.symm.trans he'
    exact (hkinds hprogram hexport').elim
  · cases htop'.symm.trans he
    exact (hkinds hprogram' hexport).elim
  · cases he.symm.trans he'
    exact Option.some.inj (htop.symm.trans htop')

/-- A match is about a declarator and its name. -/
def NamesVariable (b : Bindings) (d : Spot) : Prop :=
  d.tree.isA "variable_declarator" = true ∧
    ∃ c ∈ d.children, variableForm.isName c.tree = true ∧ b = [("variable", d), ("name", c)]

section Found

variable {s : Spot} {b : Bindings}

theorem mem_among_variableForm (hroot : root.Numbered) (hs : s ∈ root.spots) :
    b ∈ (variableForm.pattern.among false s.children).map Prod.fst ↔
      ∃ d ∈ s.children, NamesVariable b d := by
  rw [Form.pattern, mem_among_nested hroot hs rfl]
  refine exists_congr fun d => and_congr_right fun hd => and_congr_right fun hkind => ?_
  have hnames : ∀ {b' : Bindings}, b' ∈ ((Pattern.node (.ofKind "identifier" (some "name") ["name"])
      []).among false d.children).map Prod.fst ↔ ∃ c ∈ d.children, c.tree.isA "identifier" = true ∧
        (c.tree.field == some "name") = true ∧ b' = [("name", c)] :=
    mem_among_captured hroot (mem_spots_of_child hs hd) (by
      rw [Tree.kind_of_isA hkind]
      rfl)
  constructor
  · rintro ⟨-, b', hb', rfl⟩
    obtain ⟨c, hc, hident, hfield, rfl⟩ := hnames.1 hb'
    exact ⟨c, hc, Bool.and_eq_true_iff.2 ⟨hident, hfield⟩, rfl⟩
  · rintro ⟨c, hc, hname, rfl⟩
    obtain ⟨hident, hfield⟩ := Bool.and_eq_true_iff.1 hname
    exact ⟨rfl, [("name", c)], hnames.2 ⟨c, hc, hident, hfield, rfl⟩, rfl⟩

/-- A declaration of a kind below some place, and what it declares. -/
theorem mem_among_declaration (hroot : root.Numbered) (hs : s ∈ root.spots) {kind : String}
    {field : Option String} (hruns : field.all fun f => (runs.lookup (s.tree.kind, f)).isNone) :
    b ∈ ((Pattern.node (.ofKind kind field []) [(false, variableForm.pattern)]).among false
        s.children).map Prod.fst ↔
      ∃ d ∈ root.spots, NamesVariable b d ∧ ∃ k, d.parent = some k ∧ k.parent = some s ∧
        k.tree.isA kind = true ∧ (field.all fun f => k.tree.field == some f) = true := by
  rw [mem_among_nested hroot hs hruns]
  constructor
  · rintro ⟨k, hk, hkind, hfield, b', hb', rfl⟩
    have hkspot := mem_spots_of_child hs hk
    obtain ⟨d, hd, hnames⟩ := (mem_among_variableForm hroot hkspot).1 hb'
    exact ⟨d, mem_spots_of_child hkspot hd, hnames, k, parent_of_mem_children hd,
      parent_of_mem_children hk, hkind, hfield⟩
  · rintro ⟨d, hd, hnames, k, hdk, hks, hkind, hfield⟩
    obtain ⟨hkspot, hd⟩ := mem_of_parent hd hdk
    exact ⟨k, (mem_of_parent hkspot hks).2, hkind, hfield, b,
      (mem_among_variableForm hroot hkspot).2 ⟨d, hd, hnames⟩, rfl⟩

/-- An export below some place, and what it declares with `let` or `const`. -/
theorem mem_among_export (hroot : root.Numbered) (hs : s ∈ root.spots) :
    b ∈ ((Pattern.node (.ofKind "export_statement" none [])
        [(false, .node (.ofKind "lexical_declaration" (some "declaration") [])
          [(false, variableForm.pattern)])]).among false s.children).map Prod.fst ↔
      ∃ d ∈ root.spots, NamesVariable b d ∧ ∃ k, d.parent = some k ∧
        k.tree.isA "lexical_declaration" = true ∧ k.tree.field = some "declaration" ∧
        ∃ e, k.parent = some e ∧ e.tree.isA "export_statement" = true ∧ e.parent = some s := by
  rw [mem_among_nested hroot hs rfl]
  have hruns : ∀ {e : Spot}, e.tree.isA "export_statement" = true →
      (some "declaration").all fun f => (runs.lookup (e.tree.kind, f)).isNone := by
    intro e hexport
    rw [Tree.kind_of_isA hexport]
    rfl
  constructor
  · rintro ⟨e, he, hexport, -, b', hb', rfl⟩
    obtain ⟨d, hd, hnames, k, hdk, hke, hkind, hfield⟩ :=
      (mem_among_declaration hroot (mem_spots_of_child hs he) (hruns hexport)).1 hb'
    exact ⟨d, hd, hnames, k, hdk, hkind, beq_iff_eq.1 hfield, e, hke, hexport,
      parent_of_mem_children he⟩
  · rintro ⟨d, hd, hnames, k, hdk, hkind, hfield, e, hke, hexport, hes⟩
    have hespot := (mem_of_parent (mem_of_parent hd hdk).1 hke).1
    exact ⟨e, (mem_of_parent hespot hes).2, hexport, rfl, b,
      (mem_among_declaration hroot hespot (hruns hexport)).2
        ⟨d, hd, hnames, k, hdk, hke, hkind, beq_iff_eq.2 hfield⟩, rfl⟩

/-- **What the variable pattern finds** from a place: the declarators that are reached from it, with
their names. -/
theorem mem_startingAt_variablePattern (hroot : root.Numbered) (hs : s ∈ root.spots)
    {behind : List Spot} : b ∈ (variablePattern.startingAt s behind).map Prod.fst ↔
      ∃ d ∈ root.spots, NamesVariable b d ∧ ReachedFrom s d := by
  have hbind : ∀ found : List Bindings,
      found.map ((Head.ofKind "program" none []).bind s ++ ·) = found := fun found => List.map_id' found
  rw [variablePattern, map_startingAt_node, Head.fits_ofKind, Option.all_none, Bool.and_true,
    map_itemsAmong_single, Pattern.among, hbind]
  have hruns : (none : Option String).all fun f => (runs.lookup (s.tree.kind, f)).isNone := rfl
  split
  · rename_i hprogram
    simp only [anyAmong, List.append_nil, List.map_append, List.mem_append,
      mem_among_declaration hroot hs hruns, mem_among_export hroot hs]
    constructor
    · rintro (⟨d, hd, hnames, k, hdk, hks, hkind, -⟩ | ⟨d, hd, hnames, k, hdk, hks, hkind, -⟩ |
        ⟨d, hd, hnames, k, hdk, hexported⟩)
      · exact ⟨d, hd, hnames, hprogram, k, hdk, .inl ⟨hks, .inl hkind⟩⟩
      · exact ⟨d, hd, hnames, hprogram, k, hdk, .inl ⟨hks, .inr hkind⟩⟩
      · exact ⟨d, hd, hnames, hprogram, k, hdk, .inr hexported⟩
    · rintro ⟨d, hd, hnames, -, k, hdk, ⟨hks, hkind | hkind⟩ | hexported⟩
      · exact .inl ⟨d, hd, hnames, k, hdk, hks, hkind, rfl⟩
      · exact .inr (.inl ⟨d, hd, hnames, k, hdk, hks, hkind, rfl⟩)
      · exact .inr (.inr ⟨d, hd, hnames, k, hdk, hexported⟩)
  · rename_i hprogram
    refine ⟨fun hb => absurd hb List.not_mem_nil, ?_⟩
    rintro ⟨d, -, -, hreached⟩
    exact absurd hreached.1 hprogram

/-- Each of these matches is left once. -/
theorem mem_matchesAt_variablePattern (hroot : root.Numbered) (hs : s ∈ root.spots) :
    (variablePattern.matchesAt s).Nodup ∧ ∀ b, b ∈ variablePattern.matchesAt s ↔
      ∃ d ∈ root.spots, NamesVariable b d ∧ ReachedFrom s d := by
  have htold : ∀ behind, ∀ a ∈ (variablePattern.startingAt s behind).map Prod.fst,
      ∀ b ∈ (variablePattern.startingAt s behind).map Prod.fst, covers a b = true → a = b := by
    intro behind a ha b hb hcovers
    obtain ⟨d, hd, ⟨-, c, hc, -, rfl⟩, -⟩ := (mem_startingAt_variablePattern hroot hs).1 ha
    obtain ⟨d', hd', ⟨-, c', hc', -, rfl⟩, -⟩ := (mem_startingAt_variablePattern hroot hs).1 hb
    -- places are told by their numbers
    have hids : d'.tree.id = d.tree.id ∧ c'.tree.id = c.tree.id := by simpa [covers] using hcovers
    rw [hroot.spot_eq hd' hd hids.1,
      hroot.spot_eq (mem_spots_of_child hd' hc') (mem_spots_of_child hd hc) hids.2]
  obtain ⟨hnodup, hmem⟩ := maximal_of_told (htold _)
  exact ⟨hnodup, fun b => (hmem b).trans (mem_startingAt_variablePattern hroot hs)⟩

end Found

/-! ## §3. What is sighted at a declarator. -/

/-- The names for what can be sighted in a script. -/
def roles : List String :=
  ["function", "function_variable", "class", "method", "variable", "import", "interface", "type",
   "enum"]

/-- The names for what is bound. -/
def bindingRoles : List String := ["function_variable", "variable"]

/-- A declarator, sighted with its name. -/
def sightingOf (p : Parsed) (role : String) (d : Spot) (name : Tree) : Sighting :=
  ⟨role, d, some (p.tree.text name), [(role, d), ("name", below d name)]⟩

/-- What is sighted at a declarator. -/
def sightingsAt (p : Parsed) (d : Spot) (name : Tree) : List Sighting :=
  (if functionValued d.tree then [sightingOf p "function_variable" d name] else [])
    ++ (if foundAtTop d then [sightingOf p "variable" d name] else [])

/-- Is a sighting about a node? -/
def isAbout (d : Spot) (s : Sighting) : Bool := s.spot.tree.id == d.tree.id

/-- A sighting of something that is bound by a declarator. -/
def boundAt (d : Spot) (s : Sighting) : Option Sighting :=
  if bindingRoles.contains s.role && isAbout d s then some s else none

section Sighted

variable {p : Parsed}

theorem boundAt_sightingOf {role : String} (hrole : role ∈ bindingRoles) (p : Parsed) (d : Spot)
    (name : Tree) : boundAt d (sightingOf p role d name) = some (sightingOf p role d name) := by
  simp [boundAt, isAbout, sightingOf, hrole]

theorem boundAt_eq_none {s : Sighting} (hne : s.spot.tree.id ≠ d.tree.id) : boundAt d s = none := by
  simp [boundAt, isAbout, hne]

/-- A declarator and its name, as they are captured together, are sighted. -/
theorem bind_boundAt {role : String} (hrole : role ∈ bindingRoles) (p : Parsed) (d : Spot)
    (name : Tree) : (sight? p roles [(role, d), ("name", below d name)]).bind (boundAt d)
      = some (sightingOf p role d name) := by
  have hroles : ∀ role ∈ bindingRoles, roles.contains role = true ∧ role ≠ "name" := by decide
  rw [sight?_pair (hroles role hrole).1 (hroles role hrole).2]
  exact boundAt_sightingOf hrole p d name

theorem spot_of_sight?_cons {role : String} (hrole : roles.contains role = true) {s : Spot}
    {rest : Bindings} {x : Sighting} (hx : sight? p roles ((role, s) :: rest) = some x) :
    x.spot = s := by
  have hfirst : firstOf? ((role, s) :: rest) roles = some (role, s) := List.find?_cons_of_pos hrole
  rw [sight?, hfirst] at hx
  cases hx
  rfl

/-- What the function pattern finds at another node is about that node. -/
theorem boundAt_functionPattern {s : Spot} (hne : s.tree.id ≠ d.tree.id) {b : Bindings}
    (hb : b ∈ functionPattern.matchesAt s) : (sight? p roles b).bind (boundAt d) = none := by
  have hstart := mem_of_mem_maximal hb
  rw [functionPattern, map_startingAt_node, Head.fits_ofKind] at hstart
  split at hstart
  · obtain ⟨rest, -, rfl⟩ := List.mem_map.1 hstart
    rw [Option.bind_eq_none_iff]
    intro x hx
    have hspot : x.spot = s := spot_of_sight?_cons rfl hx
    exact boundAt_eq_none (hspot ▸ hne)
  · cases hstart

theorem filterMap_functionPattern (hroot : p.tree.root.Numbered) (hd : d ∈ p.tree.root.spots)
    (h : Declarator d before name after) :
    (functionPattern.matchesIn p.tree.root).filterMap (fun b => (sight? p roles b).bind (boundAt d))
      = if functionValued d.tree then [sightingOf p "function_variable" d name] else [] := by
  have hnodup : (p.tree.root.spots.filter fun s => 0 < s.tree.stop).Nodup :=
    (List.Nodup.of_map _ hroot.nodup_spots).filter _
  have hmem : d ∈ p.tree.root.spots.filter fun s => 0 < s.tree.stop :=
    List.mem_filter.2 ⟨hd, decide_eq_true (h.ends d.tree List.mem_cons_self)⟩
  rw [functionPattern, matchesIn_node, ← functionPattern, List.filterMap_flatMap,
    flatMap_of_single hnodup hmem, matchesAt_functionPattern hroot hd h]
  · split
    · rw [List.filterMap_cons, bind_boundAt (by decide)]
      rfl
    · rfl
  · intro s hs hne
    refine List.filterMap_eq_nil_iff.2 fun b hb => boundAt_functionPattern (fun hid => hne ?_) hb
    exact hroot.spot_eq (List.mem_of_mem_filter hs) hd hid

/-- What the variable pattern finds is about other nodes, or it is the declarator with its name. -/
theorem boundAt_variablePattern (hroot : p.tree.root.Numbered) (hd : d ∈ p.tree.root.spots)
    (h : Declarator d before name after) {s : Spot} (hs : s ∈ p.tree.root.spots) {b : Bindings}
    (hb : b ∈ variablePattern.matchesAt s) :
    (sight? p roles b).bind (boundAt d) = none ∨
      (ReachedFrom s d ∧ b = [("variable", d), ("name", below d name)]) := by
  obtain ⟨d', hd', ⟨-, c, hc, hname, rfl⟩, hreached⟩ :=
    ((mem_matchesAt_variablePattern hroot hs).2 b).1 hb
  by_cases hid : d'.tree.id = d.tree.id
  · obtain rfl := hroot.spot_eq hd' hd hid
    exact .inr ⟨hreached, by rw [h.eq_of_isName hc hname]⟩
  · refine .inl ((Option.bind_eq_none_iff).2 fun x hx => boundAt_eq_none ?_)
    rw [spot_of_sight?_cons rfl hx]
    exact hid

/-- The program that a declarator is reached from is around it. -/
theorem ReachedFrom.mem {top : Spot} (h : ReachedFrom top d) {t : Tree} (hd : d ∈ t.spots) :
    top ∈ t.spots ∧ top.tree ∈ d.above := by
  obtain ⟨-, k, hk, ⟨htop, -⟩ | ⟨-, -, e, he, -, htop⟩⟩ := h
  · refine ⟨(mem_of_parent (mem_of_parent hd hk).1 htop).1, ?_⟩
    rw [above_of_parent hk, above_of_parent htop]
    simp
  · refine ⟨(mem_of_parent (mem_of_parent (mem_of_parent hd hk).1 he).1 htop).1, ?_⟩
    rw [above_of_parent hk, above_of_parent he, above_of_parent htop]
    simp

theorem filterMap_variablePattern (hroot : p.tree.root.Numbered) (hd : d ∈ p.tree.root.spots)
    (h : Declarator d before name after) :
    (variablePattern.matchesIn p.tree.root).filterMap (fun b => (sight? p roles b).bind (boundAt d))
      = if foundAtTop d then [sightingOf p "variable" d name] else [] := by
  have hnodup : (p.tree.root.spots.filter fun s => 0 < s.tree.stop).Nodup :=
    (List.Nodup.of_map _ hroot.nodup_spots).filter _
  -- from a place that the declarator is not reached from, nothing is found of it
  have hother : ∀ s ∈ p.tree.root.spots.filter fun s => 0 < s.tree.stop, ¬ ReachedFrom s d →
      (variablePattern.matchesAt s).filterMap (fun b => (sight? p roles b).bind (boundAt d)) = [] := by
    intro s hs hnot
    refine List.filterMap_eq_nil_iff.2 fun b hb => ?_
    rcases boundAt_variablePattern hroot hd h (List.mem_of_mem_filter hs) hb with hnone | ⟨hreached, -⟩
    · exact hnone
    · exact absurd hreached hnot
  rw [variablePattern, matchesIn_node, ← variablePattern, List.filterMap_flatMap]
  split
  · rename_i hfound
    obtain ⟨top, hreached⟩ := foundAtTop_iff.1 hfound
    obtain ⟨htop, habove⟩ := hreached.mem hd
    have hmem : top ∈ p.tree.root.spots.filter fun s => 0 < s.tree.stop :=
      List.mem_filter.2 ⟨htop, decide_eq_true (h.ends _ (List.mem_cons_of_mem _ habove))⟩
    rw [flatMap_of_single hnodup hmem fun s hs hne => hother s hs fun hs' =>
      hne (hs'.unique hreached)]
    -- from the right one, it is found once
    obtain ⟨hnodup, hfrom⟩ := mem_matchesAt_variablePattern hroot htop
    have hname : below d name ∈ d.children := by rw [h.spots]; simp
    have hpair : [("variable", d), ("name", below d name)] ∈ variablePattern.matchesAt top :=
      (hfrom _).2 ⟨d, hd, ⟨h.kind, below d name, hname, h.isName, rfl⟩, hreached⟩
    rw [filterMap_of_single hnodup hpair, bind_boundAt (by decide)]
    · rfl
    · intro b hb hne
      exact (boundAt_variablePattern hroot hd h htop hb).resolve_right fun heq => hne heq.2
  · rename_i hfound
    rw [List.flatMap_eq_nil_iff]
    exact fun s hs => hother s hs fun hreached => hfound (foundAtTop_iff.2 ⟨s, hreached⟩)

/-- The names for what can be sighted, each with a kind of node that it stands for. -/
def mainKinds : List (String × String) :=
  [("function", "function_declaration"), ("function", "generator_function_declaration"),
   ("function_variable", "variable_declarator"), ("class", "class_declaration"),
   ("class", "abstract_class_declaration"), ("method", "method_definition"),
   ("variable", "variable_declarator"), ("import", "import_statement"),
   ("interface", "interface_declaration"), ("type", "type_alias_declaration"),
   ("enum", "enum_declaration")]

/-- Do the names for what can be sighted stand for their kinds only? -/
def keepsTo (r : Rule) : Bool :=
  r.heads.all fun h => h.captures.all fun name =>
    !roles.contains name || mainKinds.any fun x => x.1 == name && h.test.asks x.2

/-- Are the two patterns the ones for what is bound, and do all names stand for their kinds? -/
def bindsBy (rules : List Rule) : Bool :=
  decide ((rules.filter (speaksOf bindingRoles)).map Rule.plain?
      = [functionPattern, variablePattern].map some)
    && rules.all keepsTo

section Queries

variable {q : Compiled}

/-- A sighting is about a node of a kind that its name stands for. -/
theorem mem_mainKinds (hq : bindsBy q.rules = true) (hover : ∀ r ∈ q.rules, r.overlooks = true)
    {s : Sighting} (hs : s ∈ sighted p roles q) :
    s.spot.tree ∈ p.tree.root.nodes ∧ (s.role, s.spot.tree.kind) ∈ mainKinds := by
  obtain ⟨b, hb, hsight⟩ := List.mem_filterMap.1 ((sighted_perm_matches p roles q).mem_iff.1 hs)
  obtain ⟨r, hr, hb⟩ := List.mem_flatMap.1 hb
  obtain ⟨hinside, h, hh, hcaptured, hpasses⟩ :=
    Rule.binds (hover r hr) hb _ (role_mem_of_sight? hsight)
  have hrole : roles.contains s.role = true := by
    unfold sight? at hsight
    obtain ⟨x, hx, rfl⟩ := Option.map_eq_some_iff.1 hsight
    exact List.find?_some (p := fun x : String × Spot => roles.contains x.1) hx
  have hkeeps := List.all_eq_true.1 (Bool.and_eq_true_iff.1 hq).2 r hr
  have hasks := List.all_eq_true.1 (List.all_eq_true.1 hkeeps h hh) s.role hcaptured
  rw [hrole, Bool.not_true, Bool.false_or] at hasks
  obtain ⟨⟨role, kind⟩, hmem, hentry⟩ := List.any_eq_true.1 hasks
  rw [Bool.and_eq_true, beq_iff_eq] at hentry
  rw [Test.kind_of_asks hentry.2 hpasses, ← hentry.1]
  exact ⟨hinside, hmem⟩

/-- **What is sighted at a declarator**: a function if its value is one, and a variable if it is found at
the top of the file. -/
theorem filter_isAbout_perm (hq : bindsBy q.rules = true)
    (hover : ∀ r ∈ q.rules, r.overlooks = true) (hroot : p.tree.root.Numbered)
    (hd : d ∈ p.tree.root.spots) (h : Declarator d before name after) :
    ((sighted p roles q).filter (isAbout d)).Perm (sightingsAt p d name) := by
  have hrules := of_decide_eq_true (Bool.and_eq_true_iff.1 hq).1
  -- only declarators are sighted there
  have hbound : (sighted p roles q).filter (isAbout d) = (sighted p roles q).filterMap (boundAt d) := by
    have hroles : ∀ x ∈ mainKinds, x.2 = "variable_declarator" → x.1 ∈ bindingRoles := by decide
    rw [← List.filterMap_eq_filter]
    refine List.filterMap_congr fun s hs => ?_
    unfold boundAt
    cases habout : isAbout d s with
    | false => simp [Option.guard, habout]
    | true =>
        obtain ⟨hinside, hmain⟩ := mem_mainKinds hq hover hs
        have hsame := hroot.node_eq hinside (mem_nodes_of_mem_spots hd) (beq_iff_eq.1 habout)
        rw [hsame, Tree.kind_of_isA h.kind] at hmain
        simp [Option.guard, habout, hroles _ hmain rfl]
  rw [hbound]
  refine (sighted_perm_speaking hrules hover fun s hrole => ?_).trans (.of_eq ?_)
  · rw [boundAt, hrole]
    rfl
  · rw [List.flatMap_cons, List.flatMap_cons, List.flatMap_nil, List.append_nil, List.filterMap_append,
      filterMap_functionPattern hroot hd h, filterMap_variablePattern hroot hd h, sightingsAt]

end Queries

end Sighted

end Matches

/-! ## §4. What is made of a declarator. -/

/-- What is kept of a declarator: where it starts, its name and the word for what it is taken for,
unless it is passed over. -/
def bindingOf (p : Parsed) (d : Spot) (name : Tree) : List (Nat × String × String) :=
  if passedOver d then []
  else (declaredAs d).toList.map fun word => (d.tree.start, p.tree.text name, word)

/-- The start of a sighting with the name and the word for what is made of it. -/
def keyBy (seen : Sighting → Option (String × String)) (s : Sighting) :
    Option (Nat × String × String) :=
  (seen s).map fun title => (s.spot.tree.start, title)

section Made

variable {p : Parsed} {seen : Sighting → Option (String × String)}

/-- What the rule makes of a sighting has a title that is known beforehand. -/
def Titles (p : Parsed) (seen : Sighting → Option (String × String)) : Prop :=
  ∀ s, Gives (fun e => e.map titleOf = seen s) (rule p s)

theorem exists_titles (hdecided : Accepted p.dialect.grammar (fun _ => true) decisions) :
    ∃ seen, Titles p seen := by
  have htitle : ∀ {s : Sighting} {x : Extraction (Option Element)},
      Makes p decisions roleTable s x → ∃ title, Gives (fun e => e.map titleOf = title) x := by
    intro s x hx
    cases hx with
    | function name facts hrole hname =>
        refine ⟨some (name, "function"), (gives_functionOf hdecided s.spot.tree name facts).map ?_⟩
        rintro e ⟨facts', rfl⟩
        rfl
    | element name kind hkind hname => exact ⟨_, .pure rfl⟩
    | nothing hname => exact ⟨_, .pure rfl⟩
  choose seen hseen using fun s => htitle (makes_rule p s)
  exact ⟨seen, hseen⟩

theorem Titles.eq (hseen : Titles p seen) {s : Sighting} {title : Option (String × String)}
    (h : Gives (fun e => e.map titleOf = title) (rule p s)) : seen s = title := by
  obtain ⟨e, m', hrun, -, he⟩ := hseen s [] Memo.genuine_nil
  obtain ⟨e', m'', hrun', -, he'⟩ := h [] Memo.genuine_nil
  cases hrun.symm.trans hrun'
  exact he.symm.trans he'

variable {d : Spot} {before after : List Tree} {name : Tree}

/-- A declarator whose value is a function is made a function. -/
theorem Titles.function (hseen : Titles p seen)
    (hdecided : Accepted p.dialect.grammar (fun _ => true) decisions)
    (hvalued : functionValued d.tree = true) :
    seen (sightingOf p "function_variable" d name) = some (p.tree.text name, "function") := by
  obtain ⟨v, hv, -⟩ := (Option.any_eq_true _ _).1 hvalued
  refine hseen.eq ?_
  have hrule : rule p (sightingOf p "function_variable" d name)
      = some <$> Script.function p d.tree v (p.tree.text name) := by
    simp only [rule, sightingOf, hv]
  rw [hrule]
  refine (gives_functionOf hdecided d.tree _ _).map ?_
  rintro e ⟨facts, rfl⟩
  rfl

/-- A declarator that is found at the top is made a variable, unless its value is a function. -/
theorem Titles.variable (hseen : Titles p seen) (d : Spot) (name : Tree) :
    seen (sightingOf p "variable" d name)
      = if functionValued d.tree then none else some (p.tree.text name, "variable") := by
  refine hseen.eq (.pure ?_)
  show (variableElement p d.tree (p.tree.text name)).map titleOf = _
  unfold variableElement functionValued
  split
  · rfl
  · rfl

/-- **What is made of the sightings at a declarator.** -/
theorem Titles.filterMap_sightingsAt (hseen : Titles p seen)
    (hdecided : Accepted p.dialect.grammar (fun _ => true) decisions) (d : Spot) (name : Tree) :
    (sightingsAt p d name).filterMap (keyBy seen) = bindingOf p d name := by
  have hkey : ∀ role, keyBy seen (sightingOf p role d name)
      = (seen (sightingOf p role d name)).map fun title => (d.tree.start, title) := fun _ => rfl
  unfold sightingsAt bindingOf declaredAs topLevel
  cases hvalued : functionValued d.tree with
  | true =>
      have hkept : passedOver d = false := by simp [passedOver, hvalued]
      cases hfound : foundAtTop d <;>
        simp [hkept, hkey, hseen.function hdecided hvalued, hseen.variable, hvalued]
  | false =>
      cases hfound : foundAtTop d with
      | true =>
          have hkept : passedOver d = false := by
            rw [Bool.eq_false_iff]
            intro hpassed
            rw [foundAtTop_of_passedOver hpassed] at hfound
            cases hfound
          rw [foundAtTop] at hfound
          simp [hkept, hkey, hseen.variable, hvalued, hfound]
      | false =>
          have hpassed : passedOver d = exportedAs "variable_declaration" d := by
            simp [passedOver, hvalued]
          rw [foundAtTop] at hfound
          cases hvar : exportedAs "variable_declaration" d <;> simp [hpassed, hvar, hfound]

end Made

/-! ## §5. Whole files. -/

/-- The grammar accepts the queries that scripts are read with. -/
structure ReadsScript (g : Grammar) (typed : Bool) : Prop where
  declared : Accepted g bindsBy (declarations typed)
  decided : Accepted g (fun _ => true) decisions

/-- The plugins for scripts, each with its grammar and whether it knows types. -/
def dialects : List (Plugin × Grammar × Bool) :=
  [(.javascript, .javascript, false), (.typescript, .typescript, true), (.tsx, .tsx, true)]

section Reading

set_option maxRecDepth 10000

theorem reads_of_mem {plugin : Plugin} {g : Grammar} {typed : Bool}
    (h : (plugin, g, typed) ∈ dialects) : ReadsScript g typed := by
  simp only [dialects, List.mem_cons, Prod.mk.injEq, List.not_mem_nil, or_false] at h
  rcases h with ⟨-, rfl, rfl⟩ | ⟨-, rfl, rfl⟩ | ⟨-, rfl, rfl⟩
  · exact ⟨accepted_of_compileText rfl (by decide +kernel), decisions_accepted.weaken⟩
  · exact ⟨accepted_of_compileText (ofList_append_append _ _ _) (by decide +kernel),
      accepted_of_compileText rfl (by decide +kernel)⟩
  · exact ⟨accepted_of_compileText (ofList_append_append _ _ _) (by decide +kernel),
      accepted_of_compileText rfl (by decide +kernel)⟩

end Reading

/-- The candidates that come of the matches about a node. -/
def candidatesAt (typed : Bool) (p : Parsed) (d : Spot) : Extraction (List Candidate) := do
  let found ← sightings p (declarations typed) roles
  candidates (rule p) (found.filter (isAbout d))

/-- No other node that can be sighted starts where this one does. -/
def StandsAlone (root : Tree) (d : Spot) : Prop :=
  ∀ n ∈ root.nodes, n.start = d.tree.start → n.kind ∈ mainKinds.map Prod.snd → n.id = d.tree.id

section Files

variable {p : Parsed} {seen : Sighting → Option (String × String)} {typed : Bool}

theorem gives_keys (hseen : Titles p seen) (found : List Sighting) :
    Gives (fun made => made.map Candidate.key = found.filterMap (keyBy seen))
      (candidates (rule p) found) := by
  have hobserved : Gives (fun made => made.filterMap (Candidate.observed fun e => some (titleOf e))
      = found.filterMap (keyBy seen)) (candidates (rule p) found) := by
    refine gives_candidates fun s _ => (hseen s).imp fun e he => ?_
    rw [← he]
    cases e with
    | none => rfl
    | some e => rfl
  refine hobserved.imp fun made hmade => ?_
  rw [← List.filterMap_eq_map]
  exact hmade

theorem length_bindingOf_le (p : Parsed) (d : Spot) (name : Tree) :
    (bindingOf p d name).length ≤ 1 := by
  unfold bindingOf
  split
  · exact Nat.zero_le _
  · rw [List.length_map]
    cases declaredAs d with
    | none => exact Nat.zero_le _
    | some word => exact Nat.le_refl _

theorem eq_bindingOf_of_perm {l : List (Nat × String × String)} {d : Spot} {name : Tree}
    (h : l.Perm (bindingOf p d name)) : l = bindingOf p d name := by
  have hlength := length_bindingOf_le p d name
  generalize bindingOf p d name = binding at h hlength
  rcases binding with _ | ⟨key, _ | ⟨key', rest⟩⟩
  · exact List.perm_nil.1 h
  · exact List.perm_singleton.1 h
  · simp at hlength

/-- The rules of a query are the ones that scripts are read with. -/
def ReadsBindings (q : Compiled) : Prop :=
  bindsBy q.rules = true ∧ ∀ r ∈ q.rules, r.overlooks = true

theorem readsBindings_of_compile {g g' : Grammar} {q : Compiled} (hreads : ReadsScript g typed)
    (hq : compile g' (declarations typed) = .ok q) : ReadsBindings q :=
  ⟨hreads.declared.rules hq, declarations_overlook typed g' q hq⟩

theorem gives_sighted {g : Grammar} (hreads : ReadsScript g typed) (hgrammar : p.dialect.grammar = g) :
    Gives (fun found => ∃ q, ReadsBindings q ∧ found = sighted p roles q)
      (sightings p (declarations typed) roles) := by
  rw [sightings_eq]
  refine (Gives.compiled (hgrammar ▸ hreads.declared)).map ?_
  rintro q ⟨-, g', hq⟩
  exact ⟨q, readsBindings_of_compile hreads hq, rfl⟩

variable {d : Spot} {before after : List Tree} {name : Tree} {q : Compiled}

/-- What comes of the matches about a declarator. -/
theorem Titles.filterMap_isAbout (hseen : Titles p seen)
    (hdecided : Accepted p.dialect.grammar (fun _ => true) decisions) (hq : ReadsBindings q)
    (hroot : p.tree.root.Numbered) (hd : d ∈ p.tree.root.spots)
    (h : Declarator d before name after) :
    ((sighted p roles q).filter (isAbout d)).filterMap (keyBy seen) = bindingOf p d name := by
  refine eq_bindingOf_of_perm ?_
  rw [← hseen.filterMap_sightingsAt hdecided]
  exact (filter_isAbout_perm hq.1 hq.2 hroot hd h).filterMap _

/-- What starts where a declarator does, if it stands alone. -/
theorem Titles.filter_start (hseen : Titles p seen)
    (hdecided : Accepted p.dialect.grammar (fun _ => true) decisions) (hq : ReadsBindings q)
    (hroot : p.tree.root.Numbered) (hd : d ∈ p.tree.root.spots)
    (h : Declarator d before name after) (halone : StandsAlone p.tree.root d) :
    ((sighted p roles q).filterMap (keyBy seen)).filter (fun key => key.1 == d.tree.start)
      = bindingOf p d name := by
  rw [← hseen.filterMap_isAbout hdecided hq hroot hd h, ← List.filterMap_eq_filter,
    ← List.filterMap_eq_filter, List.filterMap_filterMap, List.filterMap_filterMap]
  refine List.filterMap_congr fun s hs => ?_
  obtain ⟨hinside, hmain⟩ := mem_mainKinds hq.1 hq.2 hs
  have habout : isAbout d s = (s.spot.tree.start == d.tree.start) := by
    rw [Bool.eq_iff_iff, isAbout, beq_iff_eq, beq_iff_eq]
    constructor
    · intro hid
      rw [hroot.node_eq hinside (mem_nodes_of_mem_spots hd) hid]
    · exact fun hstart => halone _ hinside hstart (List.mem_map_of_mem hmain)
  unfold keyBy Option.guard
  by_cases hstart : s.spot.tree.start = d.tree.start
  · cases hseen' : seen s <;> simp [hseen', habout, hstart]
  · cases seen s <;> simp [habout, hstart]

theorem gives_candidatesAt {g : Grammar} (hreads : ReadsScript g typed)
    (hgrammar : p.dialect.grammar = g) (hroot : p.tree.root.Numbered) (hd : d ∈ p.tree.root.spots)
    (h : Declarator d before name after) :
    Gives (fun mine => mine.map Candidate.key = bindingOf p d name) (candidatesAt typed p d) := by
  have hdecided : Accepted p.dialect.grammar (fun _ => true) decisions := hgrammar ▸ hreads.decided
  obtain ⟨seen, hseen⟩ := exists_titles hdecided
  refine (gives_sighted hreads hgrammar).bind ?_
  rintro _ ⟨q, hq, rfl⟩
  refine (gives_keys hseen _).imp fun mine hmine => ?_
  rw [hmine, hseen.filterMap_isAbout hdecided hq hroot hd h]

/-- The candidates of a file are those of its matches. -/
theorem gives_keys_of_file {g : Grammar} (hreads : ReadsScript g typed)
    (hgrammar : p.dialect.grammar = g) (hseen : Titles p seen) (plugin : Plugin) :
    Gives (fun made => ∃ q, ReadsBindings q ∧
        made.map Candidate.key = (sighted p roles q).filterMap (keyBy seen))
      ((Extractor.plain (.script plugin typed)).candidates p) := by
  refine (gives_sighted hreads hgrammar).bind ?_
  rintro _ ⟨q, hq, rfl⟩
  exact (gives_keys hseen _).bind fun made hmade => .pure ⟨q, hq, hmade⟩

/-- Each of them tells of a node that can be sighted. -/
theorem yields_told {g : Grammar} (hreads : ReadsScript g typed) (p : Parsed) (plugin : Plugin) :
    Yields (fun made => ∀ c ∈ made, ∃ n ∈ p.tree.root.nodes, n.kind ∈ mainKinds.map Prod.snd ∧
        c.1 = n.start ∧ TellsOf p n c.2)
      ((Extractor.plain (.script plugin typed)).candidates p) := by
  refine (yields_sightings p (declarations typed) roles).bind ?_
  rintro _ ⟨g', q, hq, rfl⟩
  have hreads := readsBindings_of_compile hreads hq
  refine (yields_candidates fun s _ => (makes_rule p s).yields).bind ?_
  rintro made ⟨hof, -⟩
  refine .pure fun c hc => ?_
  obtain ⟨s, hs, hstart, hcomes⟩ := hof c hc
  obtain ⟨hinside, hmain⟩ := mem_mainKinds hreads.1 hreads.2 hs
  exact ⟨s.spot.tree, hinside, List.mem_map_of_mem hmain, hstart,
    (makes_rule p s).tellsOf hcomes⟩

theorem sound_of_mem {plugin : Plugin} {g : Grammar} (h : (plugin, g, typed) ∈ dialects) :
    (Extractor.plain (.script plugin typed)).Sound := by
  simp only [dialects, List.mem_cons, Prod.mk.injEq, List.not_mem_nil, or_false] at h
  rcases h with ⟨rfl, rfl, rfl⟩ | ⟨rfl, rfl, rfl⟩ | ⟨rfl, rfl, rfl⟩
  · exact Extractor.sound_of_mem (by simp [Extractor.all])
  · exact Extractor.sound_of_mem (by simp [Extractor.all])
  · exact Extractor.sound_of_mem (by simp [Extractor.all])

end Files

/-- **What is bound is extracted once**, unless it is a variable that is exported with `var`.  In every
tree of a script, and from every memory of what was compiled, extraction succeeds.  For every declarator
whose name is one identifier, the matches about it make one element: a function if its value is one,
else a variable if it is at the top of the file, exported or not; and none otherwise, or if it is passed
over, when it should have been a variable.  What is made of it is kept; and if nothing else that can be
sighted starts there, it is all that starts there, and it tells of the declarator. -/
theorem bindings_extracted_once {plugin : Plugin} {g : Grammar} {typed : Bool}
    (hdialect : (plugin, g, typed) ∈ dialects) {p : Parsed} (hgrammar : p.dialect.grammar = g)
    (hroot : p.tree.root.Numbered) {m : Memo} (hm : m.Genuine) :
    ∃ elements made m', (plugin.extract p).run m = (.ok elements, m') ∧
      ((Extractor.plain (.script plugin typed)).candidates p).run m = (.ok made, m') ∧
      elements = (settled made).map Prod.snd ∧
      ∀ d ∈ p.tree.root.spots, ∀ before name after, Declarator d before name after →
        Gives (fun mine => mine.map Candidate.key = bindingOf p d name) (candidatesAt typed p d) ∧
        (∀ key ∈ bindingOf p d name, ∃ c ∈ settled made, c.key = key) ∧
        (StandsAlone p.tree.root d →
          ((settled made).filter fun c => c.1 == d.tree.start).map Candidate.key
            = bindingOf p d name ∧
          ∀ c ∈ settled made, c.1 = d.tree.start → TellsOf p d.tree c.2) ∧
        (passedOver d = true → declaredAs d = some "variable") := by
  have hreads := reads_of_mem hdialect
  have hsound := sound_of_mem hdialect
  have hdecided : Accepted p.dialect.grammar (fun _ => true) decisions := hgrammar ▸ hreads.decided
  obtain ⟨seen, hseen⟩ := exists_titles hdecided
  obtain ⟨made, m', hmade, -, q, hq, hkeys⟩ :=
    gives_keys_of_file hreads hgrammar hseen plugin m hm
  have htold := (yields_told hreads p plugin m hm made m' hmade).2
  have hextract : (plugin.extract p).run m = (.ok (arrange made), m') := by
    have hrun := hsound.extract p
    change plugin.extract p = _ at hrun
    rw [hrun, run_map, hmade]
    rfl
  refine ⟨arrange made, made, m', hextract, hmade, arrange_eq made, fun d hd before name after h => ?_⟩
  refine ⟨gives_candidatesAt hreads hgrammar hroot hd h, fun key hkey => ?_, fun halone => ?_,
    declaredAs_of_passedOver⟩
  · -- what comes of some of the matches is among what comes of all
    rw [← hseen.filterMap_isAbout hdecided hq hroot hd h] at hkey
    have hmem := (List.filter_sublist.filterMap (keyBy seen)).subset hkey
    rw [← hkeys] at hmem
    obtain ⟨c, hc, rfl⟩ := List.mem_map.1 hmem
    exact mem_keys_settled hc
  · have hstart : (made.filter fun c => c.1 == d.tree.start).map Candidate.key
        = bindingOf p d name := by
      rw [← hseen.filter_start hdecided hq hroot hd h halone, ← hkeys, List.filter_map]
      rfl
    have hlength : (made.filter fun c => c.1 == d.tree.start).length ≤ 1 := by
      rw [← List.length_map (f := Candidate.key), hstart]
      exact length_bindingOf_le p d name
    refine ⟨by rw [filter_settled hlength, hstart], fun c hc hcstart => ?_⟩
    have hcmade := (stablySorted_mergeSort made).mem_iff.1 ((firstOfRepeats_sublist _).subset hc)
    obtain ⟨n, hn, hkind, hnstart, htells⟩ := htold c hcmade
    -- nothing else starts there
    have hsame := halone n hn (hnstart.symm.trans hcstart) hkind
    rw [← hroot.node_eq hn (mem_nodes_of_mem_spots hd) hsame]
    exact htells

/-- A file that exports a function by the name of `f`, bound with `const`. -/
def exportedFunction : Parsed :=
  { tree :=
      { source := "export const f = x => 1;\n".toList,
        root := phrase 0 "program" none 0 25
          [phrase 1 "export_statement" none 0 24
            [token 2 "export" 0 6,
             phrase 3 "lexical_declaration" (some "declaration") 7 24
              [token 4 "const" 7 12,
               phrase 5 "variable_declarator" none 13 23
                [phrase 6 "identifier" (some "name") 13 14 [], token 7 "=" 15 16,
                 phrase 8 "arrow_function" (some "value") 17 23
                  [phrase 9 "identifier" (some "parameter") 17 18 [], token 10 "=>" 19 21,
                   phrase 11 "number" (some "body") 22 23 []]],
               token 12 ";" 23 24]]] },
    dialect := ⟨"javascript", .javascript⟩,
    path := "a.js" }

/-- A file that exports a variable by the name of `x`, bound with `var`. -/
def exportedVar : Parsed :=
  { tree :=
      { source := "export var x = 1;\n".toList,
        root := phrase 0 "program" none 0 18
          [phrase 1 "export_statement" none 0 17
            [token 2 "export" 0 6,
             phrase 3 "variable_declaration" (some "declaration") 7 17
              [token 4 "var" 7 10,
               phrase 5 "variable_declarator" none 11 16
                [phrase 6 "identifier" (some "name") 11 12 [], token 7 "=" 13 14,
                 phrase 8 "number" (some "value") 15 16 []],
               token 9 ";" 16 17]]] },
    dialect := ⟨"javascript", .javascript⟩,
    path := "a.js" }

/-- The value of a declarator that has a mark and one child with the field behind its name. -/
theorem value_iff {d mark value : Tree} (hvalue : d.childByField "value" = some value)
    (hmark : mark.field = none) (hfield : value.field = some "value") (v : Tree) :
    d.childByField "value" = some v ↔ v ∈ [mark, value] ∧ v.field = some "value" := by
  rw [hvalue]
  constructor
  · rintro ⟨⟩
    exact ⟨by simp, hfield⟩
  · rintro ⟨hv, hv'⟩
    simp only [List.mem_cons, List.not_mem_nil, or_false] at hv
    rcases hv with rfl | rfl
    · rw [hmark] at hv'
      cases hv'
    · rfl

/-- The first declarator of a file. -/
def firstDeclarator (p : Parsed) : Spot :=
  (p.tree.root.spots.find? fun s => s.tree.isA "variable_declarator").getD ⟨p.tree.root, []⟩

theorem firstDeclarator_mem {p : Parsed}
    (h : (p.tree.root.spots.find? fun s => s.tree.isA "variable_declarator").isSome = true) :
    firstDeclarator p ∈ p.tree.root.spots := by
  obtain ⟨d, hd⟩ := Option.isSome_iff_exists.1 h
  rw [firstDeclarator, hd]
  exact List.mem_of_find?_eq_some hd

theorem exportedFunction_declarator : Declarator (firstDeclarator exportedFunction) []
    (phrase 6 "identifier" (some "name") 13 14 [])
    [token 7 "=" 15 16, phrase 8 "arrow_function" (some "value") 17 23
      [phrase 9 "identifier" (some "parameter") 17 18 [], token 10 "=>" 19 21,
       phrase 11 "number" (some "body") 22 23 []]] where
  kind := rfl
  children := rfl
  isName := rfl
  single := by decide
  value := value_iff rfl rfl rfl
  plain := by decide
  ends := by decide

theorem exportedVar_declarator : Declarator (firstDeclarator exportedVar) []
    (phrase 6 "identifier" (some "name") 11 12 [])
    [token 7 "=" 13 14, phrase 8 "number" (some "value") 15 16 []] where
  kind := rfl
  children := rfl
  isName := rfl
  single := by decide
  value := value_iff rfl rfl rfl
  plain := by decide
  ends := by decide

/-- A function that is exported is found by both patterns, and it is extracted once. -/
theorem exportedFunction_extracted_once :
    (functionValued (firstDeclarator exportedFunction).tree = true ∧
      foundAtTop (firstDeclarator exportedFunction) = true) ∧
    ∃ elements made m', (Plugin.javascript.extract exportedFunction).run [] = (.ok elements, m') ∧
      elements = (settled made).map Prod.snd ∧
      ((settled made).filter fun c => c.1 == 13).map Candidate.key = [(13, "f", "function")] ∧
      ∀ c ∈ settled made, c.1 = 13 →
        TellsOf exportedFunction (firstDeclarator exportedFunction).tree c.2 := by
  have halone : StandsAlone exportedFunction.tree.root (firstDeclarator exportedFunction) := by
    unfold StandsAlone
    decide
  have hdialect : (Plugin.javascript, Grammar.javascript, false) ∈ dialects := by simp [dialects]
  obtain ⟨elements, made, m', hrun, -, heq, hall⟩ :=
    bindings_extracted_once hdialect (p := exportedFunction) rfl (by decide) Memo.genuine_nil
  obtain ⟨-, -, honly, -⟩ := hall _ (firstDeclarator_mem (by decide)) _ _ _ exportedFunction_declarator
  exact ⟨⟨rfl, rfl⟩, elements, made, m', hrun, heq, (honly halone).1, (honly halone).2⟩

set_option maxRecDepth 10000 in
/-- A variable that is exported with `var` is at the top of its file, and nothing comes of it. -/
theorem exported_var_passed_over :
    (firstDeclarator exportedVar ∈ exportedVar.tree.root.spots ∧
      (∃ before name after, Declarator (firstDeclarator exportedVar) before name after) ∧
      StandsAlone exportedVar.tree.root (firstDeclarator exportedVar) ∧
      declaredAs (firstDeclarator exportedVar) = some "variable") ∧
    ∃ m', (Plugin.javascript.extract exportedVar).run [] = (.ok [], m') := by
  have hleaves : (Extractor.plain (.script .javascript false)).Leaves exportedVar List.isEmpty :=
    (Extractor.sound_of_mem (by simp [Extractor.all])).leaves_of_compileText rfl (by decide +kernel)
  obtain ⟨elements, made, m', hrun, -, rfl, hempty⟩ := hleaves
  rw [List.isEmpty_iff.1 hempty] at hrun
  refine ⟨⟨firstDeclarator_mem (by decide), ⟨_, _, _, exportedVar_declarator⟩, ?_, rfl⟩, m', hrun⟩
  unfold StandsAlone
  decide

end Script

end Extract

end CodeSurvey
