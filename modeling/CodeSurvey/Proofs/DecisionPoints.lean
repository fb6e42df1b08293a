/-
  Decision points.

  The queries that count decisions have a rule for each kind of node that is a decision, and a rule
  for each operator that makes one of the node it stands in.  Such a query is told by a table: the
  kinds, the kind of the nodes with operators, and the operators.

      the matches of one rule      the nodes it asks for, each once    (`Point.matchesIn_pattern`)
      the captures of the query    what each rule asks for             (`captures_perm_points`)
      what one rule asks for       no other asks for, if a node has
                                   no more than one operator           (`pairwise_points`)

  Main result, `length_captures`: the query captures as many nodes as there are decisions.  What
  ends where the text begins is passed over, as by every query.
-/
import CodeSurvey.Proofs.Reading
import CodeSurvey.Proofs.Shapes

namespace CodeSurvey.Query

open Syntax

/-! ## §1. What one rule asks for. -/

/-- What a rule can ask for. -/
inductive Point where
  /-- A node of a kind. -/
  | plain (kind : String)
  /-- A node of a kind whose operator is a token. -/
  | joined (kind operator : String)
deriving DecidableEq

/-- Is a node an operator, whatever it is a token of? -/
def isOperator (c : Tree) : Bool := c.field == some "operator"

namespace Point

/-- Is a node what the rule asks for? -/
def holds : Point → Tree → Bool
  | .plain kind, t => t.isA kind
  | .joined kind operator, t =>
    t.isA kind && t.children.any fun c => isOperator c && !c.isNamed && c.kind == operator

/-- The head that asks for an operator. -/
def operatorHead (operator : String) : Head :=
  { test := .token operator, field := some "operator" }

/-- The pattern that asks for a node and captures it under a name. -/
def pattern (name : String) : Point → Pattern
  | .plain kind => .node (.ofKind kind none [name]) []
  | .joined kind operator =>
    .node (.ofKind kind none [name]) [(false, .node (operatorHead operator) [])]

/-- Is each operator a slot of its own? -/
def single : Point → Bool
  | .plain _ => true
  | .joined kind _ => (runs.lookup (kind, "operator")).isNone

theorem fits_operatorHead (operator : String) (s : Spot) (after : List Spot) :
    (operatorHead operator).fits s after
      = (isOperator s.tree && !s.tree.isNamed && s.tree.kind == operator) := by
  simp [Head.fits, operatorHead, Test.passes, isOperator, Bool.and_comm, Bool.and_assoc]

variable {pt : Point} {root : Tree} {s : Spot} (name : String)

/-- An operator is there, or it is not. -/
theorem map_among_operator (hnumbered : (s.tree.children.map Tree.id).Pairwise (· < ·))
    (hruns : (runs.lookup (s.tree.kind, "operator")).isNone = true) (operator : String) :
    ((Pattern.node (operatorHead operator) []).among false s.children).map Prod.fst
      = if s.tree.children.any fun c => isOperator c && !c.isNamed && c.kind == operator
        then [[]] else [] := by
  have hclosed : (operatorHead operator).Closed s.children :=
    Head.closed_children hnumbered (by simpa [operatorHead] using hruns)
  rw [Pattern.among, ← map_tree_children, List.any_map]
  refine (map_scan_settled rfl rfl (fun _ => rfl) _ hclosed).trans ?_
  simp only [fits_operatorHead, Function.comp_def]

/-- **The match at one place**, if it is what the rule asks for. -/
theorem matchesAt_pattern (hsingle : pt.single = true)
    (hnumbered : (s.tree.children.map Tree.id).Pairwise (· < ·)) :
    (pt.pattern name).matchesAt s = if pt.holds s.tree then [[(name, s)]] else [] := by
  have hmatches : ∀ after, ((pt.pattern name).startingAt s after).map Prod.fst
      = if pt.holds s.tree then [[(name, s)]] else [] := by
    intro after
    cases pt with
    | plain kind =>
        rw [pattern, map_startingAt_node, Head.fits_ofKind, Option.all_none, Bool.and_true]
        rfl
    | joined kind operator =>
        rw [pattern, map_startingAt_node, Head.fits_ofKind, Option.all_none, Bool.and_true,
          map_itemsAmong_single, holds]
        cases hkind : s.tree.isA kind with
        | false => rfl
        | true =>
            obtain rfl := Tree.kind_of_isA hkind
            rw [map_among_operator hnumbered hsingle, Bool.true_and, if_pos rfl]
            split
            · rfl
            · rfl
  unfold Pattern.matchesAt
  dsimp only
  rw [hmatches]
  split
  · exact maximal_of_eq (List.cons_ne_nil _ _) (by simp)
  · rfl

/-- The places of a tree that a rule asks for, but for those that end where the text begins. -/
def places (pt : Point) (root : Tree) : List Spot :=
  (root.spots.filter fun s => 0 < s.tree.stop).filter fun s => pt.holds s.tree

/-- **The matches of one rule**: one for each place that it asks for. -/
theorem matchesIn_pattern (hsingle : pt.single = true) (hroot : root.Numbered) :
    (pt.pattern name).matchesIn root = (pt.places root).map fun s => [(name, s)] := by
  have hnode : (pt.pattern name).matchesIn root
      = (root.spots.filter fun s => 0 < s.tree.stop).flatMap (pt.pattern name).matchesAt := by
    cases pt with
    | _ => exact matchesIn_node _ _ root
  have hspots : ∀ s ∈ root.spots.filter fun s => 0 < s.tree.stop,
      (pt.pattern name).matchesAt s = if pt.holds s.tree then [[(name, s)]] else [] := by
    intro s hs
    exact matchesAt_pattern name hsingle
      (hroot.children (mem_nodes_of_mem_spots (List.mem_of_mem_filter hs)))
  rw [hnode, List.flatMap_congr hspots, ← flatMap_filter_ite]
  exact List.flatMap_pure_eq_map _ _

/-- Does a rule ask for this, under whatever name? -/
def asked (pt : Point) (r : Rule) : Bool :=
  r.plain?.any fun p =>
    (r.heads.flatMap Head.captures).any fun name => decide (p = pt.pattern name)

theorem exists_pattern_of_asked {r : Rule} (h : pt.asked r = true) :
    ∃ name, r.plain? = some (pt.pattern name) := by
  unfold asked at h
  cases hplain : r.plain? with
  | none =>
      rw [hplain] at h
      cases h
  | some p =>
      rw [hplain, Option.any_some] at h
      obtain ⟨name, -, heq⟩ := List.any_eq_true.1 h
      exact ⟨name, congrArg some (of_decide_eq_true heq)⟩

end Point

/-! ## §2. What a query asks for. -/

/-- What counts as a decision. -/
structure DecisionTable where
  /-- The kinds of nodes that are decisions by themselves. -/
  kinds : List String
  /-- The kind of nodes that are decisions by their operators. -/
  operation : String
  /-- The operators that make a decision. -/
  operators : List String

namespace DecisionTable

/-- Is a node a decision?  Kinds are those of named nodes, operators are tokens. -/
def decides (d : DecisionTable) (t : Tree) : Bool :=
  d.kinds.any (t.isA ·) || t.isA d.operation
    && t.children.any fun c => isOperator c && !c.isNamed && d.operators.contains c.kind

/-- The number of decisions in a node, itself included. -/
def count (d : DecisionTable) (t : Tree) : Nat := t.nodes.countP d.decides

/-- What the rules of the query ask for. -/
def points (d : DecisionTable) : List Point :=
  d.kinds.map .plain ++ d.operators.map (.joined d.operation)

/-- Nothing is listed twice, and each operator is a slot of its own. -/
def sound (d : DecisionTable) : Bool :=
  decide (d.operation :: d.kinds).Nodup && decide d.operators.Nodup
    && (runs.lookup (d.operation, "operator")).isNone

/-- Do the rules ask for what the table lists, in whatever order? -/
def reads (d : DecisionTable) (rules : List Rule) : Bool :=
  decide ((rules.map fun r => d.points.find? (·.asked r)).Perm (d.points.map some))

variable {d : DecisionTable} {root : Tree}

theorem any_points (d : DecisionTable) (t : Tree) :
    (d.points.any fun pt => pt.holds t) = d.decides t := by
  have hjoined : (d.operators.any fun o => (Point.joined d.operation o).holds t)
      = (t.isA d.operation && t.children.any fun c =>
          isOperator c && !c.isNamed && d.operators.contains c.kind) := by
    rw [Bool.eq_iff_iff]
    simp only [Point.holds, List.any_eq_true, Bool.and_eq_true, beq_iff_eq, List.contains_iff_mem]
    constructor
    · rintro ⟨o, ho, hkind, c, hc, hoperator, rfl⟩
      exact ⟨hkind, c, hc, hoperator, ho⟩
    · rintro ⟨hkind, c, hc, hoperator, ho⟩
      exact ⟨c.kind, ho, hkind, c, hc, hoperator, rfl⟩
  rw [points, List.any_append, List.any_map, List.any_map, decides]
  exact congrArg₂ (· || ·) rfl hjoined

theorem single_of_mem_points (hd : d.sound = true) {pt : Point} (hpt : pt ∈ d.points) :
    pt.single = true := by
  rcases List.mem_append.1 hpt with hpt | hpt
  · obtain ⟨kind, -, rfl⟩ := List.mem_map.1 hpt
    rfl
  · obtain ⟨operator, -, rfl⟩ := List.mem_map.1 hpt
    exact (Bool.and_eq_true_iff.1 hd).2

/-- No node has more than one operator. -/
def OneOperator (root : Tree) : Prop :=
  ∀ n ∈ root.nodes, n.children.countP isOperator ≤ 1

instance (root : Tree) : Decidable (OneOperator root) :=
  inferInstanceAs (Decidable (∀ n ∈ root.nodes, n.children.countP isOperator ≤ 1))

/-- **No two rules ask for one node**, if it has no more than one operator. -/
theorem pairwise_points (hd : d.sound = true) {t : Tree} (ht : t.children.countP isOperator ≤ 1) :
    d.points.Pairwise fun a b => ¬(a.holds t = true ∧ b.holds t = true) := by
  unfold sound at hd
  simp only [Bool.and_eq_true, decide_eq_true_eq, List.nodup_cons] at hd
  obtain ⟨⟨⟨hoperation, hkinds⟩, hoperators⟩, -⟩ := hd
  unfold points
  rw [List.pairwise_append, List.pairwise_map, List.pairwise_map]
  refine ⟨hkinds.imp fun {a b} hne hboth => ?_, hoperators.imp fun {a b} hne hboth => ?_, ?_⟩
  · exact hne ((Tree.kind_of_isA hboth.1).symm.trans (Tree.kind_of_isA hboth.2))
  · -- both operators are the one child in the field
    simp only [Point.holds, Bool.and_eq_true, List.any_eq_true, beq_iff_eq] at hboth
    obtain ⟨⟨-, c, hc, ⟨hoperator, -⟩, rfl⟩, -, c', hc', ⟨hoperator', -⟩, rfl⟩ := hboth
    exact hne (congrArg Tree.kind (eq_of_countP_le_one ht hc hc' hoperator hoperator'))
  · intro a ha b hb hboth
    obtain ⟨kind, hkind, rfl⟩ := List.mem_map.1 ha
    obtain ⟨operator, -, rfl⟩ := List.mem_map.1 hb
    refine hoperation ?_
    have hplain := Tree.kind_of_isA hboth.1
    have hjoined := Tree.kind_of_isA (Bool.and_eq_true_iff.1 hboth.2).1
    exact (hplain.symm.trans hjoined) ▸ hkind

/-! ## §3. The captures of a query. -/

/-- **The captures of a query** are what its rules ask for. -/
theorem captures_perm_points (hd : d.sound = true) {q : Compiled} (hq : d.reads q.rules = true)
    (hroot : root.Numbered) (source : List UInt8) :
    ((q.captures source root).map Prod.snd).Perm (d.points.flatMap fun pt => pt.places root) := by
  have hperm : (q.rules.map fun r => d.points.find? (·.asked r)).Perm (d.points.map some) :=
    of_decide_eq_true hq
  -- what one rule captures
  have hrule : ∀ r ∈ q.rules, ((r.matchesIn source root).flatMap id).map Prod.snd
      = (d.points.find? (·.asked r)).toList.flatMap fun pt => pt.places root := by
    intro r hr
    obtain ⟨pt, hpt, hfound⟩ :=
      List.mem_map.1 (hperm.mem_iff.1 (List.mem_map_of_mem (f := fun r => d.points.find? _) hr))
    have hasked : pt.asked r = true :=
      List.find?_some (p := fun pt : Point => pt.asked r) hfound.symm
    obtain ⟨name, hplain⟩ := Point.exists_pattern_of_asked hasked
    rw [Rule.matchesIn_of_plain? hplain,
      Point.matchesIn_pattern name (single_of_mem_points hd hpt) hroot, ← hfound]
    simp [List.flatMap_map, List.map_flatMap]
  unfold Compiled.captures
  refine ((List.mergeSort_perm _ _).map _).trans ?_
  have hrules : ((q.matchesIn source root).flatMap Match.bindings).map Prod.snd
      = (q.rules.map fun r => d.points.find? (·.asked r)).flatMap fun found =>
          found.toList.flatMap fun pt => pt.places root := by
    calc ((q.matchesIn source root).flatMap Match.bindings).map Prod.snd
        = (((q.matchesIn source root).map Match.bindings).flatMap id).map Prod.snd := by
          rw [List.flatMap_map]
          rfl
      _ = q.rules.flatMap fun r => ((r.matchesIn source root).flatMap id).map Prod.snd := by
          rw [map_bindings_matchesIn, List.flatMap_assoc, List.map_flatMap]
      _ = _ := by
          rw [List.flatMap_map]
          exact List.flatMap_congr hrule
  rw [hrules]
  refine (hperm.flatMap_right _).trans (.of_eq ?_)
  rw [List.flatMap_map]
  simp

/-- **A query captures each decision once**, but for what ends where the text begins. -/
theorem length_captures (hd : d.sound = true) {q : Compiled} (hq : d.reads q.rules = true)
    (hroot : root.Numbered) (hone : OneOperator root) (source : List UInt8) :
    (q.captures source root).length = (root.nodes.filter fun n => 0 < n.stop).countP d.decides := by
  have hspots : ∀ s ∈ root.spots.filter fun s => 0 < s.tree.stop,
      d.points.Pairwise fun a b => ¬(a.holds s.tree = true ∧ b.holds s.tree = true) :=
    fun s hs => pairwise_points hd
      (hone s.tree (mem_nodes_of_mem_spots (List.mem_of_mem_filter hs)))
  calc (q.captures source root).length
      = (d.points.flatMap fun pt => pt.places root).length := by
        rw [← (captures_perm_points hd hq hroot source).length_eq, List.length_map]
    _ = (root.spots.filter fun s => 0 < s.tree.stop).countP fun s =>
          d.points.any fun pt => pt.holds s.tree :=
        length_flatMap_filter (fun (pt : Point) (s : Spot) => pt.holds s.tree) _ hspots
    _ = (root.nodes.filter fun n => 0 < n.stop).countP d.decides := by
        simp only [any_points]
        rw [← map_tree_spots, List.filter_map, List.countP_map]
        rfl

/-- If no decision ends where the text begins, none is passed over. -/
theorem countP_filter_stop (hstop : ∀ n ∈ root.nodes, d.decides n = true → 0 < n.stop) :
    (root.nodes.filter fun n => 0 < n.stop).countP d.decides = d.count root := by
  rw [List.countP_filter, count]
  refine List.countP_congr fun n hn => ?_
  rw [Bool.and_eq_true, decide_eq_true_eq]
  exact ⟨And.left, fun h => ⟨h, hstop n hn h⟩⟩

end DecisionTable

/-- A query asks for the decisions of a table, whatever grammar it is compiled for. -/
def CountedBy (d : DecisionTable) (query : String) : Prop :=
  ∀ g c, compile g query = .ok c → d.reads c.rules = true

theorem countedBy_of_accepted {d : DecisionTable} {query : String} {g : Grammar}
    (h : Accepted g d.reads query) : CountedBy d query :=
  fun _ _ hc => h.rules hc

end CodeSurvey.Query
