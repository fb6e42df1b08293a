/-
  Trees without some of their nodes.

  `Tree.without drop` takes out the nodes that `drop` holds of, wherever they stand below the root.
  What is taken out is childless and stands in no field (`Droppable`), so the nodes and the places
  of what is left are those of the whole tree that are kept, in the same order:

      nodes (t.without drop)  =  the kept nodes of t, each of them without        (`nodes_without`)
      spots (t.without drop)  =  the kept places of t, each of them without       (`spots_without`)
      a field leads to the same node as before, if to one that is kept     (`childByField_without`)

  Numbers, kinds, fields and octets stay as they are.
-/
import CodeSurvey.Extract.Basic

namespace CodeSurvey.Syntax

/-! ## §1. Nodes of a tree. -/

namespace Tree

variable {t n m c : Tree} {ts : List Tree} {field : String}

theorem nodes_eq (t : Tree) : t.nodes = t :: nodesOfAll t.children := by
  cases t
  rfl

theorem mem_nodes_self (t : Tree) : t ∈ t.nodes := by
  rw [nodes_eq]
  exact List.mem_cons_self

theorem mem_nodesOfAll_iff : n ∈ nodesOfAll ts ↔ ∃ t ∈ ts, n ∈ t.nodes := by
  induction ts with
  | nil => simp [nodesOfAll]
  | cons t ts ih => simp [nodesOfAll, ih]

theorem mem_nodes_of_child (hc : c ∈ t.children) (hn : n ∈ c.nodes) : n ∈ t.nodes := by
  rw [nodes_eq]
  exact List.mem_cons_of_mem _ (mem_nodesOfAll_iff.2 ⟨c, hc, hn⟩)

mutual

/-- The nodes of a node are nodes of the tree. -/
theorem mem_nodes_trans (hm : m ∈ n.nodes) : ∀ {t : Tree}, n ∈ t.nodes → m ∈ t.nodes
  | .node l cs, hn => by
      rcases List.mem_cons.1 hn with rfl | hn
      · exact hm
      · exact List.mem_cons_of_mem _ (mem_nodesOfAll_trans hm hn)

theorem mem_nodesOfAll_trans (hm : m ∈ n.nodes) :
    ∀ {ts : List Tree}, n ∈ nodesOfAll ts → m ∈ nodesOfAll ts
  | t :: ts, hn => by
      rcases List.mem_append.1 hn with hn | hn
      · exact List.mem_append_left _ (mem_nodes_trans hm hn)
      · exact List.mem_append_right _ (mem_nodesOfAll_trans hm hn)

end

theorem mem_nodes_of_mem_children (hc : c ∈ t.children) : c ∈ t.nodes :=
  mem_nodes_of_child hc (mem_nodes_self c)

/-- A field leads to a node of the tree. -/
theorem mem_nodes_of_childByField (h : t.childByField field = some c) : c ∈ t.nodes := by
  unfold childByField at h
  split at h
  · cases h
  · exact List.mem_of_find?_eq_some h
  · exact mem_nodes_of_mem_children (List.mem_of_find?_eq_some h)

variable {root : Tree}

/-- Named children of a node of the tree are nodes of it. -/
theorem mem_nodes_of_named (hc : c ∈ t.namedChildren) (ht : t ∈ root.nodes) : c ∈ root.nodes :=
  mem_nodes_trans (mem_nodes_of_mem_children (List.mem_filter.1 hc).1) ht

/-- So is what a field of it leads to. -/
theorem mem_nodes_of_field (h : t.childByField field = some c) (ht : t ∈ root.nodes) :
    c ∈ root.nodes :=
  mem_nodes_trans (mem_nodes_of_childByField h) ht

end Tree

mutual

/-- The places of a tree are places of its nodes. -/
theorem map_tree_spotsBelow (above : List Tree) :
    ∀ t, (spotsBelow above t).map Spot.tree = t.nodes
  | .node l cs => congrArg (Tree.node l cs :: ·) (map_tree_spotsOfAll (.node l cs :: above) cs)

theorem map_tree_spotsOfAll (above : List Tree) :
    ∀ ts, (spotsOfAll above ts).map Spot.tree = Tree.nodesOfAll ts
  | [] => rfl
  | t :: ts => by
      rw [spotsOfAll, List.map_append, map_tree_spotsBelow above t, map_tree_spotsOfAll above ts]
      rfl

end

/-! ## §2. Taking nodes out. -/

mutual

/-- The tree without the nodes below its root that are to be dropped. -/
def Tree.without (drop : Tree → Bool) : Tree → Tree
  | .node l cs => .node l (withoutAll drop cs)

/-- Those trees that are not to be dropped, without the nodes below their roots that are. -/
def withoutAll (drop : Tree → Bool) : List Tree → List Tree
  | [] => []
  | t :: ts => if drop t then withoutAll drop ts else t.without drop :: withoutAll drop ts

end

/-- What may be dropped without a trace: childless comments in no field. -/
structure Droppable (drop : Tree → Bool) : Prop where
  childless : ∀ t, drop t = true → t.children = []
  unfielded : ∀ t, drop t = true → t.field = none
  comment : ∀ t, drop t = true → Extract.isComment t = true

section Without

variable {drop : Tree → Bool}

theorem withoutAll_eq (drop : Tree → Bool) : ∀ ts,
    withoutAll drop ts = (ts.filter fun t => !drop t).map (Tree.without drop) := by
  intro ts
  induction ts with
  | nil => rfl
  | cons t ts ih =>
      rw [withoutAll]
      split
      · rename_i hdrop
        rw [ih, List.filter_cons_of_neg (by simp [hdrop])]
      · rename_i hkept
        rw [ih, List.filter_cons_of_pos (by simp [hkept]), List.map_cons]

mutual

/-- What is done with the children decides. -/
theorem without_congr {drop' : Tree → Bool} : ∀ {t : Tree},
    (∀ n ∈ t.nodes, ∀ c ∈ n.children, drop c = drop' c) → t.without drop = t.without drop'
  | .node l cs, h => by
      refine congrArg (Tree.node l) (withoutAll_congr (h _ (Tree.mem_nodes_self _)) ?_)
      exact fun n hn => h n (List.mem_cons_of_mem _ hn)

theorem withoutAll_congr {drop' : Tree → Bool} : ∀ {ts : List Tree},
    (∀ t ∈ ts, drop t = drop' t) →
      (∀ n ∈ Tree.nodesOfAll ts, ∀ c ∈ n.children, drop c = drop' c) →
        withoutAll drop ts = withoutAll drop' ts
  | [], _, _ => rfl
  | t :: ts, hhere, hbelow => by
      have hrest := withoutAll_congr (fun t' ht' => hhere t' (List.mem_cons_of_mem t ht'))
        fun n hn => hbelow n (List.mem_append_right _ hn)
      have hfirst := without_congr (t := t) fun n hn => hbelow n (List.mem_append_left _ hn)
      rw [withoutAll, withoutAll, hhere t List.mem_cons_self, hrest, hfirst]

end

namespace Tree

variable {t : Tree}

@[simp] theorem label_without (t : Tree) : (t.without drop).label = t.label := by
  cases t
  rfl

@[simp] theorem id_without (t : Tree) : (t.without drop).id = t.id :=
  congrArg Label.id (label_without t)

@[simp] theorem kind_without (t : Tree) : (t.without drop).kind = t.kind :=
  congrArg Label.kind (label_without t)

@[simp] theorem isNamed_without (t : Tree) : (t.without drop).isNamed = t.isNamed :=
  congrArg Label.named (label_without t)

@[simp] theorem field_without (t : Tree) : (t.without drop).field = t.field :=
  congrArg Label.field (label_without t)

@[simp] theorem start_without (t : Tree) : (t.without drop).start = t.start :=
  congrArg Label.start (label_without t)

@[simp] theorem stop_without (t : Tree) : (t.without drop).stop = t.stop :=
  congrArg Label.stop (label_without t)

theorem children_without (t : Tree) :
    (t.without drop).children = (t.children.filter fun c => !drop c).map (without drop) := by
  cases t
  exact withoutAll_eq drop _

end Tree

mutual

/-- The nodes that are left. -/
theorem nodes_without (hd : Droppable drop) : ∀ t : Tree,
    (t.without drop).nodes = t.without drop ::
      ((Tree.nodesOfAll t.children).filter fun n => !drop n).map (Tree.without drop)
  | .node l cs => congrArg (Tree.node l (withoutAll drop cs) :: ·) (nodesOfAll_without hd cs)

theorem nodesOfAll_without (hd : Droppable drop) : ∀ ts : List Tree,
    Tree.nodesOfAll (withoutAll drop ts) =
      ((Tree.nodesOfAll ts).filter fun n => !drop n).map (Tree.without drop)
  | [] => rfl
  | t :: ts => by
      have hhere := nodes_without hd t
      have hrest := nodesOfAll_without hd ts
      rw [withoutAll, Tree.nodesOfAll, List.filter_append, List.map_append, ← hrest, Tree.nodes_eq]
      cases hdrop : drop t with
      | true =>
          rw [if_pos rfl, hd.childless t hdrop, Tree.nodesOfAll,
            List.filter_cons_of_neg (by simp [hdrop])]
          rfl
      | false =>
          rw [if_neg (by simp), Tree.nodesOfAll, hhere, List.filter_cons_of_pos (by simp [hdrop])]
          rfl

end

/-- The place, without the nodes to be dropped in its node and around it. -/
def Spot.without (drop : Tree → Bool) (s : Spot) : Spot :=
  ⟨s.tree.without drop, s.above.map (Tree.without drop)⟩

/-- Those places whose nodes are not to be dropped, without the nodes that are. -/
def keptSpots (drop : Tree → Bool) (ss : List Spot) : List Spot :=
  (ss.filter fun s => !drop s.tree).map (Spot.without drop)

@[simp] theorem Spot.tree_without (s : Spot) : (s.without drop).tree = s.tree.without drop := rfl

theorem keptSpots_append (ss ss' : List Spot) :
    keptSpots drop (ss ++ ss') = keptSpots drop ss ++ keptSpots drop ss' := by
  unfold keptSpots
  rw [List.filter_append, List.map_append]

theorem keptSpots_cons_of_drop {s : Spot} (hs : drop s.tree = true) (ss : List Spot) :
    keptSpots drop (s :: ss) = keptSpots drop ss := by
  unfold keptSpots
  rw [List.filter_cons_of_neg (by simp [hs])]

theorem keptSpots_cons_of_keep {s : Spot} (hs : drop s.tree = false) (ss : List Spot) :
    keptSpots drop (s :: ss) = s.without drop :: keptSpots drop ss := by
  unfold keptSpots
  rw [List.filter_cons_of_pos (by simp [hs]), List.map_cons]

theorem children_spot_without (s : Spot) :
    (s.without drop).children = keptSpots drop s.children := by
  show (s.tree.without drop).children.map _ = keptSpots drop (s.tree.children.map _)
  unfold keptSpots
  rw [Tree.children_without, List.filter_map, List.map_map, List.map_map]
  rfl

mutual

/-- The places that are left. -/
theorem spotsBelow_without (hd : Droppable drop) : ∀ (above : List Tree) (t : Tree),
    spotsBelow (above.map (Tree.without drop)) (t.without drop) =
      Spot.without drop ⟨t, above⟩ :: keptSpots drop (spotsOfAll (t :: above) t.children)
  | above, .node l cs =>
      congrArg (Spot.without drop ⟨.node l cs, above⟩ :: ·)
        (spotsOfAll_without hd (.node l cs :: above) cs)

theorem spotsOfAll_without (hd : Droppable drop) : ∀ (above : List Tree) (ts : List Tree),
    spotsOfAll (above.map (Tree.without drop)) (withoutAll drop ts) =
      keptSpots drop (spotsOfAll above ts)
  | _, [] => rfl
  | above, t :: ts => by
      have hhere := spotsBelow_without hd above t
      have hrest := spotsOfAll_without hd above ts
      have hsplit : spotsBelow above t = ⟨t, above⟩ :: spotsOfAll (t :: above) t.children := by
        cases t
        rfl
      rw [withoutAll, spotsOfAll, keptSpots_append, ← hrest, hsplit]
      cases hdrop : drop t with
      | true =>
          rw [if_pos rfl, keptSpots_cons_of_drop hdrop, hd.childless t hdrop]
          rfl
      | false => rw [if_neg (by simp), spotsOfAll, hhere, keptSpots_cons_of_keep hdrop]

end

theorem spots_without (hd : Droppable drop) (t : Tree) :
    (t.without drop).spots =
      Spot.without drop ⟨t, []⟩ :: keptSpots drop (spotsOfAll [t] t.children) :=
  spotsBelow_without hd [] t

/-! ## §3. What is looked up. -/

section Kept

variable {f : Tree → Bool} {ts : List Tree}

/-- The first tree of some kind, if it is kept, is the first of what is left. -/
theorem find?_kept (hf : ∀ t, f (t.without drop) = f t) :
    ∀ {ts : List Tree}, (∀ c, ts.find? f = some c → drop c = false) →
      ((ts.filter fun t => !drop t).map (Tree.without drop)).find? f
        = (ts.find? f).map (Tree.without drop) := by
  intro ts
  induction ts with
  | nil => exact fun _ => rfl
  | cons t ts ih =>
      intro h
      cases ht : f t with
      | true =>
          have hkept : drop t = false := h t (List.find?_cons_of_pos ht)
          rw [List.filter_cons_of_pos (by simp [hkept]), List.map_cons,
            List.find?_cons_of_pos ((hf t).trans ht), List.find?_cons_of_pos ht]
          rfl
      | false =>
          have hskip : (t :: ts).find? f = ts.find? f := List.find?_cons_of_neg (by simp [ht])
          rw [hskip] at h ⊢
          cases hdrop : drop t with
          | true => rw [List.filter_cons_of_neg (by simp [hdrop]), ih h]
          | false =>
              rw [List.filter_cons_of_pos (by simp [hdrop]), List.map_cons,
                List.find?_cons_of_neg (by simp [hf, ht]), ih h]

/-- The trees of some kind, if they are kept, are those of what is left. -/
theorem filter_kept (hf : ∀ t ∈ ts, f (t.without drop) = f t)
    (hkept : ∀ t ∈ ts, f t = true → drop t = false) :
    ((ts.filter fun t => !drop t).map (Tree.without drop)).filter f
      = (ts.filter f).map (Tree.without drop) := by
  rw [List.filter_map, List.filter_filter]
  refine congrArg (List.map _) (List.filter_congr fun t ht => ?_)
  rw [Function.comp_apply, hf t ht]
  cases h : f t with
  | true => simp [hkept t ht h]
  | false => rfl

theorem countP_kept (hf : ∀ t ∈ ts, f (t.without drop) = f t)
    (hkept : ∀ t ∈ ts, f t = true → drop t = false) :
    ((ts.filter fun t => !drop t).map (Tree.without drop)).countP f = ts.countP f := by
  rw [List.countP_eq_length_filter, filter_kept hf hkept, List.length_map,
    List.countP_eq_length_filter]

end Kept

namespace Tree

variable {t : Tree} {field : String}

theorem namedChildren_without (t : Tree) :
    (t.without drop).namedChildren
      = (t.namedChildren.filter fun c => !drop c).map (without drop) := by
  unfold namedChildren
  rw [children_without, List.filter_map, List.filter_filter, List.filter_filter]
  refine congrArg (List.map _) (List.filter_congr fun c _ => ?_)
  rw [Function.comp_apply, isNamed_without, Bool.and_comm]

theorem childrenByField_without (hd : Droppable drop) (t : Tree) (field : String) :
    (t.without drop).childrenByField field = (t.childrenByField field).map (without drop) := by
  unfold childrenByField
  rw [children_without]
  refine filter_kept (fun c _ => by rw [field_without]) fun c _ hc => ?_
  cases hdrop : drop c with
  | false => rfl
  | true =>
      rw [hd.unfielded c hdrop] at hc
      cases hc

/-- **A field leads to the same node as before**, if it leads to one that is kept. -/
theorem childByField_without (hd : Droppable drop)
    (hkept : ∀ c, t.childByField field = some c → drop c = false) :
    (t.without drop).childByField field = (t.childByField field).map (without drop) := by
  unfold childByField at hkept ⊢
  rw [label_without]
  cases hlink : t.label.links.lookup field with
  | none =>
      rw [hlink] at hkept
      dsimp only at hkept ⊢
      rw [children_without]
      exact find?_kept (fun c => by rw [field_without]) hkept
  | some link =>
      rw [hlink] at hkept
      cases link with
      | none => rfl
      | some id =>
          dsimp only at hkept ⊢
          rw [nodes_without hd, nodes_eq]
          rw [nodes_eq] at hkept
          -- the node itself is looked at first, and it is there in any case
          cases ht : t.id == id with
          | true =>
              have hhere : (t :: nodesOfAll t.children).find? (·.id == id) = some t :=
                List.find?_cons_of_pos ht
              rw [List.find?_cons_of_pos (by rw [id_without, ht]), hhere]
              rfl
          | false =>
              have hskip : (t :: nodesOfAll t.children).find? (·.id == id)
                  = (nodesOfAll t.children).find? (·.id == id) :=
                List.find?_cons_of_neg (by simp [ht])
              rw [hskip] at hkept ⊢
              rw [List.find?_cons_of_neg (by rw [id_without]; simp [ht])]
              exact find?_kept (fun c => by rw [id_without]) hkept

end Tree

/-- The last slot of a field stays the last one. -/
theorem closes_without (hd : Droppable drop) (s : Spot) (field : String) :
    (s.without drop).closes field = s.closes field := by
  obtain ⟨t, above⟩ := s
  unfold Spot.closes Spot.without Spot.laterInField
  cases above with
  | nil => simp
  | cons parent above =>
      simp only [List.map_cons, List.head?_cons, Tree.childrenByField_without hd,
        Tree.field_without, Tree.kind_without, Tree.id_without, List.filter_map,
        List.isEmpty_map, List.any_map, List.all_map, Function.comp_def]

end Without

end CodeSurvey.Syntax
