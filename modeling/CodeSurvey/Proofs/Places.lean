/-
  Places of a tree.

  Queries ask where a node stands: what it is, what it holds, what it stands in.  All of this can be
  seen from its place.  Three facts about places are used over and over:

      each place but the outermost is a child of exactly one place     (`spots_perm_children`)
      so places that are told by their parent can be listed by it      (`filter_spots_perm`)
      where nodes are numbered in their order, what closes a field
      has no sibling in the field behind it                            (`field_of_closes`)
-/
import CodeSurvey.Proofs.Lists
import CodeSurvey.Proofs.Pruning
import Mathlib.Data.List.Perm.Basic

namespace CodeSurvey.Syntax

/-! ## §1. Kinds. -/

/-- Is this a named node of a kind, and no error? -/
def Tree.isA (kind : String) (t : Tree) : Bool := t.isNamed && !t.label.isError && t.kind == kind

theorem Tree.kind_of_isA {kind : String} {t : Tree} (h : t.isA kind = true) : t.kind = kind := by
  unfold isA at h
  simp only [Bool.and_eq_true, beq_iff_eq] at h
  exact h.2

/-! ## §2. Children in their places. -/

theorem parent_of_mem_children {s c : Spot} (hc : c ∈ s.children) : c.parent = some s := by
  obtain ⟨t, -, rfl⟩ := List.mem_map.1 hc
  rfl

theorem spotsBelow_eq (above : List Tree) (t : Tree) :
    spotsBelow above t = ⟨t, above⟩ :: spotsOfAll (t :: above) t.children := by
  cases t
  rfl

theorem map_tree_spots (t : Tree) : t.spots.map Spot.tree = t.nodes := map_tree_spotsBelow [] t

theorem mem_nodes_of_mem_spots {t : Tree} {s : Spot} (hs : s ∈ t.spots) : s.tree ∈ t.nodes := by
  rw [← map_tree_spots]
  exact List.mem_map_of_mem hs

mutual

/-- Below a node, each place but the first is a child of one place. -/
theorem spotsBelow_perm (above : List Tree) : ∀ t : Tree,
    (spotsBelow above t).Perm (⟨t, above⟩ :: (spotsBelow above t).flatMap Spot.children)
  | .node l cs => by
      rw [spotsBelow_eq, List.flatMap_cons]
      exact (spotsOfAll_perm (.node l cs :: above) cs).cons _

/-- Below several nodes, these come first and all others are children. -/
theorem spotsOfAll_perm (above : List Tree) : ∀ ts : List Tree,
    (spotsOfAll above ts).Perm
      (ts.map (fun t => ⟨t, above⟩) ++ (spotsOfAll above ts).flatMap Spot.children)
  | [] => .refl _
  | t :: ts => by
      have hhere := spotsBelow_perm above t
      have hrest := spotsOfAll_perm above ts
      rw [spotsOfAll, List.flatMap_append, List.map_cons, List.cons_append]
      -- the children inside the first node move behind the other nodes
      refine (hhere.append hrest).trans (.cons _ ?_)
      exact List.perm_append_comm_assoc _ _ _

end

/-- **Each place but the outermost is a child of exactly one place.** -/
theorem spots_perm_children (t : Tree) :
    t.spots.Perm (⟨t, []⟩ :: t.spots.flatMap Spot.children) :=
  spotsBelow_perm [] t

/-- **Places told by their parent**: those of the children of some places. -/
theorem filter_spots_perm (t : Tree) (keep around : Spot → Bool) (inner : Tree → Bool)
    (hroot : keep ⟨t, []⟩ = false)
    (hchild : ∀ s ∈ t.spots, ∀ c ∈ s.children, keep c = (around s && inner c.tree)) :
    (t.spots.filter keep).Perm
      ((t.spots.filter around).flatMap fun s => s.children.filter fun c => inner c.tree) := by
  have hperm := (spots_perm_children t).filter keep
  rw [List.filter_cons_of_neg (by simp [hroot]), List.filter_flatMap] at hperm
  rw [flatMap_filter_ite]
  refine hperm.trans (List.Perm.flatMap_left _ fun s hs => ?_)
  cases haround : around s with
  | false =>
      -- none of the children is kept
      rw [List.filter_eq_nil_iff.2 fun c hc => by simp [hchild s hs c hc, haround]]
      exact .refl _
  | true =>
      rw [List.filter_congr fun c hc => by rw [hchild s hs c hc, haround, Bool.true_and]]
      exact .refl _

/-- A child of a place of the tree is a place of the tree. -/
theorem mem_spots_of_child {t : Tree} {s c : Spot} (hs : s ∈ t.spots) (hc : c ∈ s.children) :
    c ∈ t.spots := by
  refine (spots_perm_children t).mem_iff.2 (List.mem_cons_of_mem _ ?_)
  exact List.mem_flatMap.2 ⟨s, hs, hc⟩

/-- The parent of a place of the tree is a place of the tree. -/
theorem mem_of_parent {t : Tree} {s up : Spot} (hs : s ∈ t.spots) (hup : s.parent = some up) :
    up ∈ t.spots ∧ s ∈ up.children := by
  rcases List.mem_cons.1 ((spots_perm_children t).mem_iff.1 hs) with rfl | hs
  · cases hup
  · obtain ⟨up', hup', hs⟩ := List.mem_flatMap.1 hs
    rw [parent_of_mem_children hs] at hup
    cases hup
    exact ⟨hup', hs⟩

theorem above_of_parent {s up : Spot} (hup : s.parent = some up) : s.above = up.tree :: up.above := by
  unfold Spot.parent at hup
  split at hup
  · cases hup
  · rename_i habove
    cases hup
    exact habove

/-! ## §3. Numbers. -/

/-- The numbers of the nodes grow along the tree, each node before those inside it. -/
def Tree.Numbered (root : Tree) : Prop := (root.nodes.map Tree.id).Pairwise (· < ·)

instance (root : Tree) : Decidable root.Numbered :=
  inferInstanceAs (Decidable ((root.nodes.map Tree.id).Pairwise (· < ·)))

namespace Tree

mutual

/-- The nodes inside a node are some of the nodes of the tree, in their order. -/
theorem nodes_sublist {n : Tree} : ∀ {t : Tree}, n ∈ t.nodes → n.nodes.Sublist t.nodes
  | .node l cs, hn => by
      rcases List.mem_cons.1 hn with rfl | hn
      · exact .refl _
      · exact (nodesOfAll_sublist hn).trans (List.sublist_cons_self _ _)

theorem nodesOfAll_sublist {n : Tree} :
    ∀ {ts : List Tree}, n ∈ nodesOfAll ts → n.nodes.Sublist (nodesOfAll ts)
  | t :: ts, hn => by
      rcases List.mem_append.1 hn with hn | hn
      · exact (nodes_sublist hn).trans (List.sublist_append_left _ _)
      · exact (nodesOfAll_sublist hn).trans (List.sublist_append_right _ _)

end

theorem sublist_nodesOfAll : ∀ ts : List Tree, ts.Sublist (nodesOfAll ts) := by
  intro ts
  induction ts with
  | nil => exact .refl _
  | cons t ts ih =>
      rw [nodesOfAll, nodes_eq, List.cons_append]
      exact (ih.trans (List.sublist_append_right _ _)).cons_cons t

variable {root n : Tree}

/-- No two places have the same number. -/
theorem Numbered.nodup_spots (h : root.Numbered) :
    (root.spots.map fun s => s.tree.id).Nodup := by
  have hids : root.spots.map (fun s => s.tree.id) = root.nodes.map Tree.id := by
    rw [← map_tree_spots, List.map_map]
    rfl
  rw [hids]
  exact List.Pairwise.imp Nat.ne_of_lt h

/-- A place is told by its number. -/
theorem Numbered.spot_eq (h : root.Numbered) {s s' : Spot} (hs : s ∈ root.spots)
    (hs' : s' ∈ root.spots) (hid : s.tree.id = s'.tree.id) : s = s' :=
  List.inj_on_of_nodup_map h.nodup_spots hs hs' hid

/-- A node is told by its number. -/
theorem Numbered.node_eq (h : root.Numbered) {n' : Tree} (hn : n ∈ root.nodes)
    (hn' : n' ∈ root.nodes) (hid : n.id = n'.id) : n = n' :=
  List.inj_on_of_nodup_map (List.Pairwise.imp Nat.ne_of_lt h) hn hn' hid

/-- Siblings are numbered in their order too. -/
theorem Numbered.children (h : root.Numbered) (hn : n ∈ root.nodes) :
    (n.children.map Tree.id).Pairwise (· < ·) := by
  have hbelow : n.children.Sublist n.nodes := by
    rw [nodes_eq]
    exact (sublist_nodesOfAll n.children).trans (List.sublist_cons_self _ _)
  exact List.Pairwise.sublist ((hbelow.trans (nodes_sublist hn)).map Tree.id) h

end Tree

/-! ## §4. The last slot of a field. -/

theorem map_tree_children (s : Spot) : s.children.map Spot.tree = s.tree.children := by
  unfold Spot.children
  rw [List.map_map]
  exact List.map_id' _

theorem countP_children (s : Spot) (keep : Tree → Bool) :
    s.children.countP (fun c => keep c.tree) = s.tree.children.countP keep := by
  rw [← map_tree_children, List.countP_map]
  rfl

theorem map_tree_filter_children (s : Spot) (keep : Tree → Bool) :
    (s.children.filter fun c => keep c.tree).map Spot.tree = s.tree.children.filter keep := by
  rw [← map_tree_children, List.filter_map]
  rfl

/-- **What closes a field** of its parent has no sibling in the field behind it, if the field is not
one that covers a run. -/
theorem field_of_closes {s c : Spot} {field : String} {before after : List Spot}
    (hnumbered : (s.tree.children.map Tree.id).Pairwise (· < ·))
    (hrun : runs.lookup (s.tree.kind, field) = none)
    (hsplit : s.children = before ++ c :: after) (hcloses : c.closes field = true) :
    ∀ x ∈ after, x.tree.field ≠ some field := by
  intro x hx hfield
  have hlist : s.tree.children = before.map Spot.tree ++ c.tree :: after.map Spot.tree := by
    rw [← map_tree_children, hsplit, List.map_append, List.map_cons]
  -- `x` stands behind `c`, so its number is the greater one
  have hlt : c.tree.id < x.tree.id := by
    rw [hlist, List.map_append, List.map_cons] at hnumbered
    have htail := (List.pairwise_append.1 hnumbered).2.1
    exact (List.pairwise_cons.1 htail).1 _ (List.mem_map_of_mem (List.mem_map_of_mem hx))
  have hparent : c.above.head? = some s.tree := by
    have hc : c ∈ s.children := by rw [hsplit]; simp
    obtain ⟨t, -, rfl⟩ := List.mem_map.1 hc
    rfl
  have hlater : x.tree ∈ Spot.laterInField s.tree field c.tree := by
    unfold Spot.laterInField Tree.childrenByField
    simp [hlist, hfield, hlt, List.mem_map_of_mem hx]
  unfold Spot.closes at hcloses
  rw [hparent, Bool.and_eq_true] at hcloses
  dsimp only at hcloses
  rw [hrun] at hcloses
  rw [List.isEmpty_iff.1 hcloses.2] at hlater
  cases hlater

end CodeSurvey.Syntax
