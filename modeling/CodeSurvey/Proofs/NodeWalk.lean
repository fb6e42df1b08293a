/-
  Counting nodes by a walk.

  The walk keeps no list of the nodes it has seen, and on its way up it passes nodes that it has
  been at before.  Still it comes to each node once:

      a child of a node below the root is below the root               (`child_mem_below`)
      a step keeps the cursor in the tree                              (`within_of_step`)
      each step leaves one step less to go, so no cursor comes twice   (`Run.nodup`)
      a walk that arrives at a node gets to leave it, and counts at
      each cursor below in between                                     (`run_below`)

  Main result, `counts_each_node_once`: in a tree of `n` nodes there is no step left after `2 n - 1`
  steps, and each node has been counted once.
-/
import CodeSurvey.Syntax.Cursor

namespace CodeSurvey.Syntax

/-! ## §1. The cursors of a tree. -/

/-- The cursor stands in a tree: at its root, or at a child of a node at which one stands. -/
inductive Cursor.Within (root : Tree) : Cursor → Prop
  | top : Within root (.top root)
  | child {c : Cursor} {before after : List Tree} {t : Tree} (hc : Within root c)
      (hchildren : c.focus.children = before ++ t :: after) :
      Within root ⟨t, after, (c.focus, c.after) :: c.above⟩

mutual

/-- The cursors at a node and below it, each before those inside it. -/
def cursorsBelow (after : List Tree) (above : List (Tree × List Tree)) : Tree → List Cursor
  | .node l cs => ⟨.node l cs, after, above⟩ :: cursorsOfAll ((.node l cs, after) :: above) cs

/-- The cursors at several siblings and below them. -/
def cursorsOfAll (above : List (Tree × List Tree)) : List Tree → List Cursor
  | [] => []
  | t :: ts => cursorsBelow ts above t ++ cursorsOfAll above ts

end

mutual

/-- There is one cursor for each node. -/
theorem map_focus_cursorsBelow (after : List Tree) (above : List (Tree × List Tree)) :
    ∀ t : Tree, (cursorsBelow after above t).map Cursor.focus = t.nodes
  | .node l cs => by
      rw [cursorsBelow, List.map_cons, map_focus_cursorsOfAll _ cs]
      rfl

theorem map_focus_cursorsOfAll (above : List (Tree × List Tree)) :
    ∀ ts : List Tree, (cursorsOfAll above ts).map Cursor.focus = Tree.nodesOfAll ts
  | [] => rfl
  | t :: ts => by
      rw [cursorsOfAll, List.map_append, map_focus_cursorsBelow ts above t,
        map_focus_cursorsOfAll above ts]
      rfl

end

theorem mem_cursorsBelow_self (after : List Tree) (above : List (Tree × List Tree)) (t : Tree) :
    ⟨t, after, above⟩ ∈ cursorsBelow after above t := by
  cases t
  exact List.mem_cons_self

/-- Each of several siblings has its cursor. -/
theorem mem_cursorsOfAll (above : List (Tree × List Tree)) (t : Tree) (after : List Tree) :
    ∀ before : List Tree, ⟨t, after, above⟩ ∈ cursorsOfAll above (before ++ t :: after) := by
  intro before
  induction before with
  | nil => exact List.mem_append_left _ (mem_cursorsBelow_self after above t)
  | cons u before ih => exact List.mem_append_right _ ih

section Children

variable {c : Cursor} {before rest : List Tree} {u : Tree}

mutual

/-- A cursor at a child of a node below is below as well. -/
theorem child_mem_below (hchildren : c.focus.children = before ++ u :: rest) {after : List Tree}
    {above : List (Tree × List Tree)} : ∀ {t : Tree}, c ∈ cursorsBelow after above t →
      ⟨u, rest, (c.focus, c.after) :: c.above⟩ ∈ cursorsBelow after above t
  | .node l cs, hc => by
      rcases List.mem_cons.1 hc with rfl | hc
      · change cs = before ++ u :: rest at hchildren
        subst hchildren
        exact List.mem_cons_of_mem _ (mem_cursorsOfAll _ u rest before)
      · exact List.mem_cons_of_mem _ (child_mem_ofAll hchildren hc)

theorem child_mem_ofAll (hchildren : c.focus.children = before ++ u :: rest)
    {above : List (Tree × List Tree)} : ∀ {ts : List Tree}, c ∈ cursorsOfAll above ts →
      ⟨u, rest, (c.focus, c.after) :: c.above⟩ ∈ cursorsOfAll above ts
  | t :: ts, hc => by
      rcases List.mem_append.1 hc with hc | hc
      · exact List.mem_append_left _ (child_mem_below hchildren hc)
      · exact List.mem_append_right _ (child_mem_ofAll hchildren hc)

end

end Children

/-- Every cursor of the tree is among those below its root. -/
theorem Cursor.Within.mem_cursorsBelow {root : Tree} {c : Cursor} (h : c.Within root) :
    c ∈ cursorsBelow [] [] root := by
  induction h with
  | top => exact mem_cursorsBelow_self [] [] root
  | child _ hchildren ih => exact child_mem_below hchildren ih

namespace Walk

/-! ## §2. Steps. -/

/-- The cursor of a walk. -/
def cursor : Walk → Cursor
  | arrive c _ => c
  | leave c _ => c

/-- The cursors at which the next step counts. -/
def counted : Walk → List Cursor
  | arrive c _ => [c]
  | leave _ _ => []

theorem exists_of_mem_counted {w : Walk} {c : Cursor} (hc : c ∈ w.counted) :
    ∃ count, w = arrive c count := by
  cases w with
  | arrive d count => exact ⟨count, by rw [List.mem_singleton.1 hc]⟩
  | leave d count => cases hc

/-- **A step keeps the cursor in the tree.** -/
theorem within_of_step {root : Tree} {w v : Walk} (h : w.step? = some v)
    (hw : w.cursor.Within root) : v.cursor.Within root := by
  cases step?_eq_some_iff.1 h with
  | @down c t ts count hchildren =>
      have hfirst : c.focus.children = [] ++ t :: ts := hchildren
      exact .child hw hfirst
  | turn => exact hw
  | @next focus t ts above count =>
      -- the root has no sibling, so this node is a child, and the sibling is one of the same node
      cases hw with
      | @child p before _ _ hp hchildren =>
          have hnext : p.focus.children = (before ++ [focus]) ++ t :: ts := by
            rw [hchildren, List.append_assoc]
            rfl
          exact .child hp hnext
  | up =>
      cases hw with
      | child hp => exact hp

theorem count_of_step {w v : Walk} (h : w.step? = some v) :
    v.count = w.count + w.counted.length := by
  cases step?_eq_some_iff.1 h <;> rfl

/-! ## §3. Runs. -/

/-- From the first walk to the second in some steps, with the cursors at which they count. -/
inductive Run : Walk → List Cursor → Nat → Walk → Prop
  | refl (w : Walk) : Run w [] 0 w
  | step {w v u : Walk} {visits : List Cursor} {n : Nat} (h : w.step? = some v)
      (hrun : Run v visits n u) : Run w (w.counted ++ visits) (n + 1) u

namespace Run

variable {w v u : Walk} {visits visits' : List Cursor} {n m : Nat}

theorem trans (h : Run w visits n v) (h' : Run v visits' m u) :
    Run w (visits ++ visits') (m + n) u := by
  induction h with
  | refl w => exact h'
  | step hstep _ ih =>
      rw [List.append_assoc]
      exact .step hstep (ih h')

theorem total_eq (h : Run w visits n v) : w.total = v.total := by
  induction h with
  | refl => rfl
  | step hstep _ ih => rw [total_of_step hstep, ih]

theorem count_eq (h : Run w visits n v) : v.count = w.count + visits.length := by
  induction h with
  | refl => rfl
  | step hstep _ ih => rw [ih, count_of_step hstep, List.length_append, Nat.add_assoc]

theorem ahead_eq (h : Run w visits n v) : w.ahead = v.ahead + n := by
  induction h with
  | refl => rfl
  | step hstep _ ih => rw [ahead_of_step hstep, ih, Nat.add_assoc]

/-- The walk counts only in the tree. -/
theorem within {root : Tree} (h : Run w visits n v) (hw : w.cursor.Within root) :
    ∀ c ∈ visits, c.Within root := by
  induction h with
  | refl => intro c hc; cases hc
  | @step w v u visits n hstep _ ih =>
      intro c hc
      rcases List.mem_append.1 hc with hc | hc
      · obtain ⟨count, rfl⟩ := exists_of_mem_counted hc
        exact hw
      · exact ih (within_of_step hstep hw) c hc

/-- Where the walk counts, it has no more steps to go than at its start; how much it has counted by
then does not matter. -/
theorem ahead_le (h : Run w visits n v) : ∀ c ∈ visits, ∀ k, (arrive c k).ahead ≤ w.ahead := by
  induction h with
  | refl => intro c hc; cases hc
  | @step w v u visits n hstep _ ih =>
      intro c hc k
      rcases List.mem_append.1 hc with hc | hc
      · obtain ⟨count, rfl⟩ := exists_of_mem_counted hc
        exact Nat.le_refl _
      · have hlater := ih c hc k
        have hless := ahead_of_step hstep
        omega

/-- **No cursor comes twice.** -/
theorem nodup (h : Run w visits n v) : visits.Nodup := by
  induction h with
  | refl => exact List.nodup_nil
  | @step w v u visits n hstep hrun ih =>
      cases w with
      | leave d count => exact ih
      | arrive d count =>
          -- to come here again, the walk would need as many steps to go as it has now
          refine List.nodup_cons.2 ⟨fun hd => ?_, ih⟩
          have hlater := hrun.ahead_le d hd count
          have hless := ahead_of_step hstep
          omega

end Run

/-! ## §4. The walk through a tree. -/

-- The induction is on the tree and on the siblings still to come, not on the steps: what is below a
-- node is done with before the walk leaves it, so the runs below the siblings follow each other.
mutual

/-- **A walk that arrives at a node gets to leave it**, and counts at each cursor below in between. -/
theorem run_below (after : List Tree) (above : List (Tree × List Tree)) :
    ∀ (t : Tree) (count : Nat), ∃ n count', Run (arrive ⟨t, after, above⟩ count)
      (cursorsBelow after above t) n (leave ⟨t, after, above⟩ count')
  | .node _ [], count => ⟨1, count + 1, .step rfl (.refl _)⟩
  | .node l (t :: ts), count => by
      obtain ⟨n, middle, hfirst⟩ := run_below ts ((.node l (t :: ts), after) :: above) t (count + 1)
      obtain ⟨m, count', hrest⟩ := run_beyond (.node l (t :: ts)) after above ts t middle
      exact ⟨m + n + 1, count', .step rfl (hfirst.trans hrest)⟩

/-- A walk that leaves a node gets to leave the one around it, and counts at each cursor below the
siblings in between. -/
theorem run_beyond (p : Tree) (after : List Tree) (above : List (Tree × List Tree)) :
    ∀ (ts : List Tree) (t : Tree) (count : Nat), ∃ n count',
      Run (leave ⟨t, ts, (p, after) :: above⟩ count) (cursorsOfAll ((p, after) :: above) ts) n
        (leave ⟨p, after, above⟩ count')
  | [], _, count => ⟨1, count, .step rfl (.refl _)⟩
  | u :: ts, _, count => by
      obtain ⟨n, middle, hnext⟩ := run_below ts ((p, after) :: above) u count
      obtain ⟨m, count', hrest⟩ := run_beyond p after above ts u middle
      exact ⟨m + n + 1, count', .step rfl (hnext.trans hrest)⟩

end

/-- **The walk ends and counts each node once.**  From the root of any tree it gets, in one step less
than two for each node, to where there is no further step.  It counts at every cursor of the tree, at
none of them twice, and in the order of the nodes; and the number it returns is that of the nodes,
named and anonymous, with the root. -/
theorem counts_each_node_once (s : SyntaxTree) :
    ∃ visits : List Cursor,
      Run (arrive (.top s.root) 0) visits (2 * s.root.size - 1) (leave (.top s.root) s.nodeCount) ∧
      (leave (.top s.root) s.nodeCount).step? = none ∧
      visits.Nodup ∧ (∀ c, c ∈ visits ↔ c.Within s.root) ∧
      visits.map Cursor.focus = s.root.nodes ∧
      s.nodeCount = s.root.size := by
  obtain ⟨n, count, hrun⟩ := run_below [] [] s.root 0
  have hend : (leave (.top s.root) count).step? = none := rfl
  have hcount : s.nodeCount = count := hrun.total_eq.trans (total_of_end hend)
  have hnodes := map_focus_cursorsBelow [] [] s.root
  have hsize : s.nodeCount = s.root.size := by
    rw [hcount, Tree.size, ← hnodes, List.length_map]
    exact hrun.count_eq.trans (Nat.zero_add _)
  have hsteps : n = 2 * s.root.size - 1 := by
    have hahead : 2 * sizes s.root.children + 1 + 1 = 1 + n := hrun.ahead_eq
    have := size_eq s.root
    omega
  subst hcount hsteps
  exact ⟨_, hrun, hend, hrun.nodup,
    fun c => ⟨hrun.within .top c, Cursor.Within.mem_cursorsBelow⟩, hnodes, hsize⟩

end Walk

end CodeSurvey.Syntax
