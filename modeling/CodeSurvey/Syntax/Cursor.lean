/-
  Walking a tree with a cursor.  A cursor goes to the first child, to the next sibling or up.  The
  walk goes down where it can.  Where it cannot, it goes on to the next sibling; where there is none
  either, it goes up and looks for a sibling there, until it has left the root.

  It never needs to remember where it has been: a node is counted on arrival, and each node is
  arrived at once and left once.  The steps still to go can be told from the place (`ahead`).
-/
import CodeSurvey.Syntax.Tree

namespace CodeSurvey.Syntax

/-! ## §1. Cursors -/

/-- A node, the siblings after it, and the nodes around it, innermost first, each with the siblings
after it. -/
structure Cursor where
  focus : Tree
  after : List Tree := []
  above : List (Tree × List Tree) := []

namespace Cursor

/-- The cursor at the root of a tree. -/
def top (root : Tree) : Cursor := ⟨root, [], []⟩

/-- Goes to the first child. -/
def firstChild? (c : Cursor) : Option Cursor :=
  match c.focus.children with
  | [] => none
  | t :: ts => some ⟨t, ts, (c.focus, c.after) :: c.above⟩

/-- Goes to the next sibling. -/
def nextSibling? (c : Cursor) : Option Cursor :=
  match c.after with
  | [] => none
  | t :: ts => some ⟨t, ts, c.above⟩

/-- Goes to the node around this one. -/
def parent? (c : Cursor) : Option Cursor :=
  match c.above with
  | [] => none
  | (t, after) :: above => some ⟨t, after, above⟩

end Cursor

/-! ## §2. The walk -/

/-- Where a walk stands, and the nodes that it has counted so far. -/
inductive Walk where
  /-- It comes to a node, which is yet to be counted. -/
  | arrive (c : Cursor) (count : Nat)
  /-- It has counted a node and all below it. -/
  | leave (c : Cursor) (count : Nat)

namespace Walk

/-- One step of the walk; there is none once the root is left. -/
def step? : Walk → Option Walk
  | arrive c count =>
    match c.firstChild? with
    | some d => some (arrive d (count + 1))
    | none => some (leave c (count + 1))
  | leave c count =>
    match c.nextSibling? with
    | some d => some (arrive d count)
    | none =>
      match c.parent? with
      | some p => some (leave p count)
      | none => none

/-- The nodes counted so far. -/
def count : Walk → Nat
  | arrive _ count => count
  | leave _ count => count

/-- What a step does. -/
inductive Move : Walk → Walk → Prop
  /-- The node is counted, and the walk goes down to its first child. -/
  | down {c : Cursor} {t : Tree} {ts : List Tree} {count : Nat}
      (hchildren : c.focus.children = t :: ts) :
      Move (arrive c count) (arrive ⟨t, ts, (c.focus, c.after) :: c.above⟩ (count + 1))
  /-- The node is counted and has no children. -/
  | turn {c : Cursor} {count : Nat} (hchildren : c.focus.children = []) :
      Move (arrive c count) (leave c (count + 1))
  /-- The walk goes on to the next sibling. -/
  | next {focus t : Tree} {ts : List Tree} {above : List (Tree × List Tree)} {count : Nat} :
      Move (leave ⟨focus, t :: ts, above⟩ count) (arrive ⟨t, ts, above⟩ count)
  /-- There is no sibling left, and the walk goes up. -/
  | up {focus t : Tree} {after : List Tree} {above : List (Tree × List Tree)} {count : Nat} :
      Move (leave ⟨focus, [], (t, after) :: above⟩ count) (leave ⟨t, after, above⟩ count)

theorem step?_eq_some_iff {w v : Walk} : w.step? = some v ↔ Move w v := by
  constructor
  · intro h
    cases w with
    | arrive c count =>
      cases hchildren : c.focus.children with
      | nil =>
        simp only [step?, Cursor.firstChild?, hchildren, Option.some.injEq] at h
        exact h ▸ .turn hchildren
      | cons t ts =>
        simp only [step?, Cursor.firstChild?, hchildren, Option.some.injEq] at h
        exact h ▸ .down hchildren
    | leave c count =>
      obtain ⟨focus, after, above⟩ := c
      cases after with
      | cons t ts => exact Option.some.inj h ▸ .next
      | nil =>
        cases above with
        | nil => cases h
        | cons x above => exact Option.some.inj h ▸ .up
  · intro h
    cases h with
    | down hchildren => simp only [step?, Cursor.firstChild?, hchildren]
    | turn hchildren => simp only [step?, Cursor.firstChild?, hchildren]
    | next => rfl
    | up => rfl

/-! ## §3. The steps still to go -/

/-- The number of nodes of some trees. -/
def sizes (ts : List Tree) : Nat := (Tree.nodesOfAll ts).length

/-- The steps of a walk that has all below a node behind it, the last of which leaves the root. -/
def stepsBeyond : List Tree → List (Tree × List Tree) → Nat
  | after, [] => 2 * sizes after + 1
  | after, x :: above => 2 * sizes after + 1 + stepsBeyond x.2 above

/-- The steps of a walk, the last of which leaves the root: one to count each node ahead and one to
leave it, and one to leave each node around. -/
def ahead : Walk → Nat
  | arrive c _ => 2 * sizes c.focus.children + 1 + stepsBeyond c.after c.above
  | leave c _ => stepsBeyond c.after c.above

theorem size_eq (t : Tree) : t.size = sizes t.children + 1 := by
  cases t
  simp [Tree.size, Tree.nodes, Tree.children, sizes]

theorem sizes_nil : sizes [] = 0 := rfl

theorem sizes_cons (t : Tree) (ts : List Tree) : sizes (t :: ts) = t.size + sizes ts := by
  simp [sizes, Tree.nodesOfAll, Tree.size]

theorem stepsBeyond_cons (t : Tree) (ts : List Tree) (above : List (Tree × List Tree)) :
    stepsBeyond (t :: ts) above = 2 * t.size + stepsBeyond ts above := by
  cases above with
  | nil =>
    rw [stepsBeyond, stepsBeyond, sizes_cons]
    omega
  | cons x above =>
    rw [stepsBeyond, stepsBeyond, sizes_cons]
    omega

/-- A step leaves one step less to go. -/
theorem ahead_of_step {w v : Walk} (h : w.step? = some v) : w.ahead = v.ahead + 1 := by
  cases step?_eq_some_iff.1 h with
  | down hchildren =>
    simp only [ahead, hchildren, sizes_cons, size_eq, stepsBeyond]
    omega
  | turn hchildren =>
    simp only [ahead, hchildren, sizes_nil]
    omega
  | next =>
    simp only [ahead, stepsBeyond_cons, size_eq]
    omega
  | up =>
    simp only [ahead, stepsBeyond, sizes_nil]
    omega

/-- The nodes counted when the walk has ended. -/
def total (w : Walk) : Nat :=
  match h : w.step? with
  | none => w.count
  | some v =>
    have := ahead_of_step h
    v.total
termination_by w.ahead

theorem total_of_step {w v : Walk} (h : w.step? = some v) : w.total = v.total := by
  rw [total]
  split
  · rename_i hnone
    rw [hnone] at h
    cases h
  · rename_i u hsome
    rw [hsome] at h
    cases h
    rfl

theorem total_of_end {w : Walk} (h : w.step? = none) : w.total = w.count := by
  rw [total]
  split
  · rfl
  · rename_i u hsome
    rw [hsome] at h
    cases h

end Walk

/-- The number of nodes, counted in one walk. -/
def SyntaxTree.nodeCount (s : SyntaxTree) : Nat := (Walk.arrive (.top s.root) 0).total

end CodeSurvey.Syntax
