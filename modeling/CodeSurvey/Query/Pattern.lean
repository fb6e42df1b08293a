/-
  Tree patterns.  A pattern is matched against a run of siblings: its items take siblings in order,
  gaps allowed unless an anchor forbids them, and every choice of gaps is a match of its own.
-/
import CodeSurvey.Syntax.Tree

namespace CodeSurvey.Query

open Syntax

/-! ## §1. Patterns -/

/-- What a pattern asks of a node itself. -/
inductive Test where
  /-- A named node of this kind. -/
  | kind (name : String)
  /-- A token. -/
  | token (text : String)
  /-- A node that stands for text the grammar could not take. -/
  | error
  /-- Any named node. -/
  | anyNamed
  /-- Any node. -/
  | anyNode
deriving DecidableEq

/-- Does a node pass the test?  Wildcards leave error nodes out. -/
def Test.passes (test : Test) (t : Tree) : Bool :=
  match test with
  | .kind name => t.isNamed && !t.label.isError && t.kind == name
  | .token text => !t.isNamed && t.kind == text
  | .error => t.label.isError
  | .anyNamed => t.isNamed && !t.label.isError
  | .anyNode => !t.label.isError

/-- What a pattern says of one node. -/
structure Head where
  test : Test
  /-- The field that the node must have in its parent. -/
  field : Option String := none
  /-- Fields that the node must not have below it. -/
  absent : List String := []
  /-- The names under which the node is captured. -/
  captures : List String := []
  /-- No named sibling may come after the node. -/
  last : Bool := false
deriving DecidableEq

/-- A tree pattern.  An item's mark says that it is anchored: the next named sibling must be it. -/
inductive Pattern where
  /-- A node and the items found among its children. -/
  | node (head : Head) (items : List (Bool × Pattern))
  /-- One of several patterns. -/
  | either (branches : List Pattern)
  /-- Items found among siblings. -/
  | group (items : List (Bool × Pattern))
  /-- A pattern or nothing. -/
  | optional (body : Pattern)

/-- The most names that one node is captured under. -/
def captureLimit : Nat := 3

mutual

/-- Changes the first node of a pattern, in every branch of a choice. -/
def Pattern.mapHeads (f : Head → Head) : Pattern → Pattern
  | .node head items => .node (f head) items
  | .either branches => .either (mapHeadsOfAll f branches)
  | .group items => .group (mapHeadsOfFirst f items)
  | .optional body => .optional (body.mapHeads f)

/-- Changes the first nodes of several patterns. -/
def mapHeadsOfAll (f : Head → Head) : List Pattern → List Pattern
  | [] => []
  | p :: ps => p.mapHeads f :: mapHeadsOfAll f ps

/-- Changes the first node of the first item. -/
def mapHeadsOfFirst (f : Head → Head) : List (Bool × Pattern) → List (Bool × Pattern)
  | [] => []
  | (anchored, p) :: items => (anchored, p.mapHeads f) :: items

end

mutual

/-- Changes the very first node of a pattern, in the first branch of a choice only. -/
def Pattern.mapFirst (f : Head → Head) : Pattern → Pattern
  | .node head items => .node (f head) items
  | .either branches => .either (mapFirstOfAll f branches)
  | .group items => .group (mapFirstOfItems f items)
  | .optional body => .optional (body.mapFirst f)

/-- Changes the very first node of the first of several patterns. -/
def mapFirstOfAll (f : Head → Head) : List Pattern → List Pattern
  | [] => []
  | p :: ps => p.mapFirst f :: ps

/-- Changes the very first node of the first item. -/
def mapFirstOfItems (f : Head → Head) : List (Bool × Pattern) → List (Bool × Pattern)
  | [] => []
  | (anchored, p) :: items => (anchored, p.mapFirst f) :: items

end

/-- The pattern with its first node captured under a further name. -/
def Pattern.capturedAs (p : Pattern) (name : String) : Pattern :=
  p.mapHeads fun h =>
    if h.captures.length < captureLimit then { h with captures := h.captures ++ [name] } else h

/-- The pattern with its first node in a field. -/
def Pattern.inField (p : Pattern) (name : String) : Pattern :=
  p.mapHeads fun h => { h with field := some name }

/-- The pattern with no named sibling after its first node. -/
def Pattern.asLast (p : Pattern) : Pattern :=
  p.mapFirst fun h => { h with last := true }

mutual

/-- Does a pattern capture anything? -/
def Pattern.hasCapture : Pattern → Bool
  | .node head items => !head.captures.isEmpty || itemsHaveCapture items
  | .either branches => anyHasCapture branches
  | .group items => itemsHaveCapture items
  | .optional body => body.hasCapture

/-- Does one of several patterns capture anything? -/
def anyHasCapture : List Pattern → Bool
  | [] => false
  | p :: ps => p.hasCapture || anyHasCapture ps

/-- Does one of the items capture anything? -/
def itemsHaveCapture : List (Bool × Pattern) → Bool
  | [] => false
  | (_, p) :: items => p.hasCapture || itemsHaveCapture items

end

/-! ## §2. Matches -/

/-- Captured nodes with the names they are captured under, in the order of the pattern. -/
abbrev Bindings := List (String × Spot)

/-- Does a node fit a head, when `after` are the siblings behind it? -/
def Head.fits (h : Head) (s : Spot) (after : List Spot) : Bool :=
  h.test.passes s.tree
    && h.field.all (fun f => s.tree.field == some f)
    && h.absent.all (fun f => (s.tree.childByField f).isNone)
    && !(h.last && after.any (·.tree.isNamed))

/-- The captures of a node. -/
def Head.bind (h : Head) (s : Spot) : Bindings :=
  h.captures.map (·, s)

/-- Tries a head at each of some siblings.  `inside` lists the matches below a node.  An anchored
head does not look beyond the next named sibling, a head that `settles` does not look beyond the
first node that fits, and a head with a field does not look beyond the field's last slot.  Each
match comes with the siblings left behind it. -/
def scan (h : Head) (inside : Spot → List Bindings) (anchored settles : Bool) :
    List Spot → List (Bindings × List Spot)
  | [] => []
  | s :: after =>
    let fits := h.fits s after
    let here := if fits then (inside s).map fun b => (h.bind s ++ b, after) else []
    if (anchored && s.tree.isNamed) || (fits && settles) || h.field.any s.closes then here
    else here ++ scan h inside anchored settles after

mutual

/-- The matches of a pattern among siblings, each with the siblings left behind it. -/
def Pattern.among : Pattern → Bool → List Spot → List (Bindings × List Spot)
  | .node head items, anchored, siblings =>
    scan head (fun s => (itemsAmong false items s.children).map Prod.fst) anchored
      (head.captures.isEmpty && items.isEmpty) siblings
  | .either branches, anchored, siblings => anyAmong branches anchored siblings
  | .group items, anchored, siblings => itemsAmong anchored items siblings
  | .optional body, anchored, siblings => body.among anchored siblings ++ [([], siblings)]

/-- The matches of any of several patterns among siblings. -/
def anyAmong : List Pattern → Bool → List Spot → List (Bindings × List Spot)
  | [], _, _ => []
  | p :: ps, anchored, siblings => p.among anchored siblings ++ anyAmong ps anchored siblings

/-- The matches of items, one after the other, among siblings; the first one may be anchored from
outside. -/
def itemsAmong : Bool → List (Bool × Pattern) → List Spot → List (Bindings × List Spot)
  | _, [], siblings => [([], siblings)]
  | outer, (anchored, p) :: items, siblings =>
    (p.among (outer || anchored) siblings).flatMap fun (b, rest) =>
      (itemsAmong false items rest).map fun (b', rest') => (b ++ b', rest')

end

mutual

/-- The matches of a pattern whose first node is the one at `s`, `after` being the siblings behind
it. -/
def Pattern.startingAt : Pattern → Spot → List Spot → List (Bindings × List Spot)
  | .node head items, s, after =>
    if head.fits s after then
      (itemsAmong false items s.children).map fun (b, _) => (head.bind s ++ b, after)
    else []
  | .either branches, s, after => anyStartingAt branches s after
  | .group items, s, after => itemsStartingAt items s after
  | .optional body, s, after => body.startingAt s after

/-- The matches of any of several patterns that start at `s`. -/
def anyStartingAt : List Pattern → Spot → List Spot → List (Bindings × List Spot)
  | [], _, _ => []
  | p :: ps, s, after => p.startingAt s after ++ anyStartingAt ps s after

/-- The matches of items that start at `s`; optional items in front may be left out. -/
def itemsStartingAt : List (Bool × Pattern) → Spot → List Spot → List (Bindings × List Spot)
  | [], _, _ => []
  | (_, p) :: items, s, after =>
    ((p.startingAt s after).flatMap fun (b, rest) =>
      (itemsAmong false items rest).map fun (b', rest') => (b ++ b', rest'))
    ++ (match p with
      | .optional _ => itemsStartingAt items s after
      | _ => [])

end

/-! ## §3. Matches in a tree -/

/-- Is every capture of `b` one of `a`? -/
def covers (a b : Bindings) : Bool :=
  b.all fun (name, s) => a.any fun (name', s') => name == name' && s.tree.id == s'.tree.id

/-- The matches that no other one covers, of equal ones the first. -/
def maximal (matchList : List Bindings) : List Bindings :=
  let numbered := matchList.zipIdx
  (numbered.filter fun (b, i) =>
    !numbered.any fun (a, j) => i != j && covers a b && (j < i || !covers b a)).map Prod.fst

mutual

/-- Does a pattern take several siblings? -/
def Pattern.isSpread : Pattern → Bool
  | .node _ _ => false
  | .either branches => anyIsSpread branches
  | .group [] => false
  | .group [(_, p)] => p.isSpread
  | .group (_ :: _ :: _) => true
  | .optional body => body.isSpread

/-- Does one of several patterns take several siblings? -/
def anyIsSpread : List Pattern → Bool
  | [] => false
  | p :: ps => p.isSpread || anyIsSpread ps

end

/-- The places with the siblings behind each. -/
def withAfter : List Spot → List (Spot × List Spot)
  | [] => []
  | s :: after => (s, after) :: withAfter after

/-- The matches of a pattern that start at the children of a node. -/
def Pattern.matchesBelow (p : Pattern) (s : Spot) : List Bindings :=
  if s.tree.label.isError then []
  else maximal ((withAfter s.children).flatMap fun (t, after) => (p.startingAt t after).map Prod.fst)

/-- The matches of a pattern that start at a node. -/
def Pattern.matchesAt (p : Pattern) (s : Spot) : List Bindings :=
  let after : List Spot :=
    match s.parent with
    | none => []
    | some up => (up.children.dropWhile fun t => t.tree.id != s.tree.id).drop 1
  maximal ((p.startingAt s after).map Prod.fst)

/-- The matches of a pattern in a tree, in the order of the nodes where they start.  A node that ends
where the text begins is passed over. -/
def Pattern.matchesIn (p : Pattern) (t : Tree) : List Bindings :=
  (t.spots.filter fun s => 0 < s.tree.stop).flatMap fun s =>
    if p.isSpread then p.matchesBelow s else p.matchesAt s

end CodeSurvey.Query
