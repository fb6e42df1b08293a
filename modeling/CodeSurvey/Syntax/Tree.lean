/-
  Syntax trees.  Nodes know their kind, their place in the source and the field they have in their
  parent.  A place in a tree (`Spot`) is a node together with the nodes around it, nearest first.
-/
import CodeSurvey.Text.Basic

namespace CodeSurvey.Syntax

/-! ## §1. Trees -/

/-- What a node says of itself. -/
structure Label where
  /-- Tells the nodes of one tree apart: the number of nodes before it. -/
  id : Nat
  kind : String
  named : Bool
  /-- Put in by error recovery, without any text. -/
  missing : Bool := false
  /-- Allowed anywhere, such as a comment. -/
  extra : Bool := false
  isError : Bool := false
  field : Option String := none
  start : Nat
  stop : Nat
  /-- Fields whose node is not simply the first child that has the field. -/
  links : List (String × Option Nat) := []

/-- A node and its children. -/
inductive Tree where
  | node (label : Label) (children : List Tree)

namespace Tree

/-- What the node says of itself. -/
def label : Tree → Label
  | .node l _ => l

/-- The children, named and anonymous. -/
def children : Tree → List Tree
  | .node _ cs => cs

/-- The number that tells the node apart. -/
def id (t : Tree) : Nat := t.label.id

/-- The kind of the node. -/
def kind (t : Tree) : String := t.label.kind

/-- Is the node named? -/
def isNamed (t : Tree) : Bool := t.label.named

/-- The field that the node has in its parent. -/
def field (t : Tree) : Option String := t.label.field

/-- The first octet of the node. -/
def start (t : Tree) : Nat := t.label.start

/-- The octet after the node. -/
def stop (t : Tree) : Nat := t.label.stop

/-- The children that are named. -/
def namedChildren (t : Tree) : List Tree := t.children.filter isNamed

mutual

/-- The node and all below it, each before its children. -/
def nodes : Tree → List Tree
  | .node l cs => .node l cs :: nodesOfAll cs

/-- The nodes of several trees. -/
def nodesOfAll : List Tree → List Tree
  | [] => []
  | t :: ts => nodes t ++ nodesOfAll ts

end

/-- The number of nodes. -/
def size (t : Tree) : Nat := t.nodes.length

/-- The node that has a field below this one. -/
def childByField (t : Tree) (name : String) : Option Tree :=
  match t.label.links.lookup name with
  | some none => none
  | some (some id) => t.nodes.find? (·.id == id)
  | none => t.children.find? (·.field == some name)

/-- The children that have a field. -/
def childrenByField (t : Tree) (name : String) : List Tree :=
  t.children.filter (·.field == some name)

/-- The first child of a kind. -/
def childOfKind (t : Tree) (kind : String) : Option Tree :=
  t.children.find? (·.kind == kind)

end Tree

/-! ## §2. Places in a tree -/

/-- A node with the nodes around it, nearest first. -/
structure Spot where
  tree : Tree
  above : List Tree := []

namespace Spot

/-- The children in their places. -/
def children (s : Spot) : List Spot :=
  s.tree.children.map fun c => ⟨c, s.tree :: s.above⟩

/-- The place around this one. -/
def parent (s : Spot) : Option Spot :=
  match s.above with
  | [] => none
  | p :: above => some ⟨p, above⟩

end Spot

mutual

/-- The places of a tree below `above`, each before those inside it. -/
def spotsBelow (above : List Tree) : Tree → List Spot
  | .node l cs => ⟨.node l cs, above⟩ :: spotsOfAll (.node l cs :: above) cs

/-- The places of several trees below `above`. -/
def spotsOfAll (above : List Tree) : List Tree → List Spot
  | [] => []
  | t :: ts => spotsBelow above t ++ spotsOfAll above ts

end

/-- All places of a tree. -/
def Tree.spots (t : Tree) : List Spot := spotsBelow [] t

/-! ## §3. Slots of a field

Usually each child that has a field is a slot of its own.  Some grammars give a field to a run of
children as a whole; the run then is one slot, and once a child in it has been looked at, the field
is known not to come again. -/

/-- How a field that covers a run of children divides them into slots. -/
inductive Run where
  /-- All children are in one slot. -/
  | whole
  /-- The first child is a slot, all others are in a second one. -/
  | rest
  /-- The children of one kind are in one slot, any others come after it. -/
  | ofKind (kind : String)
deriving DecidableEq

/-- Fields that cover runs of children, by the kind of the parent. -/
def runs : List ((String × String) × Run) :=
  [(("const_spec", "name"), .rest), (("type_case", "type"), .rest),
   (("switch_case", "body"), .whole), (("switch_default", "body"), .whole),
   (("array_creation_expression", "dimensions"), .ofKind "dimensions_expr")]

namespace Spot

/-- The siblings that have a field, after `t`. -/
def laterInField (parent : Tree) (field : String) (t : Tree) : List Tree :=
  (parent.childrenByField field).filter fun x => t.id < x.id

/-- Does a node have a field for which no slot follows among its siblings? -/
def closes (s : Spot) (field : String) : Bool :=
  s.tree.field == some field &&
    match s.above.head? with
    | none => true
    | some parent =>
      let later := laterInField parent field s.tree
      match runs.lookup (parent.kind, field) with
      | none => later.isEmpty
      | some .whole => true
      | some .rest =>
        later.isEmpty || (parent.childrenByField field).any fun x => x.id < s.tree.id
      | some (.ofKind kind) => later.all fun x => x.kind == kind

end Spot

/-! ## §4. Trees of a source text -/

/-- A source text with its tree. -/
structure SyntaxTree where
  source : List Char
  root : Tree
  /-- Did the parser have to recover from an error? -/
  hasError : Bool := false

namespace SyntaxTree

/-- The text of a node, if its span lies in the source. -/
def text? (s : SyntaxTree) (t : Tree) : Option String :=
  (Text.slice? s.source t.start t.stop).map String.ofList

/-- The text of a node, empty if its span does not lie in the source. -/
def text (s : SyntaxTree) (t : Tree) : String :=
  (s.text? t).getD ""

/-- The line a node starts in, counted from one. -/
def startLine (s : SyntaxTree) (t : Tree) : Nat := Text.rowAt s.source t.start + 1

/-- The line a node stops in, counted from one. -/
def endLine (s : SyntaxTree) (t : Tree) : Nat := Text.rowAt s.source t.stop + 1

/-- The number of lines of the source. -/
def lineCount (s : SyntaxTree) : Nat := Text.countLines s.source

end SyntaxTree

end CodeSurvey.Syntax
