/-
  Trees as outlines: the nodes one after the other, each before its children, with their depths.  In
  a text, a line holds a node: depth, kind, flags, field, first octet and octet behind the last,
  separated by tabs.
-/
import CodeSurvey.Syntax.Tree
import CodeSurvey.Text.Basic
import CodeSurvey.Text.Decimal

namespace CodeSurvey.Syntax

/-- A node of an outline. -/
structure Row where
  depth : Nat
  label : Label

namespace Row

/-- Puts a node in front of trees that follow it; those deeper than the node become its children. -/
def grow (row : Row) (following : List (Nat × Tree)) : List (Nat × Tree) :=
  let (children, rest) := following.span fun x => x.1 > row.depth
  (row.depth, .node row.label (children.map Prod.snd)) :: rest

end Row

/-- The tree of an outline, if there is a first node. -/
def Tree.ofRows? (rows : List Row) : Option Tree :=
  (rows.foldr Row.grow []).head?.map Prod.snd

/-- The flags of a node: one letter for each thing that it is. -/
def Label.withFlags (l : Label) (flags : List Char) : Label :=
  { l with
    named := flags.contains 'n', missing := flags.contains 'm', extra := flags.contains 'x',
    isError := flags.contains 'e' }

/-- Reads a line; `id` is the number of nodes before it. -/
def Row.parse? (id : Nat) (line : List Char) : Option Row :=
  match Text.splitAll (· == '\t') line with
  | [depth, kind, flags, field, start, stop] => do
    let label : Label :=
      { id := id, kind := String.ofList kind, named := false,
        field := if field.isEmpty then none else some (String.ofList field),
        start := ← Text.readCount? start, stop := ← Text.readCount? stop }
    return { depth := ← Text.readCount? depth, label := label.withFlags flags }
  | _ => none

/-- Reads the tree of a source text. -/
def SyntaxTree.ofOutline? (source outline : String) : Option SyntaxTree := do
  let lines := (Text.splitAll (· == '\n') outline.toList).filter fun l => !l.isEmpty
  let rows ← (lines.mapIdx Row.parse?).mapM id
  let root ← Tree.ofRows? rows
  return { source := source.toList, root := root,
           hasError := rows.any fun r => r.label.isError || r.label.missing }

end CodeSurvey.Syntax
