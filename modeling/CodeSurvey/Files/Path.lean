/-
  Paths: absolute or relative, a list of parts between slashes.  Empty parts and single dots have
  no meaning of their own; double dots are kept.
-/
import CodeSurvey.Text.Basic

namespace CodeSurvey.Files

/-- A path. -/
structure Path where
  absolute : Bool
  parts : List String
  /-- Written so that only a directory can be meant. -/
  directory : Bool := false
deriving DecidableEq

namespace Path

/-- The path that a text writes. -/
def ofText (text : String) : Path :=
  let pieces := (Text.splitAll (· == '/') text.toList).map String.ofList
  { absolute := text.toList.head? == some '/',
    parts := pieces.filter fun p => p != "" && p != ".",
    directory := !text.isEmpty && (pieces.getLast? == some "" || pieces.getLast? == some ".") }

/-- The parts to walk through, one after the other; a path that must lead to a directory ends with a
step that stays there. -/
def steps (p : Path) : List String :=
  if p.directory then p.parts ++ ["."] else p.parts

/-- The text of a path. -/
def render (p : Path) : String :=
  (if p.absolute then "/" else "") ++ "/".intercalate p.parts

/-- The path `q` as seen from the directory `p`. -/
def join (p q : Path) : Path :=
  if q.absolute then q else { p with parts := p.parts ++ q.parts, directory := q.directory }

/-- The text of a path as seen from the directory `base`, both kept as they are written. -/
def joinText (base text : String) : String :=
  if text.toList.head? == some '/' then text
  else if base.isEmpty || base.toList.getLast? == some '/' then base ++ text
  else base ++ "/" ++ text

/-- The path without double dots: each takes the part before it away. -/
def collapse (p : Path) : Path :=
  { absolute := p.absolute,
    parts := p.parts.foldl (fun acc part => if part = ".." then acc.dropLast else acc ++ [part]) [] }

/-- Does one path lie at or below another, part by part? -/
def isBelow (p root : Path) : Bool :=
  p.absolute == root.absolute && root.parts.isPrefixOf p.parts

/-- The last part, unless it is a double dot. -/
def name? (p : Path) : Option String :=
  p.parts.getLast?.filter (· != "..")

/-- What follows the last dot of the name, unless nothing stands before that dot. -/
def extension? (p : Path) : Option String :=
  p.name?.bind fun name =>
    match Text.splitLast (· == '.') name.toList with
    | some (before, after) => if before.isEmpty then none else some (String.ofList after)
    | none => none

end Path

end CodeSurvey.Files
