/-
  Keeping requests inside the project root.  Every path that is asked for is checked before
  anything else: it must not be empty, must not climb up, and must lead to a place at or below the
  root once links are followed.
-/
import CodeSurvey.Failure
import CodeSurvey.Files.Disk
import CodeSurvey.Text.Basic

namespace CodeSurvey.Files

/-- The path with its links followed.  Of a path that leads nowhere the longest beginning that leads
somewhere is followed and the rest is kept. -/
def followExisting (d : Disk) (p : Path) : List String → List String → Path
  | [], tail =>
    if p.absolute then { absolute := true, parts := tail } else p
  | last :: above, tail =>
    match d.real? { absolute := p.absolute, parts := (last :: above).reverse } with
    | some place => { absolute := true, parts := place ++ tail }
    | none => followExisting d p above (last :: tail)

/-- The path that is meant once links are followed. -/
def resolve (d : Disk) (p : Path) : Path :=
  match d.real? p with
  | some place => Disk.pathOf place
  | none =>
    let plain := p.collapse
    followExisting d plain plain.parts.reverse []

/-- A guard with the root that paths must stay below, if there is one. -/
structure Guard where
  root : Option Path
deriving DecidableEq

namespace Guard

/-- The guard of a project root, its links followed if it exists. -/
def ofRoot (d : Disk) (root : Option String) : Guard :=
  ⟨root.map fun text =>
    let p := Path.ofText text
    match d.real? p with
    | some place => Disk.pathOf place
    | none => p.collapse⟩

/-- Does a text climb to a parent directory?  Slashes separate, and so do backslashes on both sides
of the dots. -/
def climbs (text : String) : Bool :=
  let cs := text.toList
  let within (part : String) : Bool := Text.contains part.toList cs
  text == ".." || "../".toList.isPrefixOf cs || "..\\".toList.isPrefixOf cs
    || within "/../" || within "\\..\\"
    || "/..".toList.isSuffixOf cs || "\\..".toList.isSuffixOf cs
    || (Path.ofText text).parts.contains ".."

/-- The path that a request may use, or why it may not. -/
def check (g : Guard) (d : Disk) (text : String) : Except Failure Path :=
  if Text.allBlank text.toList then .error (.invalidPath text "empty path")
  else if text.toList.contains '\x00' then .error (.invalidPath text "path contains a NUL byte")
  else if climbs text then .error (.invalidPath text "parent directory traversal")
  else
    match g.root with
    | none => .ok (Path.ofText text).collapse
    | some root =>
      let resolved := resolve d (root.join (Path.ofText text))
      if resolved.isBelow root then .ok resolved
      else .error (.invalidPath text ("resolves outside project root " ++ root.render))

end Guard

end CodeSurvey.Files
