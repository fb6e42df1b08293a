/-
  A disk: directories, files and symbolic links by their places, and a current directory.  Looking
  a path up follows links, a limited number of them.
-/
import CodeSurvey.Files.Path
import CodeSurvey.NameMap

namespace CodeSurvey.Files

/-- A place on a disk: the names from the top down. -/
abbrev Place := List String

/-- What is at a place. -/
inductive Entry where
  | directory
  | file (bytes : List UInt8)
  | link (target : String)
deriving DecidableEq

/-- The entries of a disk and the current directory.  The top is always a directory. -/
structure Disk where
  entries : List (Place × Entry) := []
  current : Place := []
  /-- Directories that can be passed through, but whose names may not be listed. -/
  unlisted : List Place := []

/-- What reading a file or a directory can run into. -/
inductive ReadError where
  | missing
  | isDirectory
  | denied
deriving DecidableEq

/-- The words of the operating system. -/
def ReadError.message : ReadError → String
  | .missing => "No such file or directory (os error 2)"
  | .isDirectory => "Is a directory (os error 21)"
  | .denied => "Permission denied (os error 13)"

namespace Disk

/-- The entry at a place, links not followed. -/
def entry? (d : Disk) (place : Place) : Option Entry :=
  if place.isEmpty then some .directory else d.entries.lookup place

/-- The most links that one path is followed through. -/
def linkLimit : Nat := 40

/-- Follows the parts of a path from the directory `here`.  At a link, `onLink` goes on from the
directory where the link's target starts, with the parts that are then left. -/
def walk (d : Disk) (onLink : Place → List String → Option Place) :
    Place → List String → Option Place
  | here, [] => some here
  | here, part :: rest =>
    if d.entry? here != some .directory then none
    else if part = "." then d.walk onLink here rest
    else if part = ".." then d.walk onLink here.dropLast rest
    else
      match d.entry? (here ++ [part]) with
      | none => none
      | some .directory => d.walk onLink (here ++ [part]) rest
      | some (.file _) => if rest.isEmpty then some (here ++ [part]) else none
      | some (.link target) =>
        let t := Path.ofText target
        onLink (if t.absolute then [] else here) (t.steps ++ rest)

/-- Follows the parts of a path from the directory `here` through at most `links` links. -/
def follow (d : Disk) : Nat → Place → List String → Option Place
  | 0 => d.walk fun _ _ => none
  | links + 1 => d.walk (d.follow links)

/-- The place that a path leads to once all links are followed. -/
def real? (d : Disk) (p : Path) : Option Place :=
  if !p.absolute && p.parts.isEmpty && !p.directory then none
  else d.follow linkLimit (if p.absolute then [] else d.current) p.steps

/-- The place as a path. -/
def pathOf (place : Place) : Path := { absolute := true, parts := place }

/-- Does a path lead anywhere? -/
def isThere (d : Disk) (p : Path) : Bool := (d.real? p).isSome

/-- Does a path lead to a directory? -/
def isDirectory (d : Disk) (p : Path) : Bool :=
  (d.real? p).any fun place => d.entry? place == some .directory

/-- Does a path lead to a file? -/
def isFile (d : Disk) (p : Path) : Bool :=
  (d.real? p).any fun place =>
    match d.entry? place with
    | some (.file _) => true
    | _ => false

/-- The octets of the file that a path leads to. -/
def read (d : Disk) (p : Path) : Except ReadError (List UInt8) :=
  match (d.real? p).bind d.entry? with
  | some (.file bytes) => .ok bytes
  | some .directory => .error .isDirectory
  | _ => .error .missing

/-- The names in a directory, sorted. -/
def names (d : Disk) (place : Place) : List String :=
  NameMap.sortNames (d.entries.filterMap fun (p, _) =>
    if p.dropLast == place then p.getLast? else none)

/-- Lists a directory: its names, sorted. -/
def list (d : Disk) (place : Place) : Except ReadError (List String) :=
  if d.unlisted.contains place then .error .denied else .ok (d.names place)

/-- Puts an entry at a place. -/
def put (d : Disk) (place : Place) (e : Entry) : Disk :=
  { d with entries := d.entries.filter (fun x => x.1 != place) ++ [(place, e)] }

/-- Makes a directory and those around it, unless something is there already. -/
def makeDirectory (d : Disk) (place : Place) : Disk :=
  (List.range (place.length + 1)).foldl
    (fun d n =>
      let p := place.take n
      if (d.entry? p).isSome then d else d.put p .directory)
    d

/-- Puts an entry at a place, making the directories around it. -/
def putWithin (d : Disk) (place : Place) (e : Entry) : Disk :=
  (d.makeDirectory place.dropLast).put place e

/-- Takes an entry away. -/
def remove (d : Disk) (place : Place) : Disk :=
  { d with entries := d.entries.filter fun x => x.1 != place }

end Disk

end CodeSurvey.Files
