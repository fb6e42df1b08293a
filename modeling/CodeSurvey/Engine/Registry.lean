/-
  Engines by project root: whoever asks for a root twice gets the same engine.
-/
import CodeSurvey.Engine.Basic

namespace CodeSurvey

/-- Engines that were made, numbered in the order in which they were made, and which of them is in
use for a root. -/
structure Registry where
  engines : List Engine := []
  current : List (Option String × Nat) := []

namespace Registry

/-- A root with its links followed if it exists. -/
def realRoot (d : Files.Disk) (root : String) : String :=
  match d.real? (Files.Path.ofText root) with
  | some place => (Files.Disk.pathOf place).render
  | none => root

/-- Roots that are written differently may mean the same.  A dot in front of a relative path counts;
elsewhere single dots and doubled slashes do not. -/
def rootKey (root : String) : String :=
  let path := (Files.Path.ofText root).render
  if root == "." || "./".toList.isPrefixOf root.toList then "./" ++ path else path

/-- The number of roots in use. -/
def size (g : Registry) : Nat := g.current.length

/-- What plugins have compiled; it is known to all engines. -/
def memo (g : Registry) : Query.Memo := (g.engines.head?.map Engine.memo).getD []

/-- The number of the engine for a root, which is made if there is none. -/
def getOrCreate (d : Files.Disk) (g : Registry) (root : Option String) :
    Except Failure Nat × Registry :=
  let root := root.map (realRoot d)
  let key := root.map rootKey
  match g.current.lookup key with
  | some n => (.ok n, g)
  | none =>
    match Engine.ofRoot d root with
    | .error f => (.error f, g)
    | .ok e =>
      (.ok g.engines.length,
       { engines := g.engines ++ [{ e with memo := g.memo }],
         current := g.current ++ [(key, g.engines.length)] })

/-- The engine with a number. -/
def engine? (g : Registry) (n : Nat) : Option Engine := g.engines[n]?

/-- Puts an engine back after use.  What plugins have compiled is known to all engines. -/
def put (g : Registry) (n : Nat) (e : Engine) : Registry :=
  { g with engines := (g.engines.set n e).map fun other => { other with memo := e.memo } }

/-- Cleans up the engines in use and gives them up. -/
def reset (g : Registry) : Registry :=
  { engines := g.engines.mapIdx fun n e =>
      if g.current.any (·.2 == n) then e.cleanup else e,
    current := [] }

end Registry

end CodeSurvey
