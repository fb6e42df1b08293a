/-
  Maps from names to values, kept as pairs in increasing order of the names, so that listing a map
  lists it sorted and equal maps are equal lists.
-/

namespace CodeSurvey

/-- Pairs of a name and a value, the names strictly increasing. -/
abbrev NameMap (α : Type u) := List (String × α)

namespace NameMap

/-- The value of a name. -/
def find? (m : NameMap α) (name : String) : Option α :=
  m.lookup name

/-- Sets the value of a name. -/
def insert (m : NameMap α) (name : String) (value : α) : NameMap α :=
  match m with
  | [] => [(name, value)]
  | (k, v) :: rest =>
    if name < k then (name, value) :: (k, v) :: rest
    else if name = k then (name, value) :: rest
    else (k, v) :: insert rest name value

/-- Removes a name. -/
def erase (m : NameMap α) (name : String) : NameMap α :=
  m.filter (·.1 != name)

/-- Changes the value of a name, `none` standing for a name without one. -/
def alter (m : NameMap α) (name : String) (f : Option α → α) : NameMap α :=
  m.insert name (f (m.find? name))

/-- The names, in order. -/
def names (m : NameMap α) : List String :=
  m.map Prod.fst

/-- The map of some pairs; of two pairs with one name the later one counts. -/
def ofPairs (pairs : List (String × α)) : NameMap α :=
  pairs.foldl (fun m p => insert m p.1 p.2) []

/-- Names in order, each once. -/
def sortNames (names : List String) : List String :=
  NameMap.names (ofPairs (names.map fun n => (n, ())))

end NameMap

end CodeSurvey
