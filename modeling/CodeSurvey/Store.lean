/-
  A bounded store: the entries set last are kept, at most `capacity` of them.  A look-up never
  changes what is kept; it only counts as a hit or a miss.  A store that is switched off keeps
  nothing and misses always.
-/
import CodeSurvey.NameMap

namespace CodeSurvey

/-- A store of values under keys. -/
structure Store (α : Type) where
  capacity : Nat
  enabled : Bool
  /-- The values by their keys. -/
  entries : NameMap α := []
  /-- The keys, the one set longest ago first. -/
  order : List String := []
  hits : Nat := 0
  misses : Nat := 0

namespace Store

/-- An empty store that holds at least one entry. -/
def ofCapacity (capacity : Nat) (enabled : Bool) : Store α :=
  { capacity := max capacity 1, enabled := enabled }

/-- The number of entries. -/
def size (s : Store α) : Nat := s.entries.length

/-- The value kept under a key. -/
def find? (s : Store α) (key : String) : Option α :=
  if s.enabled then s.entries.find? key else none

/-- Looks a key up and counts the outcome. -/
def get (s : Store α) (key : String) : Option α × Store α :=
  match s.find? key with
  | some v => (some v, { s with hits := s.hits + 1 })
  | none => (none, { s with misses := s.misses + 1 })

/-- Gives up entries, those set longest ago first, until no more than `capacity` are left. -/
def evict (capacity : Nat) : NameMap α → List String → NameMap α × List String
  | entries, [] => (entries, [])
  | entries, oldest :: order =>
    if capacity < entries.length then evict capacity (entries.erase oldest) order
    else (entries, oldest :: order)

/-- Keeps a value under a key as the latest entry and gives up the oldest ones beyond capacity. -/
def set (s : Store α) (key : String) (value : α) : Store α :=
  if s.enabled then
    let order := if (s.entries.find? key).isSome then s.order.filter (· != key) else s.order
    let (entries, order) := evict s.capacity (s.entries.insert key value) (order ++ [key])
    { s with entries := entries, order := order }
  else s

/-- Forgets the entries and the counts. -/
def clear (s : Store α) : Store α :=
  { s with entries := [], order := [], hits := 0, misses := 0 }

/-- The number of look-ups. -/
def requests (s : Store α) : Nat := s.hits + s.misses

/-- The share of hits among look-ups. -/
def hitRate (s : Store α) : Float :=
  if s.requests = 0 then 0.0 else Float.ofNat s.hits / Float.ofNat s.requests

end Store

end CodeSurvey
