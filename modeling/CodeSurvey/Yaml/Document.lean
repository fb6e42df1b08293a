/-
  The first document of a YAML text: its events up to its end or to the first fault, with the
  places that aliases lead to.
-/
import CodeSurvey.NameMap
import CodeSurvey.Yaml.Event

namespace CodeSurvey.Yaml

/-- What ends the events of a document early. -/
inductive Trouble where
  | fault (f : Fault)
  | unknownAnchor (mark : Mark)
deriving DecidableEq

/-- An event inside a document. -/
inductive Item where
  /-- There is nothing in the whole text. -/
  | nothing
  /-- Goes on at the place that the number stands for. -/
  | reference (id : Nat)
  | scalar (s : Scalar)
  | sequenceStart
  | sequenceEnd
  | mappingStart
  | mappingEnd
deriving DecidableEq

/-- The events of a document. -/
structure Document where
  items : List (Item × Mark) := []
  /-- The place in the list that each number stands for. -/
  targets : List (Nat × Nat) := []
  trouble : Option Trouble := none

/-- The document so far, and the numbers of its anchors. -/
structure Loading where
  document : Document := {}
  anchors : NameMap Nat := []

/-- Adds an event. -/
def Loading.add (l : Loading) (item : Item) (mark : Mark) : Loading :=
  { l with document := { l.document with items := l.document.items ++ [(item, mark)] } }

/-- Notes that the next event has an anchor; it gets the next number. -/
def Loading.note (l : Loading) (anchor : Option String) : Loading :=
  match anchor with
  | none => l
  | some name =>
    let id := l.anchors.length
    let d := l.document
    { document := { d with targets := (id, d.items.length) :: d.targets },
      anchors := l.anchors.insert name id }

/-- The document with what ended it. -/
def Loading.stop (l : Loading) (t : Trouble) : Document := { l.document with trouble := some t }

/-- What a text holds after the events of a document: more, or nothing. -/
structure Loaded where
  /-- The document, if the text did not end before one began. -/
  document : Option Document
  machine : Machine
  /-- Has the end of the text been reached? -/
  ended : Bool := false

/-- Reads the events of a document. -/
def loadFrom : Nat → Bool → Loading → Machine → Loaded
  | 0, _, l, m => ⟨some l.document, m, false⟩
  | fuel + 1, first, l, m =>
    match m.step with
    | .error f => ⟨some (l.stop (.fault f)), m, false⟩
    | .ok (e, m) =>
      match e.kind with
      | .streamStart => loadFrom fuel first l m
      | .streamEnd =>
        if first then
          let l := if l.document.items.isEmpty then l.add .nothing e.mark else l
          ⟨some l.document, m, true⟩
        else ⟨none, m, true⟩
      | .documentStart => loadFrom fuel first l m
      | .documentEnd => ⟨some l.document, m, false⟩
      | .reference name =>
        match l.anchors.find? name with
        | some id => loadFrom fuel first (l.add (.reference id) e.mark) m
        | none => ⟨some (l.stop (.unknownAnchor e.mark)), m, false⟩
      | .scalar anchor s => loadFrom fuel first ((l.note anchor).add (.scalar s) e.mark) m
      | .sequenceStart anchor =>
        loadFrom fuel first ((l.note anchor).add .sequenceStart e.mark) m
      | .sequenceEnd => loadFrom fuel first (l.add .sequenceEnd e.mark) m
      | .mappingStart anchor => loadFrom fuel first ((l.note anchor).add .mappingStart e.mark) m
      | .mappingEnd => loadFrom fuel first (l.add .mappingEnd e.mark) m

/-- The first document of a text, and whether another one, or a fault, comes after it. -/
def load (text : String) : Document × Bool :=
  let cs := text.toList
  match forbiddenAt 0 cs with
  | some offset =>
    ({ trouble := some (.fault { problem := "control characters are not allowed", offset := offset }) },
      false)
  | none =>
    let fuel := 8 * cs.length + 16
    let loaded := loadFrom fuel true {} (Machine.ofText cs)
    let document := loaded.document.getD {}
    if loaded.ended then (document, false)
    else (document, (loadFrom fuel false {} loaded.machine).document.isSome)

end CodeSurvey.Yaml
