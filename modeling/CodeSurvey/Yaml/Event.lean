/-
  From tokens to events: starts and ends of documents and collections, scalars and aliases.  The
  reader is a machine with a stack of the states to come back to; each step gives one event.
-/
import CodeSurvey.Yaml.Scanner

namespace CodeSurvey.Yaml

/-! ## §1. Events -/

/-- A scalar as written. -/
structure Scalar where
  text : String
  style : Style
  tag : Option String := none
deriving DecidableEq

/-- The kinds of events. -/
inductive EventKind where
  | streamStart
  | streamEnd
  | documentStart
  | documentEnd
  | reference (name : String)
  | scalar (anchor : Option String) (s : Scalar)
  | sequenceStart (anchor : Option String)
  | sequenceEnd
  | mappingStart (anchor : Option String)
  | mappingEnd

/-- An event and where it begins. -/
structure Event where
  kind : EventKind
  mark : Mark

/-! ## §2. The machine -/

/-- What the machine expects next. -/
inductive State where
  | streamStart
  | implicitDocument
  | document
  | documentContent
  | documentEnd
  | blockNode
  | blockSequence (first : Bool)
  | indentlessSequence
  | blockKey (first : Bool)
  | blockValue
  | flowSequence (first : Bool)
  | pairKey
  | pairValue
  | pairEnd
  | flowKey (first : Bool)
  | flowValue (empty : Bool)
  | done
deriving DecidableEq

/-- The state of the machine. -/
structure Machine where
  scanner : Scanner
  state : State := .streamStart
  /-- The states to come back to, latest first. -/
  states : List State := []
  /-- Where the open collections began, innermost first. -/
  marks : List Mark := []
  /-- Tag handles and what they stand for. -/
  handles : List (String × String) := []

/-- The handles that need no directive. -/
def defaultHandles : List (String × String) := [("!", "!"), ("!!", "tag:yaml.org,2002:")]

/-- One step gives an event and the machine after it. -/
abbrev Step := Except Fault (Event × Machine)

namespace Machine

/-- The machine at the start of a text. -/
def ofText (text : List Char) : Machine := { scanner := Scanner.ofText text }

/-- The next token. -/
def peek (m : Machine) : Except Fault (Token × Machine) :=
  m.scanner.peek.map fun (t, s) => (t, { m with scanner := s })

/-- Takes the next token. -/
def take (m : Machine) : Machine := { m with scanner := m.scanner.take }

/-- Takes the next token and looks at the one behind it. -/
def advance (m : Machine) : Except Fault (Token × Machine) := m.take.peek

/-- Goes on in a state. -/
def goTo (m : Machine) (s : State) : Machine := { m with state := s }

/-- Comes back to the latest state. -/
def back (m : Machine) : Machine :=
  { m with state := m.states.head?.getD .done, states := m.states.drop 1 }

/-- Notes a state to come back to. -/
def later (m : Machine) (s : State) : Machine := { m with states := s :: m.states }

/-- Notes where a collection began. -/
def begin (m : Machine) (mark : Mark) : Machine := { m with marks := mark :: m.marks }

/-- Forgets where the innermost collection began. -/
def finish (m : Machine) : Machine := { m with marks := m.marks.drop 1 }

/-- Where the innermost collection began. -/
def began (m : Machine) : Mark := m.marks.head?.getD {}

/-- An event, and what comes after it. -/
def emit (m : Machine) (kind : EventKind) (mark : Mark) : Step := .ok (⟨kind, mark⟩, m)

/-- A scalar that is not written. -/
def emitEmpty (m : Machine) (mark : Mark) : Step :=
  m.emit (.scalar none { text := "", style := .plain }) mark

/-- A fault at a token inside something that began elsewhere. -/
def fail (what : String) (start : Mark) (problem : String) (mark : Mark) : Step :=
  .error { problem := problem, mark := mark, context := some (what, start) }

/-! ## §3. Nodes -/

/-- The anchor and the tag in front of a node. -/
structure Properties where
  anchor : Option String := none
  tag : Option (String × String × Mark) := none
  start : Mark

/-- Reads the properties of a node; `t` is the next token, and so is the one returned. -/
def readProperties (m : Machine) (t : Token) : Except Fault (Properties × Token × Machine) := do
  match t.kind with
  | .anchor name =>
    let (u, m) ← m.advance
    match u.kind with
    | .tag handle rest =>
      let (v, m) ← m.advance
      pure ({ anchor := some name, tag := some (handle, rest, u.start), start := t.start }, v, m)
    | _ => pure ({ anchor := some name, start := t.start }, u, m)
  | .tag handle rest =>
    let (u, m) ← m.advance
    match u.kind with
    | .anchor name =>
      let (v, m) ← m.advance
      pure ({ anchor := some name, tag := some (handle, rest, t.start), start := t.start }, v, m)
    | _ => pure ({ tag := some (handle, rest, t.start), start := t.start }, u, m)
  | _ => pure ({ start := t.start }, t, m)

/-- The tag that is meant once its handle is replaced. -/
def resolveTag (m : Machine) (p : Properties) : Except Fault (Option String) :=
  match p.tag with
  | none => .ok none
  | some (handle, rest, mark) =>
    if handle.isEmpty then .ok (some rest)
    else
      match m.handles.lookup handle with
      | some expansion => .ok (some (expansion ++ rest))
      | none =>
        .error { problem := "found undefined tag handle", mark := mark,
                 context := some ("while parsing a node", p.start) }

/-- A node of which only the properties are written, if there are any. -/
def bareNode (m : Machine) (block : Bool) (p : Properties) (t : Token) (tag : Option String) : Step :=
  if p.anchor.isSome || tag.isSome then
    m.back.emit (.scalar p.anchor ⟨"", .plain, tag⟩) p.start
  else
    fail (if block then "while parsing a block node" else "while parsing a flow node") p.start
      "did not find expected node content" t.start

/-- Reads a node.  `block` allows block collections, `indentless` a sequence without indentation. -/
def node (m : Machine) (block indentless : Bool) : Step := do
  let (t, m) ← m.peek
  match t.kind with
  | .reference name => m.back.take.emit (.reference name) t.start
  | _ =>
    let (p, t, m) ← readProperties m t
    let tag ← m.resolveTag p
    match t.kind, block with
    | .blockEntry, _ =>
      if indentless then
        (m.goTo .indentlessSequence).emit (.sequenceStart p.anchor) p.start
      else m.bareNode block p t tag
    | .scalar text style, _ =>
      m.back.take.emit
        (.scalar p.anchor ⟨text, style, tag.filter (· != "!")⟩) p.start
    | .flowSequenceStart, _ =>
      (m.goTo (.flowSequence true)).emit (.sequenceStart p.anchor) p.start
    | .flowMappingStart, _ =>
      (m.goTo (.flowKey true)).emit (.mappingStart p.anchor) p.start
    | .blockSequenceStart, true =>
      (m.goTo (.blockSequence true)).emit (.sequenceStart p.anchor) p.start
    | .blockMappingStart, true =>
      (m.goTo (.blockKey true)).emit (.mappingStart p.anchor) p.start
    | _, _ => m.bareNode block p t tag

/-! ## §4. Documents -/

/-- Reads the directives in front of a document. -/
def directives : Nat → Bool → List (String × String) → Machine →
    Except Fault (List (String × String) × Machine)
  | 0, _, handles, m => .ok (handles, m)
  | fuel + 1, versioned, handles, m => do
    let (t, m) ← m.peek
    match t.kind with
    | .version major minor =>
      if versioned then .error { problem := "found duplicate %YAML directive", mark := t.start }
      else if major != 1 || (minor != 1 && minor != 2) then
        .error { problem := "found incompatible YAML document", mark := t.start }
      else directives fuel true handles m.take
    | .tagHandle handle expansion =>
      if (handles.lookup handle).isSome then
        .error { problem := "found duplicate %TAG directive", mark := t.start }
      else directives fuel versioned (handles ++ [(handle, expansion)]) m.take
    | _ =>
      let more := defaultHandles.filter fun h => (handles.lookup h.1).isNone
      .ok (handles ++ more, m)

/-- Skips marks at the end of documents. -/
def skipDocumentEnds : Nat → Machine → Except Fault Machine
  | 0, m => .ok m
  | fuel + 1, m => do
    let (t, m) ← m.peek
    match t.kind with
    | .documentEnd => skipDocumentEnds fuel m.take
    | _ => .ok m

/-- A bound on the number of tokens to come. -/
def bound (m : Machine) : Nat := m.scanner.input.rest.length + m.scanner.queue.length + 4

/-- The start of a document, or the end of the text.  The first document needs no mark. -/
def documentStart (m : Machine) (implicit : Bool) : Step := do
  let m ← if implicit then pure m else skipDocumentEnds m.bound m
  let (t, m) ← m.peek
  let explicit : Step := do
    let (handles, m) ← directives m.bound false [] m
    let (u, m) ← m.peek
    match u.kind with
    | .documentStart =>
      (({ m with handles := handles }.later .documentEnd).goTo .documentContent).take.emit
        .documentStart t.start
    | _ => .error { problem := "did not find expected <document start>", mark := u.start }
  match t.kind with
  | .streamEnd => (m.goTo .done).take.emit .streamEnd t.start
  | .version _ _ => explicit
  | .tagHandle _ _ => explicit
  | .documentStart => explicit
  | _ =>
    if implicit then
      (({ m with handles := defaultHandles }.later .documentEnd).goTo .blockNode).emit
        .documentStart t.start
    else explicit

/-- The content of a document, which may be empty. -/
def documentContent (m : Machine) : Step := do
  let (t, m) ← m.peek
  match t.kind with
  | .version _ _ => m.back.emitEmpty t.start
  | .tagHandle _ _ => m.back.emitEmpty t.start
  | .documentStart => m.back.emitEmpty t.start
  | .documentEnd => m.back.emitEmpty t.start
  | .streamEnd => m.back.emitEmpty t.start
  | _ => m.node true false

/-- The end of a document. -/
def documentEnd (m : Machine) : Step := do
  let (t, m) ← m.peek
  let m := if t.kind = .documentEnd then m.take else m
  (m.goTo .document).emit .documentEnd t.start

/-! ## §5. Block collections -/

/-- An entry of a block sequence. -/
def blockSequence (m : Machine) (first : Bool) : Step := do
  let (t, m) ← m.peek
  let (t, m) ← if first then (m.begin t.start).advance else pure (t, m)
  match t.kind with
  | .blockEntry =>
    let (u, m) ← m.advance
    if u.kind = .blockEntry || u.kind = .blockEnd then
      (m.goTo (.blockSequence false)).emitEmpty t.stop
    else (m.later (.blockSequence false)).node true false
  | .blockEnd => m.back.finish.take.emit .sequenceEnd t.start
  | _ =>
    fail "while parsing a block collection" m.began "did not find expected '-' indicator" t.start

/-- An entry of a sequence without indentation. -/
def indentlessSequence (m : Machine) : Step := do
  let (t, m) ← m.peek
  match t.kind with
  | .blockEntry =>
    let (u, m) ← m.advance
    if u.kind = .blockEntry || u.kind = .key || u.kind = .value || u.kind = .blockEnd then
      (m.goTo .indentlessSequence).emitEmpty t.stop
    else (m.later .indentlessSequence).node true false
  | _ => m.back.emit .sequenceEnd t.start

/-- A key of a block mapping. -/
def blockKey (m : Machine) (first : Bool) : Step := do
  let (t, m) ← m.peek
  let (t, m) ← if first then (m.begin t.start).advance else pure (t, m)
  match t.kind with
  | .key =>
    let (u, m) ← m.advance
    if u.kind = .key || u.kind = .value || u.kind = .blockEnd then
      (m.goTo .blockValue).emitEmpty t.stop
    else (m.later .blockValue).node true true
  | .blockEnd => m.back.finish.take.emit .mappingEnd t.start
  | _ => fail "while parsing a block mapping" m.began "did not find expected key" t.start

/-- A value of a block mapping. -/
def blockValue (m : Machine) : Step := do
  let (t, m) ← m.peek
  match t.kind with
  | .value =>
    let (u, m) ← m.advance
    if u.kind = .key || u.kind = .value || u.kind = .blockEnd then
      (m.goTo (.blockKey false)).emitEmpty t.stop
    else (m.later (.blockKey false)).node true true
  | _ => (m.goTo (.blockKey false)).emitEmpty t.start

/-! ## §6. Flow collections -/

/-- The comma in front of any entry but the first, and the token behind it. -/
def flowEntry (m : Machine) (first : Bool) (t : Token) (what problem : String) :
    Except Fault (Token × Machine) :=
  if first then .ok (t, m)
  else if t.kind = .flowEntry then m.advance
  else .error { problem := problem, mark := t.start, context := some (what, m.began) }

/-- An entry of a flow sequence, which may be a single pair. -/
def flowSequence (m : Machine) (first : Bool) : Step := do
  let close (m : Machine) (t : Token) : Step := m.back.finish.take.emit .sequenceEnd t.start
  let (t, m) ← m.peek
  let (t, m) ← if first then (m.begin t.start).advance else pure (t, m)
  if t.kind = .flowSequenceEnd then close m t
  else
    let (t, m) ← m.flowEntry first t "while parsing a flow sequence"
      "did not find expected ',' or ']'"
    match t.kind with
    | .key => (m.goTo .pairKey).take.emit (.mappingStart none) t.start
    | .flowSequenceEnd => close m t
    | _ => (m.later (.flowSequence false)).node false false

/-- The key of a pair in a flow sequence. -/
def pairKey (m : Machine) : Step := do
  let (t, m) ← m.peek
  if t.kind = .value || t.kind = .flowEntry || t.kind = .flowSequenceEnd then
    (m.goTo .pairValue).take.emitEmpty t.stop
  else (m.later .pairValue).node false false

/-- The value of a pair in a flow sequence. -/
def pairValue (m : Machine) : Step := do
  let (t, m) ← m.peek
  if t.kind = .value then
    let (u, m) ← m.advance
    if u.kind = .flowEntry || u.kind = .flowSequenceEnd then (m.goTo .pairEnd).emitEmpty u.start
    else (m.later .pairEnd).node false false
  else (m.goTo .pairEnd).emitEmpty t.start

/-- The end of a pair in a flow sequence. -/
def pairEnd (m : Machine) : Step := do
  let (t, m) ← m.peek
  (m.goTo (.flowSequence false)).emit .mappingEnd t.start

/-- A key of a flow mapping. -/
def flowKey (m : Machine) (first : Bool) : Step := do
  let close (m : Machine) (t : Token) : Step := m.back.finish.take.emit .mappingEnd t.start
  let (t, m) ← m.peek
  let (t, m) ← if first then (m.begin t.start).advance else pure (t, m)
  if t.kind = .flowMappingEnd then close m t
  else
    let (t, m) ← m.flowEntry first t "while parsing a flow mapping"
      "did not find expected ',' or '\x7d'"
    match t.kind with
    | .key =>
      let (u, m) ← m.advance
      if u.kind = .value || u.kind = .flowEntry || u.kind = .flowMappingEnd then
        (m.goTo (.flowValue false)).emitEmpty u.start
      else (m.later (.flowValue false)).node false false
    | .flowMappingEnd => close m t
    | _ => (m.later (.flowValue true)).node false false

/-- A value of a flow mapping. -/
def flowValue (m : Machine) (empty : Bool) : Step := do
  let (t, m) ← m.peek
  if empty then (m.goTo (.flowKey false)).emitEmpty t.start
  else if t.kind = .value then
    let (u, m) ← m.advance
    if u.kind = .flowEntry || u.kind = .flowMappingEnd then
      (m.goTo (.flowKey false)).emitEmpty u.start
    else (m.later (.flowKey false)).node false false
  else (m.goTo (.flowKey false)).emitEmpty t.start

/-! ## §7. Steps -/

/-- The next event. -/
def step (m : Machine) : Step :=
  match m.state with
  | .streamStart => do
    let (t, m) ← m.peek
    (m.goTo .implicitDocument).take.emit .streamStart t.start
  | .implicitDocument => m.documentStart true
  | .document => m.documentStart false
  | .documentContent => m.documentContent
  | .documentEnd => m.documentEnd
  | .blockNode => m.node true false
  | .blockSequence first => m.blockSequence first
  | .indentlessSequence => m.indentlessSequence
  | .blockKey first => m.blockKey first
  | .blockValue => m.blockValue
  | .flowSequence first => m.flowSequence first
  | .pairKey => m.pairKey
  | .pairValue => m.pairValue
  | .pairEnd => m.pairEnd
  | .flowKey first => m.flowKey first
  | .flowValue empty => m.flowValue empty
  | .done => m.emit .streamEnd m.scanner.mark

end Machine

end CodeSurvey.Yaml
