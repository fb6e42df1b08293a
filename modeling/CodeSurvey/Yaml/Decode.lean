/-
  Decoding: from the events of a document to values of a known shape.  A message carries the path to
  the value at fault and the mark of the innermost event that was being decoded.
-/
import CodeSurvey.Yaml.Document
import CodeSurvey.Yaml.Meaning

namespace CodeSurvey.Yaml

/-! ## §1. Paths and errors -/

/-- The way from the root to a value. -/
inductive Route where
  | root
  | entry (parent : Route) (index : Nat)
  | field (parent : Route) (key : String)
  /-- Below a key that is not written as a scalar. -/
  | unknown (parent : Route)
deriving DecidableEq

/-- The way in words. -/
def Route.describe : Route → String
  | .root => "."
  | .entry parent index => parent.describe ++ "[" ++ toString index ++ "]"
  | .field .root key => key
  | .field parent key => parent.describe ++ "." ++ key
  | .unknown .root => "?"
  | .unknown parent => parent.describe ++ ".?"

/-- Why a document has not the right shape. -/
inductive DecodeError where
  | trouble (t : Trouble)
  /-- The events end too early. -/
  | ended
  /-- There is more than one document. -/
  | several
  | message (text : String) (place : Option (Mark × Route))

/-- The position at the end of a message. -/
def Mark.ending (mark : Mark) : String := if mark.isStart then "" else " at " ++ mark.describe

/-- The error in words. -/
def DecodeError.describe : DecodeError → String
  | .trouble (.fault f) => f.message
  | .trouble (.unknownAnchor mark) => "unknown anchor" ++ mark.ending
  | .ended => "EOF while parsing a value"
  | .several => "deserializing from YAML containing more than one document is not supported"
  | .message text none => text
  | .message text (some (mark, route)) =>
    (if route = .root then text else route.describe ++ ": " ++ text) ++ mark.ending

/-- Gives a message its place, unless it has one. -/
def DecodeError.locate (e : DecodeError) (mark : Mark) (route : Route) : DecodeError :=
  match e with
  | .message text none => .message text (some (mark, route))
  | e => e

/-- An error about something else than expected. -/
def unexpected (item : Item) (expected : String) : DecodeError :=
  let mismatch (found : String) : DecodeError :=
    .message ("invalid type: " ++ found ++ ", expected " ++ expected) none
  match item with
  | .scalar s =>
    match s.meaning with
    | .ok m => mismatch m.describe
    | .error e =>
      .message ("invalid value: string " ++ Text.quoted e.text ++ ", expected " ++ e.expected) none
  | .sequenceStart => mismatch "sequence"
  | .mappingStart => mismatch "map"
  | _ => .ended

/-! ## §2. Decoders -/

/-- A decoder reads a value at a place in the list of events and gives the place behind it. -/
abbrev Decoder (α : Type) := Document → Route → Nat → Except DecodeError (α × Nat)

/-- The event at a place. -/
def Document.item (d : Document) (pos : Nat) : Except DecodeError (Item × Mark) :=
  match d.items[pos]? with
  | some entry => .ok entry
  | none =>
    match d.trouble with
    | some t => .error (.trouble t)
    | none => .error .ended

/-- Decodes an event, or the one that an alias leads to.  The body is given the event and the place
behind it. -/
def decodeItem (body : Item → Nat → Except DecodeError (α × Nat)) : Decoder α :=
  fun d route pos =>
    match d.item pos with
    | .error e => .error e
    | .ok (.reference id, _) =>
      let target := (d.targets.lookup id).getD 0
      match d.item target with
      | .error e => .error e
      | .ok (item, mark) =>
        match body item (target + 1) with
        | .error e => .error (e.locate mark route)
        | .ok (a, _) => .ok (a, pos + 1)
    | .ok (item, mark) =>
      match body item (pos + 1) with
      | .error e => .error (e.locate mark route)
      | .ok r => .ok r

/-- A text: any scalar will do. -/
def decodeText (expected : String) : Decoder String :=
  decodeItem fun item next =>
    match item with
    | .scalar s => .ok (s.text, next)
    | item => .error (unexpected item expected)

/-- May a scalar be read as a value of the type with a given tag? -/
def Scalar.isReadable (s : Scalar) (type : String) : Bool :=
  s.style = .plain || (s.style = .literal && s.tag == some (typeTag type))

/-- A truth value. -/
def decodeTruth : Decoder Bool :=
  decodeItem fun item next =>
    match item with
    | .scalar s =>
      match if s.isReadable "bool" then truth? s.text else none with
      | some b => .ok (b, next)
      | none => .error (unexpected item "a boolean")
    | item => .error (unexpected item "a boolean")

/-- A count. -/
def decodeCount (expected : String) : Decoder Nat :=
  decodeItem fun item next =>
    match item with
    | .scalar s =>
      match if s.isReadable "int" then unsigned? Text.countLimit s.text.toList else none with
      | some n => .ok (n, next)
      | none => .error (unexpected item expected)
    | item => .error (unexpected item expected)

/-- Does an event stand for an empty collection? -/
def Item.isVoid : Item → Bool
  | .nothing => true
  | .scalar s => s.text.isEmpty && s.style = .plain
  | _ => false

/-- The way to the value of the key at a place. -/
def valueRoute (d : Document) (route : Route) (pos : Nat) : Route :=
  match d.items[pos]? with
  | some (.scalar s, _) => .field route s.text
  | _ => .unknown route

/-- Decodes the entries of a mapping up to its end. -/
def decodeEntries (keyName : String) (entry : σ → String → Decoder σ) (d : Document) (route : Route) :
    Nat → σ → Nat → Except DecodeError (σ × Nat)
  | 0, _, _ => .error .ended
  | fuel + 1, acc, pos =>
    match d.item pos with
    | .error e => .error e
    | .ok (.mappingEnd, _) => .ok (acc, pos + 1)
    | .ok _ =>
      match decodeText keyName d route pos with
      | .error e => .error e
      | .ok (key, next) =>
        match entry acc key d (valueRoute d route pos) next with
        | .error e => .error e
        | .ok (acc, next) => decodeEntries keyName entry d route fuel acc next

/-- A mapping, folded entry by entry. -/
def decodeMapping (expected keyName : String) (init : σ) (entry : σ → String → Decoder σ) :
    Decoder σ :=
  fun d route => decodeItem (fun item next =>
    if item = .mappingStart then decodeEntries keyName entry d route (d.items.length + 1) init next
    else if item.isVoid then .ok (init, next)
    else .error (unexpected item expected)) d route

/-- Decodes the entries of a sequence up to its end. -/
def decodeSequenceEntries (value : Decoder α) (d : Document) (route : Route) :
    Nat → List α → Nat → Except DecodeError (List α × Nat)
  | 0, _, _ => .error .ended
  | fuel + 1, acc, pos =>
    match d.item pos with
    | .error e => .error e
    | .ok (.sequenceEnd, _) => .ok (acc.reverse, pos + 1)
    | .ok _ =>
      match value d (.entry route acc.length) pos with
      | .error e => .error e
      | .ok (a, next) => decodeSequenceEntries value d route fuel (a :: acc) next

/-- A sequence. -/
def decodeSequence (value : Decoder α) : Decoder (List α) :=
  fun d route => decodeItem (fun item next =>
    if item = .sequenceStart then
      decodeSequenceEntries value d route (d.items.length + 1) [] next
    else if item.isVoid then .ok ([], next)
    else .error (unexpected item "a sequence")) d route

/-- A mapping from names to values; of two entries with one key the later counts. -/
def decodeNameMap (value : Decoder α) : Decoder (NameMap α) :=
  decodeMapping "a map" "a string" [] fun m key d route pos =>
    match value d route pos with
    | .error e => .error e
    | .ok (a, next) => .ok (NameMap.insert m key a, next)

/-- Passes over a value, `depth` collections deep. -/
def skipValue (d : Document) : Nat → Nat → Nat → Except DecodeError Nat
  | 0, _, _ => .error .ended
  | fuel + 1, depth, pos =>
    match d.item pos with
    | .error e => .error e
    | .ok (item, _) =>
      let depth := match item with
        | .sequenceStart => depth + 1
        | .mappingStart => depth + 1
        | .sequenceEnd => depth - 1
        | .mappingEnd => depth - 1
        | _ => depth
      if depth = 0 then .ok (pos + 1) else skipValue d fuel depth (pos + 1)

/-- Passes over a value. -/
def decodeAnything : Decoder Unit :=
  fun d _ pos => (skipValue d (d.items.length + 1) 0 pos).map ((), ·)

/-- Decodes a field that may be given once only. -/
def decodeOnce (name : String) (given : Option α) (value : Decoder α) : Decoder α :=
  fun d route pos =>
    if given.isSome then .error (.message ("duplicate field \x60" ++ name ++ "\x60") none)
    else value d route pos

/-- Decodes a whole text, which must hold one document only. -/
def decode (value : Decoder α) (text : String) : Except DecodeError α :=
  let (d, more) := load text
  match value d .root 0 with
  | .error e => .error e
  | .ok (a, _) =>
    match d.trouble with
    | some t => .error (.trouble t)
    | none => if more then .error .several else .ok a

end CodeSurvey.Yaml
