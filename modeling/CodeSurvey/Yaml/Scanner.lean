/-
  From characters to tokens.  Whether a scalar is a key shows only at the colon behind it, so tokens
  wait in a queue while the first of them may still turn out to be a key; then a key token, and
  perhaps the start of a mapping, is put in front of it.
-/
import CodeSurvey.Yaml.Token

namespace CodeSurvey.Yaml

/-- A place where a key without a question mark may have begun. -/
structure KeyPlace where
  possible : Bool := false
  /-- Nothing but a key can stand here. -/
  required : Bool := false
  tokenNumber : Nat := 0
  mark : Mark := {}

/-- The state of scanning. -/
structure Scanner where
  input : Input
  /-- Tokens that have been read and not taken yet. -/
  queue : List Token := []
  /-- The number of tokens taken. -/
  taken : Nat := 0
  started : Bool := false
  /-- The column of the present block collection. -/
  indent : Int := -1
  /-- The columns of the collections around it, nearest first. -/
  outerIndents : List Int := []
  /-- May a key begin here? -/
  keyAllowed : Bool := false
  /-- The key place of the present flow collection, then those of the ones around it. -/
  keyPlaces : List KeyPlace := []
  flowDepth : Nat := 0

namespace Scanner

/-- The state at the start of a text. -/
def ofText (text : List Char) : Scanner := { input := ⟨text, {}⟩ }

/-- Are we inside a flow collection? -/
def inFlow (s : Scanner) : Bool := s.flowDepth != 0

/-- Where we are. -/
def mark (s : Scanner) : Mark := s.input.mark

/-- Puts a token at the end of the queue. -/
def push (s : Scanner) (t : Token) : Scanner := { s with queue := s.queue ++ [t] }

/-- Puts a token of no width at the end of the queue. -/
def pushHere (s : Scanner) (kind : TokenKind) : Scanner := s.push ⟨kind, s.mark, s.mark⟩

/-- Puts a token in front of the one with a given number. -/
def insert (s : Scanner) (number : Nat) (t : Token) : Scanner :=
  let n := number - s.taken
  { s with queue := s.queue.take n ++ [t] ++ s.queue.drop n }

/-- A fault that is told without what was being read. -/
def fail (s : Scanner) (problem : String) : Except Fault α :=
  .error { problem := problem, mark := s.mark }

/-- A token of `n` characters. -/
def pushIndicator (s : Scanner) (kind : TokenKind) (n : Nat) : Scanner :=
  let stop := s.input.drop n
  { s with input := stop, queue := s.queue ++ [⟨kind, s.mark, stop.mark⟩] }

/-! ## §1. Key places -/

/-- The fault of a required key that did not come. -/
def missingColon (s : Scanner) (k : KeyPlace) : Except Fault α :=
  s.input.fail "while scanning a simple key" k.mark "could not find expected ':'"

/-- The present key place. -/
def keyPlace (s : Scanner) : KeyPlace := s.keyPlaces.head?.getD {}

/-- Replaces the present key place. -/
def setKeyPlace (s : Scanner) (k : KeyPlace) : Scanner :=
  { s with keyPlaces := k :: s.keyPlaces.drop 1 }

/-- Gives up the present key place. -/
def dropKeyPlace (s : Scanner) : Except Fault Scanner :=
  let k := s.keyPlace
  if k.possible && k.required then s.missingColon k
  else .ok (s.setKeyPlace { k with possible := false })

/-- Notes that a key may begin here. -/
def noteKeyPlace (s : Scanner) : Except Fault Scanner :=
  if s.keyAllowed then
    match s.dropKeyPlace with
    | .error f => .error f
    | .ok s =>
      .ok (s.setKeyPlace
        { possible := true,
          required := !s.inFlow && s.indent == (s.mark.column : Int),
          tokenNumber := s.taken + s.queue.length,
          mark := s.mark })
  else .ok s

/-- Is a key place out of reach?  Keys stay on one line and are short. -/
def isStale (s : Scanner) (k : KeyPlace) : Bool :=
  k.possible && (k.mark.line < s.mark.line || k.mark.index + 1024 < s.mark.index)

/-- Gives up the key places that are out of reach, the outermost first. -/
def dropStale (s : Scanner) : Except Fault Scanner :=
  match s.keyPlaces.reverse.find? fun k => s.isStale k && k.required with
  | some k => s.missingColon k
  | none =>
    .ok { s with keyPlaces := s.keyPlaces.map fun k =>
      if s.isStale k then { k with possible := false } else k }

/-! ## §2. Indentation -/

/-- Opens a block collection at a column, unless one is open there.  Its token goes in front of the
token with the given number, or to the end. -/
def openBlock (s : Scanner) (column : Nat) (number : Option Nat) (kind : TokenKind) (m : Mark) :
    Scanner :=
  if s.inFlow || (column : Int) ≤ s.indent then s
  else
    let s := { s with indent := column, outerIndents := s.indent :: s.outerIndents }
    match number with
    | none => s.push ⟨kind, m, m⟩
    | some n => s.insert n ⟨kind, m, m⟩

/-- Closes block collections, `outer` being the columns around the present one, until one is not
indented further than a column. -/
def closeThrough (column : Int) : List Int → Scanner → Scanner
  | outer, s =>
    if s.indent ≤ column then s
    else
      let s := s.pushHere .blockEnd
      match outer with
      | [] => { s with indent := -1, outerIndents := [] }
      | i :: outer => closeThrough column outer { s with indent := i, outerIndents := outer }

/-- Closes the block collections that are indented further than a column. -/
def closeBlocks (s : Scanner) (column : Int) : Scanner :=
  if s.inFlow then s else closeThrough column s.outerIndents s

/-! ## §3. Tokens -/

/-- Skips blanks, comments and line breaks in front of a token. -/
def skipToToken : Nat → Scanner → Scanner
  | 0, s => s
  | fuel + 1, s =>
    let i := s.input
    let i := if i.mark.index == 0 && i.next == some (Char.ofNat 0xfeff) then i.skip else i
    let tabs := s.inFlow || !s.keyAllowed
    let i := i.skipWhile fun c => c == ' ' || (tabs && c == '\t')
    let i := if i.sees '#' then i.skipWhile fun c => !isBreak c else i
    match i.readBreak with
    | some (_, i) =>
      skipToToken fuel { s with input := i, keyAllowed := s.keyAllowed || !s.inFlow }
    | none => { s with input := i }

/-- Leaves all block collections and gives the key place up, as the marks between documents do. -/
def leaveAll (s : Scanner) : Except Fault Scanner :=
  match (s.closeBlocks (-1)).dropKeyPlace with
  | .error f => .error f
  | .ok s => .ok { s with keyAllowed := false }

/-- The end of the text. -/
def fetchEnd (s : Scanner) : Except Fault Scanner :=
  let m := s.mark
  let s := if m.column == 0 then s
    else { s with input := { s.input with mark := { m with line := m.line + 1, column := 0 } } }
  s.leaveAll.map (·.pushHere .streamEnd)

/-- Takes in what a reader has read. -/
def accept (s : Scanner) (r : Reading) : Except Fault Scanner :=
  match r with
  | .error f => .error f
  | .ok (t, i) => .ok { s.push t with input := i }

/-- A directive. -/
def fetchDirective (s : Scanner) : Except Fault Scanner :=
  match s.leaveAll with
  | .error f => .error f
  | .ok s => s.accept (readDirective s.input)

/-- The start of a flow collection. -/
def fetchFlowStart (s : Scanner) (kind : TokenKind) : Except Fault Scanner :=
  s.noteKeyPlace.map fun s =>
    { s.pushIndicator kind 1 with
      keyPlaces := {} :: s.keyPlaces, flowDepth := s.flowDepth + 1, keyAllowed := true }

/-- The end of a flow collection. -/
def fetchFlowEnd (s : Scanner) (kind : TokenKind) : Except Fault Scanner :=
  s.dropKeyPlace.map fun s =>
    let s := if s.inFlow then
        { s with keyPlaces := s.keyPlaces.drop 1, flowDepth := s.flowDepth - 1 }
      else s
    { s.pushIndicator kind 1 with keyAllowed := false }

/-- A comma in a flow collection. -/
def fetchFlowEntry (s : Scanner) : Except Fault Scanner :=
  s.dropKeyPlace.map fun s => { s.pushIndicator .flowEntry 1 with keyAllowed := true }

/-- A hyphen in front of an entry. -/
def fetchBlockEntry (s : Scanner) : Except Fault Scanner :=
  if !s.inFlow && !s.keyAllowed then
    s.fail "block sequence entries are not allowed in this context"
  else
    let s := s.openBlock s.mark.column none .blockSequenceStart s.mark
    s.dropKeyPlace.map fun s => { s.pushIndicator .blockEntry 1 with keyAllowed := true }

/-- A question mark in front of a key. -/
def fetchKey (s : Scanner) : Except Fault Scanner :=
  if !s.inFlow && !s.keyAllowed then s.fail "mapping keys are not allowed in this context"
  else
    let s := s.openBlock s.mark.column none .blockMappingStart s.mark
    s.dropKeyPlace.map fun s => { s.pushIndicator .key 1 with keyAllowed := !s.inFlow }

/-- A colon in front of a value. -/
def fetchValue (s : Scanner) : Except Fault Scanner :=
  let k := s.keyPlace
  if k.possible then
    let s := s.insert k.tokenNumber ⟨.key, k.mark, k.mark⟩
    let s := s.openBlock k.mark.column (some k.tokenNumber) .blockMappingStart k.mark
    let s := s.setKeyPlace { k with possible := false }
    .ok { s.pushIndicator .value 1 with keyAllowed := false }
  else if !s.inFlow && !s.keyAllowed then
    s.fail "mapping values are not allowed in this context"
  else
    let s := s.openBlock s.mark.column none .blockMappingStart s.mark
    .ok { s.pushIndicator .value 1 with keyAllowed := !s.inFlow }

/-- A token that may begin a key and after which none may begin. -/
def fetchKeyLike (s : Scanner) (read : Input → Reading) : Except Fault Scanner :=
  match s.noteKeyPlace with
  | .error f => .error f
  | .ok s => { s with keyAllowed := false }.accept (read s.input)

/-- A block scalar. -/
def fetchBlockScalar (s : Scanner) (literal : Bool) : Except Fault Scanner :=
  match s.dropKeyPlace with
  | .error f => .error f
  | .ok s => { s with keyAllowed := true }.accept (readBlockScalar literal s.indent s.input)

/-- A plain scalar.  If a line ends behind it, a key may begin there. -/
def fetchPlain (s : Scanner) : Except Fault Scanner :=
  match s.noteKeyPlace with
  | .error f => .error f
  | .ok s =>
    match readPlain s.inFlow (s.indent + 1) s.input with
    | .error f => .error f
    | .ok (t, broken, i) => .ok { s.push t with input := i, keyAllowed := broken }

/-- Characters that cannot begin a plain scalar. -/
def isIndicator (c : Char) : Bool :=
  "-?:,[]\x7b\x7d#&*!|>\x27\"%@\x60".toList.contains c

/-- Can a plain scalar begin here? -/
def startsPlain (s : Scanner) : Bool :=
  match s.input.next with
  | none => false
  | some c =>
    !(isSpace c || isBreak c || isIndicator c)
      || (c == '-' && !(s.input.at? 1).any isSpace)
      || (!s.inFlow && (c == '?' || c == ':') && !s.input.blankOrEnd 1)

/-- Reads the next token, with all that comes in front of it. -/
def fetchToken (s : Scanner) : Except Fault Scanner :=
  let i := s.input
  let indicates (c : Char) (inFlow : Bool) : Bool :=
    i.sees c && ((inFlow && s.inFlow) || i.blankOrEnd 1)
  let documentMark (text : String) : Bool := i.atDocumentMark && text.toList.isPrefixOf i.rest
  match i.next with
  | none => s.fetchEnd
  | some c =>
    if i.mark.column == 0 && c == '%' then s.fetchDirective
    else if documentMark "---" then s.leaveAll.map (·.pushIndicator .documentStart 3)
    else if documentMark "..." then s.leaveAll.map (·.pushIndicator .documentEnd 3)
    else if c == '[' then s.fetchFlowStart .flowSequenceStart
    else if c == '\x7b' then s.fetchFlowStart .flowMappingStart
    else if c == ']' then s.fetchFlowEnd .flowSequenceEnd
    else if c == '\x7d' then s.fetchFlowEnd .flowMappingEnd
    else if c == ',' then s.fetchFlowEntry
    else if indicates '-' false then s.fetchBlockEntry
    else if indicates '?' true then s.fetchKey
    else if indicates ':' true then s.fetchValue
    else if c == '*' then s.fetchKeyLike (readAnchor true)
    else if c == '&' then s.fetchKeyLike (readAnchor false)
    else if c == '!' then s.fetchKeyLike (readTag s.inFlow)
    else if c == '|' && !s.inFlow then s.fetchBlockScalar true
    else if c == '>' && !s.inFlow then s.fetchBlockScalar false
    else if c == '\x27' then s.fetchKeyLike (readQuotedScalar true)
    else if c == '"' then s.fetchKeyLike (readQuotedScalar false)
    else if s.startsPlain then s.fetchPlain
    else
      i.fail "while scanning for the next token" i.mark "found character that cannot start any token"

/-- Reads the next token and puts it into the queue. -/
def fetch (s : Scanner) : Except Fault Scanner :=
  if !s.started then
    .ok ({ s with started := true, keyAllowed := true, keyPlaces := [{}] }.pushHere .streamStart)
  else
    let s := skipToToken (s.input.rest.length + 1) s
    match s.dropStale with
    | .error f => .error f
    | .ok s => (s.closeBlocks s.mark.column).fetchToken

/-- May the first token of the queue still turn out to be a key? -/
def headUndecided (s : Scanner) : Bool :=
  s.keyPlaces.any fun k => k.possible && k.tokenNumber == s.taken

/-- Reads until the first token of the queue is decided. -/
def fill : Nat → Scanner → Except Fault Scanner
  | 0, s => .ok s
  | fuel + 1, s =>
    if s.queue.isEmpty then
      match s.fetch with
      | .error f => .error f
      | .ok s => fill fuel s
    else
      match s.dropStale with
      | .error f => .error f
      | .ok s =>
        if s.headUndecided then
          match s.fetch with
          | .error f => .error f
          | .ok s => fill fuel s
        else .ok s

/-- The next token, which stays in the queue. -/
def peek (s : Scanner) : Except Fault (Token × Scanner) :=
  match fill (s.input.rest.length + 4) s with
  | .error f => .error f
  | .ok s =>
    match s.queue with
    | t :: _ => .ok (t, s)
    | [] => .ok (⟨.streamEnd, s.mark, s.mark⟩, s)

/-- Takes the next token out of the queue. -/
def take (s : Scanner) : Scanner :=
  { s with queue := s.queue.drop 1, taken := s.taken + 1 }

end Scanner

end CodeSurvey.Yaml
