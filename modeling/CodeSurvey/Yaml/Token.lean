/-
  Tokens of a YAML text, and how the longer ones are read: directives, anchors, tags and the five
  styles of scalars.
-/
import CodeSurvey.Text.Basic
import CodeSurvey.Yaml.Position

namespace CodeSurvey.Yaml

/-! ## §1. Tokens -/

/-- The ways to write a scalar. -/
inductive Style where
  | plain
  | singleQuoted
  | doubleQuoted
  | literal
  | folded
deriving DecidableEq

/-- The kinds of tokens. -/
inductive TokenKind where
  | streamStart
  | streamEnd
  | version (major minor : Nat)
  | tagHandle (handle expansion : String)
  | documentStart
  | documentEnd
  | blockSequenceStart
  | blockMappingStart
  | blockEnd
  | flowSequenceStart
  | flowSequenceEnd
  | flowMappingStart
  | flowMappingEnd
  | blockEntry
  | flowEntry
  | key
  | value
  | reference (name : String)
  | anchor (name : String)
  | tag (handle rest : String)
  | scalar (text : String) (style : Style)
deriving DecidableEq

/-- A token and its extent. -/
structure Token where
  kind : TokenKind
  start : Mark
  stop : Mark

/-- A reader gives a token and what is left behind it. -/
abbrev Reading := Except Fault (Token × Input)

/-! ## §2. Anchors and tags -/

/-- Characters that may follow an anchor without a blank. -/
def endsAnchor (c : Char) : Bool := "?:,]\x7d%@\x60".toList.contains c

/-- Reads an anchor or an alias. -/
def readAnchor (isAlias : Bool) (i : Input) : Reading :=
  let start := i.mark
  let (name, i) := i.skip.takeWhile isAlpha
  if name.isEmpty || !(i.blankOrEnd 0 || i.next.any endsAnchor) then
    i.fail (if isAlias then "while scanning an alias" else "while scanning an anchor") start
      "did not find expected alphabetic or numeric character"
  else
    let name := String.ofList name
    .ok (⟨if isAlias then .reference name else .anchor name, start, i.mark⟩, i)

/-- Reads a tag handle: an exclamation mark, a word, and perhaps another exclamation mark. -/
def readHandle (directive : Bool) (start : Mark) (i : Input) : Except Fault (List Char × Input) :=
  if !i.sees '!' then
    i.fail (if directive then "while scanning a tag directive" else "while scanning a tag") start
      "did not find expected '!'"
  else
    let (word, i) := i.skip.takeWhile isAlpha
    if i.sees '!' then .ok ('!' :: word ++ ['!'], i.skip)
    else if directive && !word.isEmpty then
      i.fail "while parsing a tag directive" start "did not find expected '!'"
    else .ok ('!' :: word, i)

/-- Characters of a tag's address. -/
def isAddressChar (verbatim : Bool) (c : Char) : Bool :=
  isAlpha c || ";/?:@&=+$.%!~*\x27()".toList.contains c || (verbatim && ",[]".toList.contains c)

/-- The value of a hexadecimal digit. -/
def hexDigit? (c : Char) : Option Nat :=
  if c.isDigit then some (c.toNat - 48)
  else if 'a' ≤ c && c ≤ 'f' then some (c.toNat - 87)
  else if 'A' ≤ c && c ≤ 'F' then some (c.toNat - 55)
  else none

/-- Reads octets written as `%` and two digits, as many as one character has. -/
def readEscapedOctets (what : String) (start : Mark) :
    Nat → List UInt8 → Option Nat → Input → Except Fault (List UInt8 × Input)
  | 0, acc, _, i => .ok (acc, i)
  | fuel + 1, acc, missing, i =>
    match i.rest with
    | '%' :: a :: b :: _ =>
      match hexDigit? a, hexDigit? b with
      | some x, some y =>
        let octet := x * 16 + y
        match missing with
        | none =>
          let width := if octet < 0x80 then 1 else if octet / 32 == 6 then 2
            else if octet / 16 == 14 then 3 else if octet / 8 == 30 then 4 else 0
          if width == 0 then i.fail what start "found an incorrect leading UTF-8 octet"
          else if width == 1 then .ok (acc ++ [UInt8.ofNat octet], i.drop 3)
          else readEscapedOctets what start fuel (acc ++ [UInt8.ofNat octet]) (some (width - 1)) (i.drop 3)
        | some n =>
          if octet / 64 != 2 then i.fail what start "found an incorrect trailing UTF-8 octet"
          else if n ≤ 1 then .ok (acc ++ [UInt8.ofNat octet], i.drop 3)
          else readEscapedOctets what start fuel (acc ++ [UInt8.ofNat octet]) (some (n - 1)) (i.drop 3)
      | _, _ => i.fail what start "did not find URI escaped octet"
    | _ => i.fail what start "did not find URI escaped octet"

/-- Reads the characters of an address. -/
def readAddressChars (verbatim directive : Bool) (start : Mark) :
    Nat → List UInt8 → Input → Except Fault (List UInt8 × Input)
  | 0, acc, i => .ok (acc, i)
  | fuel + 1, acc, i =>
    match i.next with
    | none => .ok (acc, i)
    | some c =>
      if !isAddressChar verbatim c then .ok (acc, i)
      else if c == '%' then
        match readEscapedOctets
            (if directive then "while parsing a %TAG directive" else "while parsing a tag") start 5 []
            none i with
        | .error f => .error f
        | .ok (octets, i) => readAddressChars verbatim directive start fuel (acc ++ octets) i
      else readAddressChars verbatim directive start fuel (acc ++ String.utf8EncodeChar c) i.skip

/-- Reads a tag's address behind a head that has been read already. -/
def readAddress (verbatim directive : Bool) (head : List Char) (start : Mark) (i : Input) :
    Except Fault (String × Input) :=
  match readAddressChars verbatim directive start (i.rest.length + 1) [] i with
  | .error f => .error f
  | .ok (octets, j) =>
    if head.isEmpty && octets.isEmpty then
      j.fail (if directive then "while parsing a %TAG directive" else "while parsing a tag") start
        "did not find expected tag URI"
    else .ok (String.ofList (head.drop 1) ++ Text.decodeLossy octets, j)

/-- Checks what ends a tag. -/
def endTag (inFlow : Bool) (start : Mark) (handle rest : String) (i : Input) : Reading :=
  if i.blankOrEnd 0 || (inFlow && i.sees ',') then .ok (⟨.tag handle rest, start, i.mark⟩, i)
  else i.fail "while scanning a tag" start "did not find expected whitespace or line break"

/-- Reads a tag. -/
def readTag (inFlow : Bool) (i : Input) : Reading :=
  let start := i.mark
  if i.at? 1 == some '<' then
    match readAddress true false [] start (i.drop 2) with
    | .error f => .error f
    | .ok (rest, i) =>
      if i.sees '>' then endTag inFlow start "" rest i.skip
      else i.fail "while scanning a tag" start "did not find the expected '>'"
  else
    match readHandle false start i with
    | .error f => .error f
    | .ok (handle, i) =>
      if handle.length > 1 && handle.getLast? == some '!' then
        match readAddress false false [] start i with
        | .error f => .error f
        | .ok (rest, i) => endTag inFlow start (String.ofList handle) rest i
      else
        match readAddress false false handle start i with
        | .error f => .error f
        | .ok (rest, i) =>
          if rest.isEmpty then endTag inFlow start "" "!" i else endTag inFlow start "!" rest i

/-! ## §3. Directives -/

/-- Reads one number of a version. -/
def readVersionNumber (start : Mark) (i : Input) : Except Fault (Nat × Input) :=
  let (digits, j) := i.takeWhile Char.isDigit
  if digits.length > 9 then
    (i.drop 9).fail "while scanning a %YAML directive" start "found extremely long version number"
  else if digits.isEmpty then
    i.fail "while scanning a %YAML directive" start "did not find expected version number"
  else .ok (digits.foldl (fun n c => n * 10 + (c.toNat - 48)) 0, j)

/-- Reads the version that a directive gives. -/
def readVersion (start : Mark) (i : Input) : Except Fault (TokenKind × Input) :=
  match readVersionNumber start (i.skipWhile isSpace) with
  | .error f => .error f
  | .ok (major, i) =>
    if !i.sees '.' then
      i.fail "while scanning a %YAML directive" start "did not find expected digit or '.' character"
    else
      match readVersionNumber start i.skip with
      | .error f => .error f
      | .ok (minor, i) => .ok (.version major minor, i)

/-- Reads the handle that a directive explains. -/
def readTagDirective (start : Mark) (i : Input) : Except Fault (TokenKind × Input) :=
  match readHandle true start (i.skipWhile isSpace) with
  | .error f => .error f
  | .ok (handle, i) =>
    if !i.next.any isSpace then
      i.fail "while scanning a %TAG directive" start "did not find expected whitespace"
    else
      match readAddress true true [] start (i.skipWhile isSpace) with
      | .error f => .error f
      | .ok (expansion, i) =>
        if i.blankOrEnd 0 then .ok (.tagHandle (String.ofList handle) expansion, i)
        else
          i.fail "while scanning a %TAG directive" start
            "did not find expected whitespace or line break"

/-- Reads a directive and the rest of its line. -/
def readDirective (i : Input) : Reading :=
  let start := i.mark
  let what := "while scanning a directive"
  let (name, j) := i.skip.takeWhile isAlpha
  if name.isEmpty then j.fail what start "could not find expected directive name"
  else if !j.blankOrEnd 0 then j.fail what start "found unexpected non-alphabetical character"
  else
    let found :=
      match String.ofList name with
      | "YAML" => readVersion start j
      | "TAG" => readTagDirective start j
      | _ => j.fail what start "found unknown directive name"
    match found with
    | .error f => .error f
    | .ok (kind, j) =>
      let stop := j.mark
      let j := j.skipComment
      if j.breakOrEnd 0 then .ok (⟨kind, start, stop⟩, j.skipBreak)
      else j.fail what start "did not find expected comment or line break"

/-! ## §4. Folding -/

/-- What stands between two words of a scalar: blanks, or line breaks. -/
structure Gap where
  spaces : List Char := []
  /-- Has a line ended? -/
  broken : Bool := false
  firstBreak : List Char := []
  furtherBreaks : List Char := []

/-- The text that stands for a gap.  A single break becomes a space, several lose the first. -/
def Gap.text (g : Gap) : List Char :=
  if g.broken then
    if g.firstBreak.head? == some '\n' then
      if g.furtherBreaks.isEmpty then [' '] else g.furtherBreaks
    else g.firstBreak ++ g.furtherBreaks
  else g.spaces

/-- Adds a line break to a gap. -/
def Gap.addBreak (g : Gap) (c : Char) : Gap :=
  if g.broken then { g with furtherBreaks := g.furtherBreaks ++ [c] }
  else { g with spaces := [], broken := true, firstBreak := [c] }

/-- Reads a gap.  `refusesTab` says at which columns a tab may not stand after a break. -/
def readGap (refusesTab : Nat → Bool) (start : Mark) :
    Nat → Gap → Input → Except Fault (Gap × Input)
  | 0, g, i => .ok (g, i)
  | fuel + 1, g, i =>
    match i.next with
    | none => .ok (g, i)
    | some c =>
      if isSpace c then
        if g.broken && c == '\t' && refusesTab i.mark.column then
          i.fail "while scanning a plain scalar" start
            "found a tab character that violates indentation"
        else
          readGap refusesTab start fuel
            (if g.broken then g else { g with spaces := g.spaces ++ [c] }) i.skip
      else
        match i.readBreak with
        | some (c, i) => readGap refusesTab start fuel (g.addBreak c) i
        | none => .ok (g, i)

/-! ## §5. Plain scalars -/

/-- Reads a word of a plain scalar. -/
def readPlainWord (inFlow : Bool) (start : Mark) :
    Nat → List Char → Input → Except Fault (List Char × Input)
  | 0, acc, i => .ok (acc, i)
  | fuel + 1, acc, i =>
    match i.next with
    | none => .ok (acc, i)
    | some c =>
      if isSpace c || isBreak c then .ok (acc, i)
      else if inFlow && c == ':' && (i.at? 1).any (fun d => ",?[]\x7b\x7d".toList.contains d) then
        i.fail "while scanning a plain scalar" start "found unexpected ':'"
      else if (c == ':' && i.blankOrEnd 1) || (inFlow && ",[]\x7b\x7d".toList.contains c) then .ok (acc, i)
      else readPlainWord inFlow start fuel (acc ++ [c]) i.skip

/-- A plain scalar so far: its text, its end, and the gap that follows it. -/
structure PlainScalar where
  text : List Char := []
  stop : Mark
  gap : Gap := {}

/-- Reads the words of a plain scalar.  Outside of flow collections it ends where a line is not
indented enough. -/
def readPlainWords (inFlow : Bool) (indent : Int) (start : Mark) :
    Nat → PlainScalar → Input → Except Fault (PlainScalar × Input)
  | 0, s, i => .ok (s, i)
  | fuel + 1, s, i =>
    if i.atDocumentMark || i.sees '#' then .ok (s, i)
    else
      match readPlainWord inFlow start (i.rest.length + 1) [] i with
      | .error f => .error f
      | .ok (word, j) =>
        let s := if word.isEmpty then s else { text := s.text ++ s.gap.text ++ word, stop := j.mark }
        if !(j.next.any fun c => isSpace c || isBreak c) then .ok (s, j)
        else
          match readGap (fun column => (column : Int) < indent) start (j.rest.length + 1) s.gap j with
          | .error f => .error f
          | .ok (gap, k) =>
            let s := { s with gap := gap }
            if !inFlow && (k.mark.column : Int) < indent then .ok (s, k)
            else readPlainWords inFlow indent start fuel s k

/-- Reads a plain scalar; also says whether a line has ended behind it. -/
def readPlain (inFlow : Bool) (indent : Int) (i : Input) : Except Fault (Token × Bool × Input) :=
  let start := i.mark
  match readPlainWords inFlow indent start (i.rest.length + 1) { stop := start } i with
  | .error f => .error f
  | .ok (s, i) =>
    .ok (⟨.scalar (String.ofList s.text) .plain, start, s.stop⟩, s.gap.broken, i)

/-! ## §6. Quoted scalars -/

/-- What an escape of one character stands for. -/
def escapedChar? (c : Char) : Option Char :=
  match c with
  | '0' => some '\x00'
  | 'a' => some '\x07'
  | 'b' => some '\x08'
  | 't' => some '\t'
  | '\t' => some '\t'
  | 'n' => some '\n'
  | 'v' => some '\x0b'
  | 'f' => some '\x0c'
  | 'r' => some '\r'
  | 'e' => some '\x1b'
  | ' ' => some ' '
  | '"' => some '"'
  | '/' => some '/'
  | '\\' => some '\\'
  | 'N' => some (Char.ofNat 0x85)
  | '_' => some (Char.ofNat 0xa0)
  | 'L' => some (Char.ofNat 0x2028)
  | 'P' => some (Char.ofNat 0x2029)
  | _ => none

/-- How many digits an escaped code point has. -/
def escapeWidth? (c : Char) : Option Nat :=
  match c with
  | 'x' => some 2
  | 'u' => some 4
  | 'U' => some 8
  | _ => none

/-- Reads an escape. -/
def readEscape (start : Mark) (i : Input) : Except Fault (Char × Input) :=
  let what := "while parsing a quoted scalar"
  match i.at? 1 with
  | none => i.fail what start "found unknown escape character"
  | some c =>
    match escapedChar? c, escapeWidth? c with
    | some d, _ => .ok (d, i.drop 2)
    | none, some width =>
      let i := i.drop 2
      let digits := (i.rest.take width).filterMap hexDigit?
      if digits.length < width then i.fail what start "did not find expected hexdecimal number"
      else
        let n := digits.foldl (fun n d => n * 16 + d) 0
        if n.isValidChar then .ok (Char.ofNat n, i.drop width)
        else i.fail what start "found invalid Unicode character escape code"
    | none, none => i.fail what start "found unknown escape character"

/-- Reads a word of a quoted scalar; also says whether it ends with an escaped line break. -/
def readQuotedWord (single : Bool) (start : Mark) :
    Nat → List Char → Input → Except Fault (List Char × Bool × Input)
  | 0, acc, i => .ok (acc, false, i)
  | fuel + 1, acc, i =>
    match i.next with
    | none => .ok (acc, false, i)
    | some c =>
      if isSpace c || isBreak c then .ok (acc, false, i)
      else if single then
        if c == '\x27' then
          if i.at? 1 == some '\x27' then readQuotedWord single start fuel (acc ++ [c]) (i.drop 2)
          else .ok (acc, false, i)
        else readQuotedWord single start fuel (acc ++ [c]) i.skip
      else if c == '"' then .ok (acc, false, i)
      else if c == '\\' then
        if (i.at? 1).any isBreak then .ok (acc, true, i.skip.skipBreak)
        else
          match readEscape start i with
          | .error f => .error f
          | .ok (d, i) => readQuotedWord single start fuel (acc ++ [d]) i
      else readQuotedWord single start fuel (acc ++ [c]) i.skip

/-- Reads the words of a quoted scalar up to the closing quote. -/
def readQuotedWords (single : Bool) (start : Mark) :
    Nat → List Char → Input → Except Fault (List Char × Input)
  | 0, acc, i => .ok (acc, i)
  | fuel + 1, acc, i =>
    let what := "while scanning a quoted scalar"
    if i.atDocumentMark then i.fail what start "found unexpected document indicator"
    else if i.next.isNone then i.fail what start "found unexpected end of stream"
    else
      match readQuotedWord single start (i.rest.length + 1) [] i with
      | .error f => .error f
      | .ok (word, broken, i) =>
        if i.sees (if single then '\x27' else '"') then .ok (acc ++ word, i.skip)
        else
          match readGap (fun _ => false) start (i.rest.length + 1) { broken := broken } i with
          | .error f => .error f
          | .ok (gap, i) => readQuotedWords single start fuel (acc ++ word ++ gap.text) i

/-- Reads a quoted scalar. -/
def readQuotedScalar (single : Bool) (i : Input) : Reading :=
  let start := i.mark
  match readQuotedWords single start (i.rest.length + 1) [] i.skip with
  | .error f => .error f
  | .ok (text, i) =>
    .ok (⟨.scalar (String.ofList text) (if single then .singleQuoted else .doubleQuoted), start,
      i.mark⟩, i)

/-! ## §7. Block scalars -/

/-- What happens to the line breaks at the end of a block scalar. -/
inductive Chomping where
  | strip
  | clip
  | keep
deriving DecidableEq

/-- The chomping that a sign asks for. -/
def chompingOf? : Option Char → Option Chomping
  | some '+' => some .keep
  | some '-' => some .strip
  | _ => none

/-- Reads the signs behind the indicator of a block scalar: chomping and further indentation, in
either order. -/
def readBlockSigns (start : Mark) (i : Input) : Except Fault (Chomping × Nat × Input) :=
  let digit (i : Input) : Except Fault (Nat × Input) :=
    match i.next with
    | some c =>
      if c == '0' then
        i.fail "while scanning a block scalar" start "found an indentation indicator equal to 0"
      else if c.isDigit then .ok (c.toNat - 48, i.skip)
      else .ok (0, i)
    | none => .ok (0, i)
  match chompingOf? i.next with
  | some chomping => (digit i.skip).map fun (n, i) => (chomping, n, i)
  | none =>
    match digit i with
    | .error f => .error f
    | .ok (0, i) => .ok (.clip, 0, i)
    | .ok (n, i) =>
      match chompingOf? i.next with
      | some chomping => .ok (chomping, n, i.skip)
      | none => .ok (.clip, n, i)

/-- Reads indentation and empty lines in front of a line of a block scalar.  An `indent` of zero is
not known yet.  Gives the breaks, the widest indentation and the end of the last break. -/
def readBlockBreaks (indent : Nat) (start : Mark) :
    Nat → List Char → Nat → Mark → Input → Except Fault (List Char × Nat × Mark × Input)
  | 0, breaks, widest, stop, i => .ok (breaks, widest, stop, i)
  | fuel + 1, breaks, widest, stop, i =>
    let spaces := (i.rest.takeWhile (· == ' ')).length
    let i := i.drop (if indent == 0 then spaces else min spaces (indent - i.mark.column))
    let widest := max widest i.mark.column
    if (indent == 0 || i.mark.column < indent) && i.sees '\t' then
      i.fail "while scanning a block scalar" start
        "found a tab character where an indentation space is expected"
    else
      match i.readBreak with
      | some (c, i) => readBlockBreaks indent start fuel (breaks ++ [c]) widest i.mark i
      | none => .ok (breaks, widest, stop, i)

/-- A block scalar so far. -/
structure BlockScalar where
  text : List Char := []
  /-- The break at the end of the latest line. -/
  lineBreak : List Char := []
  /-- The empty lines after it. -/
  emptyLines : List Char := []
  /-- Does the latest line start with a blank? -/
  startsBlank : Bool := false
  stop : Mark

/-- Reads the lines of a block scalar. -/
def readBlockLines (folds : Bool) (indent : Nat) (start : Mark) :
    Nat → BlockScalar → Input → Except Fault (BlockScalar × Input)
  | 0, s, i => .ok (s, i)
  | fuel + 1, s, i =>
    if i.mark.column != indent || i.next.isNone then .ok (s, i)
    else
      let blank := i.next.any isSpace
      let joint :=
        if folds && s.lineBreak.head? == some '\n' && !s.startsBlank && !blank then
          if s.emptyLines.isEmpty then [' '] else []
        else s.lineBreak
      let (line, j) := i.takeWhile fun c => !isBreak c
      let (lineBreak, j) := match j.readBreak with
        | some (c, j) => ([c], j)
        | none => ([], j)
      match readBlockBreaks indent start (j.rest.length + 1) [] 0 j.mark j with
      | .error f => .error f
      | .ok (emptyLines, _, stop, k) =>
        readBlockLines folds indent start fuel
          { text := s.text ++ joint ++ s.emptyLines ++ line, lineBreak := lineBreak,
            emptyLines := emptyLines, startsBlank := blank, stop := stop } k

/-- Reads a block scalar inside a collection indented by `outer`. -/
def readBlockScalar (literal : Bool) (outer : Int) (i : Input) : Reading :=
  let start := i.mark
  match readBlockSigns start i.skip with
  | .error f => .error f
  | .ok (chomping, increment, i) =>
    let i := i.skipComment
    if !i.breakOrEnd 0 then
      i.fail "while scanning a block scalar" start "did not find expected comment or line break"
    else
      let i := i.skipBreak
      let given := if increment == 0 then 0 else outer.toNat + increment
      match readBlockBreaks given start (i.rest.length + 1) [] 0 i.mark i with
      | .error f => .error f
      | .ok (breaks, widest, stop, i) =>
        let indent := if given == 0 then max (max widest (outer + 1).toNat) 1 else given
        match readBlockLines (!literal) indent start (i.rest.length + 1)
            { emptyLines := breaks, stop := stop } i with
        | .error f => .error f
        | .ok (s, i) =>
          let tail := match chomping with
            | .strip => []
            | .clip => s.lineBreak
            | .keep => s.lineBreak ++ s.emptyLines
          .ok (⟨.scalar (String.ofList (s.text ++ tail)) (if literal then .literal else .folded),
            start, s.stop⟩, i)

end CodeSurvey.Yaml
