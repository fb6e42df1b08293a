/-
  Positions in a YAML text, and faults at positions.  Lines and columns are counted from zero here
  and from one in messages; a fault at the very start is told without its position.
-/

namespace CodeSurvey.Yaml

/-! ## §1. Marks and faults -/

/-- A position. -/
structure Mark where
  index : Nat := 0
  line : Nat := 0
  column : Nat := 0
deriving DecidableEq

/-- Is this the very start? -/
def Mark.isStart (m : Mark) : Bool := m.line == 0 && m.column == 0

/-- Do two marks have one line and column? -/
def Mark.sameSpot (a b : Mark) : Bool := a.line == b.line && a.column == b.column

/-- A mark in words. -/
def Mark.describe (m : Mark) : String :=
  if m.isStart then "position " ++ toString m.index
  else "line " ++ toString (m.line + 1) ++ " column " ++ toString (m.column + 1)

/-- Why a text is not YAML. -/
structure Fault where
  problem : String
  mark : Mark := {}
  /-- The octet, for a fault of a single character. -/
  offset : Nat := 0
  /-- What was being read, and where it began. -/
  context : Option (String × Mark) := none
deriving DecidableEq

/-- The fault in words. -/
def Fault.message (f : Fault) : String :=
  f.problem
    ++ (if !f.mark.isStart then " at " ++ f.mark.describe
      else if f.offset != 0 then " at position " ++ toString f.offset
      else "")
    ++ (match f.context with
      | none => ""
      | some (what, mark) =>
        ", " ++ what
          ++ (if !mark.isStart && !mark.sameSpot f.mark then " at " ++ mark.describe else ""))

/-! ## §2. Characters -/

/-- Line breaks. -/
def isBreak (c : Char) : Bool :=
  c == '\r' || c == '\n' || c.toNat == 0x85 || c.toNat == 0x2028 || c.toNat == 0x2029

/-- Spaces and tabs. -/
def isSpace (c : Char) : Bool := c == ' ' || c == '\t'

/-- ASCII letters, digits, underscore and hyphen. -/
def isAlpha (c : Char) : Bool := c.isAlphanum || c == '_' || c == '-'

/-- Characters that may stand in a YAML text. -/
def isAllowed (c : Char) : Bool :=
  let n := c.toNat
  n == 0x9 || n == 0xa || n == 0xd || (0x20 ≤ n && n ≤ 0x7e) || n == 0x85
    || (0xa0 ≤ n && n ≤ 0xd7ff) || (0xe000 ≤ n && n ≤ 0xfffd) || (0x10000 ≤ n && n ≤ 0x10ffff)

/-- The octet of the first character that may not stand in a text. -/
def forbiddenAt (offset : Nat) : List Char → Option Nat
  | [] => none
  | c :: cs => if isAllowed c then forbiddenAt (offset + c.utf8Size) cs else some offset

/-! ## §3. Reading -/

/-- What is left of a text, and where it starts. -/
structure Input where
  rest : List Char
  mark : Mark := {}

namespace Input

/-- The next character. -/
def next (i : Input) : Option Char := i.rest.head?

/-- The character `n` places on. -/
def at? (i : Input) (n : Nat) : Option Char := i.rest[n]?

/-- Is this character next? -/
def sees (i : Input) (c : Char) : Bool := i.next == some c

/-- Is a break, or the end, `n` places on? -/
def breakOrEnd (i : Input) (n : Nat) : Bool := (i.at? n).all isBreak

/-- Is a blank, a break, or the end, `n` places on? -/
def blankOrEnd (i : Input) (n : Nat) : Bool := (i.at? n).all fun c => isSpace c || isBreak c

/-- Past some characters of one line. -/
def drop (i : Input) (n : Nat) : Input :=
  { rest := i.rest.drop n,
    mark := { i.mark with index := i.mark.index + n, column := i.mark.column + n } }

/-- Past one character. -/
def skip (i : Input) : Input := i.drop 1

/-- Past the characters of one line that `p` accepts. -/
def skipWhile (i : Input) (p : Char → Bool) : Input :=
  i.drop (i.rest.takeWhile p).length

/-- The characters of one line that `p` accepts, and the input past them. -/
def takeWhile (i : Input) (p : Char → Bool) : List Char × Input :=
  (i.rest.takeWhile p, i.skipWhile p)

/-- Past `n` characters that end a line. -/
def nextLine (i : Input) (n : Nat) : Input :=
  { rest := i.rest.drop n,
    mark := { index := i.mark.index + n, line := i.mark.line + 1, column := 0 } }

/-- The line break that comes next, as it is kept in a text, and the input past it. -/
def readBreak (i : Input) : Option (Char × Input) :=
  match i.rest with
  | '\r' :: '\n' :: _ => some ('\n', i.nextLine 2)
  | c :: _ =>
    if !isBreak c then none
    else some (if c.toNat == 0x2028 || c.toNat == 0x2029 then c else '\n', i.nextLine 1)
  | [] => none

/-- Past the line break that comes next, if one does. -/
def skipBreak (i : Input) : Input :=
  match i.readBreak with
  | some (_, i) => i
  | none => i

/-- Past blanks and a comment, up to the end of the line. -/
def skipComment (i : Input) : Input :=
  let i := i.skipWhile isSpace
  if i.sees '#' then i.skipWhile fun c => !isBreak c else i

/-- Does a line start here with a mark between documents? -/
def atDocumentMark (i : Input) : Bool :=
  i.mark.column == 0 &&
    (['-', '-', '-'].isPrefixOf i.rest || ['.', '.', '.'].isPrefixOf i.rest) && i.blankOrEnd 3

/-- A fault here, in the middle of something that began elsewhere. -/
def fail (i : Input) (what : String) (start : Mark) (problem : String) : Except Fault α :=
  .error { problem := problem, mark := i.mark, context := some (what, start) }

end Input

end CodeSurvey.Yaml
