/-
  JSON values as they are written: members keep their order, numbers are whole or given by their
  digits.  There are two layouts, one on a single line and one with an entry per line.
-/

namespace CodeSurvey

/-- A value to be written. -/
inductive Json where
  | null
  | bool (b : Bool)
  | nat (n : Nat)
  /-- A number with the digits given. -/
  | decimal (digits : String)
  | str (s : String)
  | arr (items : List Json)
  | obj (members : List (String × Json))

namespace Json

/-- A value, or null. -/
def ofOption (f : α → Json) : Option α → Json
  | none => .null
  | some a => f a

/-- A text, or null. -/
def text? (s : Option String) : Json := ofOption .str s

/-- A list of texts. -/
def texts (ss : List String) : Json := .arr (ss.map .str)

/-- A character inside a JSON string: short escapes, then numbered ones for the other control
characters, everything else as it is. -/
def escapeChar (c : Char) : List Char :=
  match c with
  | '"' => ['\\', '"']
  | '\\' => ['\\', '\\']
  | '\n' => ['\\', 'n']
  | '\r' => ['\\', 'r']
  | '\t' => ['\\', 't']
  | '\x08' => ['\\', 'b']
  | '\x0c' => ['\\', 'f']
  | c =>
    if c.toNat < 0x20 then
      ['\\', 'u', '0', '0', Nat.digitChar (c.toNat / 16), Nat.digitChar (c.toNat % 16)]
    else [c]

/-- A string between quotes. -/
def quote (s : String) : String :=
  String.ofList (['"'] ++ s.toList.flatMap escapeChar ++ ['"'])

/-- Values without parts. -/
def scalarText : Json → String
  | .null => "null"
  | .bool b => if b then "true" else "false"
  | .nat n => toString n
  | .decimal digits => digits
  | .str s => quote s
  | .arr _ => "[]"
  | .obj _ => "\x7b\x7d"

mutual

/-- The value on one line. -/
def compact : Json → String
  | .arr items => "[" ++ ",".intercalate (compactItems items) ++ "]"
  | .obj members => "\x7b" ++ ",".intercalate (compactMembers members) ++ "\x7d"
  | v => v.scalarText

/-- The values of a list on one line. -/
def compactItems : List Json → List String
  | [] => []
  | v :: vs => v.compact :: compactItems vs

/-- Members on one line. -/
def compactMembers : List (String × Json) → List String
  | [] => []
  | (k, v) :: ms => (quote k ++ ":" ++ v.compact) :: compactMembers ms

end

/-- The spaces in front of an entry at a given depth. -/
def indent (depth : Nat) : String :=
  "".pushn ' ' (2 * depth)

/-- Entries between brackets, one per line. -/
def block (depth : Nat) (opening closing : String) (entries : List String) : String :=
  if entries.isEmpty then opening ++ closing
  else
    opening ++ "\n" ++ indent (depth + 1) ++ (",\n" ++ indent (depth + 1)).intercalate entries
      ++ "\n" ++ indent depth ++ closing

mutual

/-- The value with an entry per line, at a given depth. -/
def prettyAt (depth : Nat) : Json → String
  | .arr items => block depth "[" "]" (prettyItems depth items)
  | .obj members => block depth "\x7b" "\x7d" (prettyMembers depth members)
  | v => v.scalarText

/-- The entries of a list inside `depth`. -/
def prettyItems (depth : Nat) : List Json → List String
  | [] => []
  | v :: vs => prettyAt (depth + 1) v :: prettyItems depth vs

/-- Members inside `depth`. -/
def prettyMembers (depth : Nat) : List (String × Json) → List String
  | [] => []
  | (k, v) :: ms => (quote k ++ ": " ++ prettyAt (depth + 1) v) :: prettyMembers depth ms

end

/-- The value with an entry per line. -/
def pretty (v : Json) : String := prettyAt 0 v

end Json

end CodeSurvey
