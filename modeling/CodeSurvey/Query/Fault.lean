/-
  Faults of queries: where they are and what is said about them.
-/
import CodeSurvey.Query.Reader
import CodeSurvey.Text.Basic

namespace CodeSurvey.Query

/-- Why a text is no query of a grammar.  Offsets count octets. -/
inductive Fault where
  | spot (cause : Cause) (offset : Nat)
  /-- A predicate of the pattern that starts at the offset. -/
  | predicate (fault : PredicateFault) (offset : Nat)
deriving DecidableEq

/-- The lines of a text.  A line break is a line feed with or without a carriage return before it,
and a text that ends with one has no further line. -/
def linesOf (text : List Char) : List (List Char) :=
  let pieces := Text.splitAll (· == '\n') text
  let (whole, last) := (pieces.dropLast, pieces.getLast?.getD [])
  let whole := whole.map fun l => (Text.stripEnd? ['\r'] l).getD l
  if last.isEmpty then whole else whole ++ [last]

/-- Looks for the line that holds an offset: its number, the offset where it starts, and the line
itself unless the offset lies behind the last one. -/
def lineAt (offset row start : Nat) : List (List Char) → Nat × Nat × Option (List Char)
  | [] => (row, start, none)
  | line :: lines =>
    let stop := start + Text.byteLength line + 1
    if offset < stop then (row, start, some line) else lineAt offset (row + 1) stop lines

/-- The text up to a quote that is neither escaped nor at the very start. -/
def upToQuote (escaped first : Bool) : List Char → List Char
  | [] => []
  | c :: cs =>
    if c == '"' && !escaped && !first then [] else c :: upToQuote (c == '\\') false cs

/-- The name that starts a text.  A quoted one ends before the closing quote; any other at the
first blank, parenthesis or colon of its line, or with the whole text if the line has none. -/
def faultyName (quoted : Bool) (rest : List Char) : List Char :=
  if quoted then upToQuote false true rest
  else
    let line := rest.takeWhile (· != '\n')
    let ends (c : Char) : Bool := Text.isBlank c || c == '(' || c == ')' || c == ':'
    if line.any ends then line.takeWhile (fun c => !ends c) else rest

/-- What is said about a cause. -/
def Cause.heading : Cause → String
  | .unknownKind => "Invalid node type "
  | .unknownField => "Invalid field name "
  | .unknownCapture => "Invalid capture name "
  | .malformed => "Invalid syntax:\n"

/-- The fault in words, for the query `source`. -/
def Fault.message (source : List Char) : Fault → String
  | .spot cause offset =>
    let (row, start, line) := lineAt offset 0 0 (linesOf source)
    let column := offset - start
    let detail : String :=
      match cause with
      | .malformed =>
        match line with
        | none => "Unexpected EOF"
        | some line => String.ofList line ++ "\n" ++ "".pushn ' ' column ++ "^"
      | _ =>
        let before := (Text.takeBytes? offset source).getD []
        let rest := (Text.dropBytes? offset source).getD []
        String.ofList (faultyName (before.getLast? == some '"') rest)
    "Query error at " ++ toString (row + 1) ++ ":" ++ toString (column + 1) ++ ". "
      ++ cause.heading ++ detail
  | .predicate fault offset =>
    "Query error at " ++ toString (Text.rowAt source offset + 1) ++ ":1. Invalid predicate: "
      ++ fault.message

end CodeSurvey.Query
