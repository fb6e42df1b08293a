/-
  What a piece of source text declares, found by pattern and not by parsing: its name and the number
  of its parameters.

  A text that is an identifier names itself; otherwise each family of languages has its own patterns,
  looked for in the text before the first opening brace (in Python: in the whole text).  Parameters
  are the entries of the first parenthesized list.  Only parentheses nest: a comma inside angle
  brackets or a string separates as well.
-/
import CodeSurvey.Regex.Basic
import CodeSurvey.Text.Basic

namespace CodeSurvey.Filter

/-! ## §1. Names -/

open Regex

/-- Can a character stand in an identifier after the first place? -/
def isNameChar (c : Char) : Bool := Text.isWord c || c == '$'

/-- Identifiers start with an ASCII letter, an underscore or a dollar sign. -/
def isIdentifier : List Char → Bool
  | [] => false
  | c :: cs => (c.isAlpha || c == '_' || c == '$') && cs.all isNameChar

/-- The text before the first opening brace. -/
def header (text : List Char) : List Char :=
  text.takeWhile (· != '\x7b')

/-- A marked run of word characters. -/
def markedWord : Regex := .mark (many1 (.one Text.isWord))

/-- A marked run of name characters. -/
def markedName : Regex := .mark (many1 (.one isNameChar))

/-- `def` or `class` at the start of a line, and the word after it. -/
def pythonName : Regex :=
  seq [lineStart, blanks, opt (seq [text "async", blanks1]), texts ["def", "class"], blanks1,
    markedWord]

/-- Functions, types, bindings, and last methods, of the scripting languages. -/
def scriptNames : List Regex :=
  [seq [boundary, text "function", blanks, opt (char '*'), blanks, markedName],
   seq [boundary, texts ["class", "interface", "enum", "type"], blanks1, markedName],
   seq [boundary, texts ["const", "let", "var"], blanks1, markedName],
   seq [start, blanks,
     many (seq [texts ["async", "static", "get", "set", "public", "private", "protected",
       "readonly"], blanks1]),
     opt (char '*'), blanks, markedName, blanks, .one fun c => c == '(' || c == '<']]

/-- Functions with or without a receiver, types, and type specifications of Go. -/
def goNames : List Regex :=
  [seq [boundary, text "func", blanks,
     opt (seq [char '(', many (.one (· != ')')), char ')', blanks]), markedWord],
   seq [boundary, text "type", blanks1, markedWord],
   seq [start, blanks, markedWord, blanks1, texts ["struct", "interface"], boundary]]

/-- Functions, types and modules, implementations, and constants of Rust. -/
def rustNames : List Regex :=
  [seq [boundary, text "fn", blanks1, markedWord],
   seq [boundary, texts ["struct", "enum", "trait", "union", "mod", "type"], blanks1, markedWord],
   seq [boundary, text "impl", opt (seq [char '<', many (.one (· != '>')), char '>']), blanks1,
     opt (seq [many1 (.one fun c => Text.isWord c || c == ':'), blanks1, text "for", blanks1]),
     markedWord],
   seq [boundary, texts ["const", "static"], blanks1, opt (seq [text "mut", blanks1]), markedWord]]

/-- Types of the languages with braces. -/
def typeName : Regex :=
  seq [boundary, texts ["class", "interface", "enum", "record", "struct", "namespace"], blanks1,
    markedWord]

/-- A word before an opening parenthesis. -/
def callableName : Regex := seq [markedWord, blanks, char '(']

/-- Words before a parenthesis that name nothing. -/
def keywords : List String :=
  ["if", "for", "while", "switch", "catch", "return", "new", "synchronized", "sizeof", "throw"]

/-- The first pattern that is found decides. -/
def firstFound (patterns : List Regex) (text : List Char) : Option (List Char) :=
  patterns.findSome? (·.find text)

/-- The name that `text` declares in `language`. -/
def nameOf (language : String) (text : List Char) : Option (List Char) :=
  let text := Text.trim text
  if isIdentifier text then some text
  else
    match language with
    | "python" => pythonName.find text
    | "javascript" | "typescript" | "tsx" => firstFound scriptNames (header text)
    | "go" => firstFound goNames (header text)
    | "rust" => firstFound rustNames (header text)
    | _ =>
      match typeName.find (header text) with
      | some name => some name
      | none =>
        (callableName.findAll (header text)).find? fun name =>
          !keywords.contains (String.ofList name)

/-- The name that a text declares in `language`. -/
def declaredName (text language : String) : Option String :=
  (nameOf language text.toList).map String.ofList

/-! ## §2. Parameters -/

/-- The entries of a list, inside `depth` further parentheses, `entry` being what has been read of
the present one, latest character first.  A list that is never closed ends with the text. -/
def entriesFrom : Nat → List Char → List Char → List (List Char)
  | _, entry, [] => [entry.reverse]
  | depth, entry, c :: cs =>
    if c = '(' then entriesFrom (depth + 1) (c :: entry) cs
    else if c = ')' then
      match depth with
      | 0 => [entry.reverse]
      | depth + 1 => entriesFrom depth (c :: entry) cs
    else if c = ',' && depth == 0 then entry.reverse :: entriesFrom 0 [] cs
    else entriesFrom depth (c :: entry) cs

/-- The entries of the first parenthesized list. -/
def entries (text : List Char) : List (List Char) :=
  match text.dropWhile (· != '(') with
  | [] => []
  | _ :: rest => entriesFrom 0 [] rest

/-- The number of entries that are not blank. -/
def countParameters (text : List Char) : Nat :=
  ((entries text).filter fun e => !Text.allBlank e).length

end CodeSurvey.Filter
