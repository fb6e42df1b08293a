/-
  Reading queries.  Faults are found from left to right; a field name is looked up only after the
  pattern behind its colon has been read, and predicates are checked once the whole query has the
  right form.

  A query is made of nodes, tokens, groups, choices, fields, absent fields, anchors, optional parts,
  captures and predicates.  Left out of the language are the repetitions `+` and `*` behind a pattern
  and kinds that only stand for a family of kinds; texts with these are refused.
-/
import CodeSurvey.Query.Predicate
import CodeSurvey.Syntax.Grammar.Basic

namespace CodeSurvey.Query

open Syntax

/-! ## §1. Characters -/

/-- Drops blanks and comments, which run from a semicolon to the end of the line. -/
def skipBlanks (inComment : Bool) : List Char → List Char
  | [] => []
  | c :: cs =>
    if inComment then skipBlanks (c != '\n') cs
    else if Text.isAsciiBlank c then skipBlanks false cs
    else if c == ';' then skipBlanks true cs
    else c :: cs

/-- Can a name start here? -/
def isNameStart (c : Char) : Bool := c.isAlphanum || c == '_' || c == '-'

/-- Can a name go on here? -/
def isNamePart (c : Char) : Bool := isNameStart c || c == '.' || c == '?' || c == '!'

/-- Reads a name. -/
def readWord (cs : List Char) : Option (String × List Char) :=
  match cs with
  | [] => none
  | c :: rest =>
    if isNameStart c then
      let (more, rest) := rest.span isNamePart
      some (String.ofList (c :: more), rest)
    else none

/-- What an escaped character stands for inside quotes. -/
def unescape : Char → Char
  | 'n' => '\n'
  | 'r' => '\r'
  | 't' => '\t'
  | '0' => '\x00'
  | c => c

/-- Reads the rest of a quoted text, up to and with the closing quote. -/
def readQuoted (escaped : Bool) (acc : List Char) : List Char → Option (String × List Char)
  | [] => none
  | c :: cs =>
    if escaped then readQuoted false (unescape c :: acc) cs
    else if c == '\\' then readQuoted true acc cs
    else if c == '"' then some (String.ofList acc.reverse, cs)
    else if c == '\n' then none
    else readQuoted false (c :: acc) cs

/-! ## §2. Faults -/

/-- What is wrong at a place of a query. -/
inductive Cause where
  | unknownKind
  | unknownField
  | unknownCapture
  | malformed
deriving DecidableEq

/-- Reading stops at a place: what is left of the query there. -/
structure Halt where
  cause : Cause
  rest : List Char

/-- Stops because the text has not the right form. -/
def malformed (rest : List Char) : Except Halt α := .error ⟨.malformed, rest⟩

/-! ## §3. Patterns -/

/-- The captures named so far and the predicates of the present pattern. -/
structure Notes where
  captures : List String := []
  calls : List PredicateCall := []

/-- What is found where a pattern may stand. -/
inductive Found where
  /-- A closing bracket, which is left standing. -/
  | closing
  /-- A predicate, which is noted down. -/
  | predicate
  | pattern (p : Pattern)

/-- Reads the arguments of a predicate. -/
def readArguments : Nat → Notes → List Argument → List Char →
    Except Halt (List Argument × List Char)
  | 0, _, _, cs => malformed cs
  | fuel + 1, notes, acc, cs =>
    match cs with
    | [] => malformed cs
    | ')' :: rest => .ok (acc.reverse, skipBlanks false rest)
    | '@' :: rest =>
      match readWord rest with
      | none => malformed rest
      | some (name, after) =>
        if notes.captures.contains name then
          readArguments fuel notes (.capture name :: acc) (skipBlanks false after)
        else .error ⟨.unknownCapture, rest⟩
    | '"' :: rest =>
      match readQuoted false [] rest with
      | none => malformed cs
      | some (text, after) => readArguments fuel notes (.literal text :: acc) (skipBlanks false after)
    | cs =>
      match readWord cs with
      | none => malformed cs
      | some (text, after) => readArguments fuel notes (.literal text :: acc) (skipBlanks false after)

/-- Reads a predicate after its opening parenthesis. -/
def readPredicate (fuel : Nat) (notes : Notes) (cs : List Char) :
    Except Halt (Found × Notes × List Char) :=
  match readWord cs with
  | none => malformed cs
  | some (operator, after) =>
    (readArguments fuel notes [] (skipBlanks false after)).map fun (arguments, rest) =>
      (.predicate, { notes with calls := notes.calls ++ [⟨operator, arguments⟩] }, rest)

/-- The test for a kind given by name.  Any beginning of the word for errors names them. -/
def kindTest? (grammar : Grammar) (name : String) : Option Test :=
  if name == "_" then some .anyNamed
  else if name.toList.isPrefixOf "ERROR".toList then some .error
  else if grammar.kinds.contains name then some (.kind name)
  else none

/-- A node without anything said about its children. -/
def leaf (test : Test) : Pattern := .node { test := test } []

/-- Reads captures and question marks behind a pattern. -/
def readSuffixes : Nat → Notes → Pattern → List Char → Except Halt (Found × Notes × List Char)
  | 0, _, _, cs => malformed cs
  | fuel + 1, notes, p, cs =>
    match cs with
    | '?' :: rest => readSuffixes fuel notes (.optional p) (skipBlanks false rest)
    | '@' :: rest =>
      match readWord rest with
      | none => malformed rest
      | some (name, after) =>
        let captures := if notes.captures.contains name then notes.captures
          else notes.captures ++ [name]
        readSuffixes fuel { notes with captures := captures } (p.capturedAs name)
          (skipBlanks false after)
    | cs => .ok (.pattern p, notes, cs)

mutual

/-- Reads what stands where a pattern may stand. -/
def readPattern (grammar : Grammar) : Nat → Notes → List Char →
    Except Halt (Found × Notes × List Char)
  | 0, _, cs => malformed cs
  | fuel + 1, notes, cs =>
    let suffixed (p : Pattern) (notes : Notes) (rest : List Char) :
        Except Halt (Found × Notes × List Char) :=
      readSuffixes fuel notes p (skipBlanks false rest)
    match cs with
    | [] => malformed cs
    | ')' :: _ => .ok (.closing, notes, cs)
    | ']' :: _ => .ok (.closing, notes, cs)
    | '[' :: rest =>
      (readBranches grammar fuel notes [] (skipBlanks false rest)).bind
        fun (branches, notes, rest) => suffixed (.either branches) notes rest
    | '(' :: rest =>
      let inner := skipBlanks false rest
      match inner with
      | '(' :: _ | '"' :: _ | '[' :: _ =>
        (readItems grammar fuel notes [] inner).bind
          fun (items, notes, rest) => suffixed (.group items) notes rest
      | '.' :: rest | '#' :: rest => readPredicate fuel notes rest
      | inner =>
        match readWord inner with
        | none => malformed inner
        | some (name, after) =>
          if name.endsWith "!" || name.endsWith "?" then readPredicate fuel notes inner
          else
            match kindTest? grammar name with
            | none => .error ⟨.unknownKind, inner⟩
            | some test =>
              (readChildren grammar fuel notes [] [] (skipBlanks false after)).bind
                fun (items, absent, notes, rest) =>
                  suffixed (.node { test := test, absent := absent } items) notes rest
    | '_' :: rest => suffixed (leaf .anyNode) notes rest
    | '"' :: rest =>
      match readQuoted false [] rest with
      | none => malformed cs
      | some (text, after) =>
        if grammar.tokens.contains text then suffixed (leaf (.token text)) notes after
        else .error ⟨.unknownKind, rest⟩
    | cs =>
      match readWord cs with
      | none => malformed cs
      | some (name, after) =>
        match skipBlanks false after with
        | ':' :: rest =>
          (readPattern grammar fuel notes (skipBlanks false rest)).bind fun
            | (.closing, _, rest) => malformed rest
            | (found, notes, rest) =>
              if grammar.fields.contains name then
                match found with
                | .pattern p => suffixed (p.inField name) notes rest
                | found => .ok (found, notes, rest)
              else .error ⟨.unknownField, cs⟩
        | _ => malformed cs

/-- Reads the branches of a choice, of which there must be one at least. -/
def readBranches (grammar : Grammar) : Nat → Notes → List Pattern → List Char →
    Except Halt (List Pattern × Notes × List Char)
  | 0, _, _, cs => malformed cs
  | fuel + 1, notes, acc, cs =>
    (readPattern grammar fuel notes cs).bind fun
      | (.closing, notes, rest) =>
        match rest, acc with
        | ']' :: rest, _ :: _ => .ok (acc.reverse, notes, rest)
        | rest, _ => malformed rest
      | (.predicate, notes, rest) => readBranches grammar fuel notes acc rest
      | (.pattern p, notes, rest) => readBranches grammar fuel notes (p :: acc) rest

/-- Reads the items of a group. -/
def readItems (grammar : Grammar) : Nat → Notes → List (Bool × Pattern) → List Char →
    Except Halt (List (Bool × Pattern) × Notes × List Char)
  | 0, _, _, cs => malformed cs
  | fuel + 1, notes, acc, cs =>
    let (anchored, cs) := match cs with
      | '.' :: rest => (true, skipBlanks false rest)
      | cs => (false, cs)
    (readPattern grammar fuel notes cs).bind fun
      | (.closing, notes, rest) =>
        match rest with
        | ')' :: rest => .ok (acc.reverse, notes, rest)
        | rest => malformed rest
      | (.predicate, notes, rest) => readItems grammar fuel notes acc rest
      | (.pattern p, notes, rest) => readItems grammar fuel notes ((anchored, p) :: acc) rest

/-- Reads what a pattern says of the children of a node: items, and fields that must be absent. -/
def readChildren (grammar : Grammar) :
    Nat → Notes → List (Bool × Pattern) → List String → List Char →
      Except Halt (List (Bool × Pattern) × List String × Notes × List Char)
  | 0, _, _, _, cs => malformed cs
  | fuel + 1, notes, acc, absent, cs =>
    match cs with
    | '!' :: rest =>
      let rest := skipBlanks false rest
      match readWord rest with
      | none => malformed rest
      | some (name, after) =>
        if grammar.fields.contains name then
          readChildren grammar fuel notes acc (absent ++ [name]) (skipBlanks false after)
        else .error ⟨.unknownField, rest⟩
    | cs =>
      let (anchored, cs) := match cs with
        | '.' :: rest => (true, skipBlanks false rest)
        | cs => (false, cs)
      (readPattern grammar fuel notes cs).bind fun
        | (.closing, notes, rest) =>
          match rest, anchored, acc with
          | ')' :: rest, false, acc => .ok (acc.reverse, absent, notes, rest)
          | ')' :: _, true, [] => malformed rest
          | ')' :: rest, true, (mark, p) :: acc =>
            .ok (((mark, p.asLast) :: acc).reverse, absent, notes, rest)
          | rest, _, _ => malformed rest
        | (.predicate, notes, rest) => readChildren grammar fuel notes acc absent rest
        | (.pattern p, notes, rest) =>
          readChildren grammar fuel notes ((anchored, p) :: acc) absent rest

end

/-! ## §4. Queries -/

/-- A pattern as read, with its predicates and what was left of the query at its start. -/
structure ReadPattern where
  pattern : Option Pattern
  calls : List PredicateCall
  rest : List Char

/-- Reads pattern after pattern. -/
def readPatterns (grammar : Grammar) : Nat → Nat → List String → List Char →
    Except Halt (List ReadPattern)
  | 0, _, _, cs => malformed cs
  | count + 1, fuel, captures, cs =>
    if cs.isEmpty then .ok []
    else
      (readPattern grammar fuel { captures := captures } cs).bind fun
        | (.closing, _, rest) => malformed rest
        | (found, notes, rest) =>
          let pattern := match found with
            | .pattern p => some p
            | _ => none
          (readPatterns grammar count fuel notes.captures rest).map
            (⟨pattern, notes.calls, cs⟩ :: ·)

end CodeSurvey.Query
