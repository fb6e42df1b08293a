/-
  Running queries.  A session has a catalog, remembers the queries it has compiled and counts how
  many it ran and how they ended.  A query that fails says so in its outcome and disturbs nothing
  else.

  The text that captures are taken from may be another one than the text of the tree.  If it is too
  short for a condition of the query, then the run breaks off: nothing is returned, and the query is
  not counted (`attemptOn`).  With the text of the tree itself this does not happen, and `runOn` is
  all that is needed.

  Captures are reported with a name, a node's kind and place, and its text.  Lines are counted from
  one and columns from zero, in octets.
-/
import CodeSurvey.Query.Catalog
import CodeSurvey.Query.Compiled
import CodeSurvey.Syntax.Tree

namespace CodeSurvey.Query

open Syntax

/-! ## §1. Captures -/

/-- A captured node. -/
structure Capture where
  name : String
  nodeKind : String
  startLine : Nat
  endLine : Nat
  startColumn : Nat
  endColumn : Nat
  startByte : Nat
  endByte : Nat
  text : String
deriving DecidableEq

/-- The kind of the stand-in for a node whose text cannot be read. -/
def Capture.errorKind : String := "error"

/-- The stand-in for a captured node whose text cannot be read. -/
def Capture.placeholder (name message : String) : Capture :=
  ⟨name, Capture.errorKind, 0, 0, 0, 0, 0, 0, message⟩

/-- What is reported for a node of `tree` captured under `name`, the text being taken from
`source`. -/
def Capture.ofNode (tree : SyntaxTree) (source : List Char) (name : String) (t : Tree) : Capture :=
  match Text.slice? source t.start t.stop with
  | none =>
    Capture.placeholder name
      ("byte range " ++ toString t.start ++ ".." ++ toString t.stop
        ++ " is not addressable in a " ++ toString (Text.byteLength source) ++ "-byte source")
  | some text =>
    { name := name, nodeKind := t.kind,
      startLine := Text.rowAt tree.source t.start + 1,
      endLine := Text.rowAt tree.source t.stop + 1,
      startColumn := Text.columnAt tree.source t.start,
      endColumn := Text.columnAt tree.source t.stop,
      startByte := t.start, endByte := t.stop, text := String.ofList text }

/-! ## §2. Outcomes -/

/-- What came of a query: captures, or an error. -/
structure Outcome where
  name : String
  result : Except String (List Capture)

/-- Did the query run? -/
def Outcome.success (o : Outcome) : Bool := o.result.toOption.isSome

/-- The captures, none if the query did not run. -/
def Outcome.captures (o : Outcome) : List Capture := o.result.toOption.getD []

/-- The error, if the query did not run. -/
def Outcome.error? (o : Outcome) : Option String :=
  match o.result with
  | .ok _ => none
  | .error e => some e

/-- The name reported for a query that has none. -/
def customName : String := "custom"

/-! ## §3. Sessions -/

/-- The state of running queries. -/
structure Session where
  catalog : Catalog
  memo : Memo := []
  /-- The number of queries run. -/
  total : Nat := 0
  successes : Nat := 0
  failures : Nat := 0

namespace Session

/-- The share of queries that succeeded. -/
def successRate (s : Session) : Float :=
  if s.total = 0 then 0.0 else Float.ofNat s.successes / Float.ofNat s.total

/-- Sets the counts to zero. -/
def resetCounts (s : Session) : Session := { s with total := 0, successes := 0, failures := 0 }

/-- Forgets the compiled queries. -/
def forgetCompiled (s : Session) : Session := { s with memo := [] }

/-- What a query runs on: a tree, the grammar it is checked against, and the text that captures are
taken from. -/
structure Target where
  tree : Option SyntaxTree
  dialect : Option Dialect
  source : List Char

/-- Captures of a query text on a tree. -/
def run (s : Session) (tree : SyntaxTree) (dialect : Dialect) (source : List Char)
    (query : String) : Except String (List Capture) × Session :=
  match s.memo.compile dialect query with
  | (.error fault, memo) =>
    (.error ("invalid query for " ++ dialect.language ++ ": " ++ fault.message query.toList),
      { s with memo := memo })
  | (.ok q, memo) =>
    (.ok ((q.captures (Text.octets source) tree.root).map fun (name, spot) =>
        Capture.ofNode tree source name spot.tree),
      { s with memo := memo })

/-- Counts an outcome. -/
def finish (s : Session) (name : String) (result : Except String (List Capture)) :
    Outcome × Session :=
  let s := { s with total := s.total + 1 }
  let s := match result with
    | .ok _ => { s with successes := s.successes + 1 }
    | .error _ => { s with failures := s.failures + 1 }
  (⟨name, result⟩, s)

/-- Runs a query text that is found only when tree and grammar are there. -/
def runOn (s : Session) (target : Target) (name : String) (query : Except String String) :
    Outcome × Session :=
  match target.tree, target.dialect with
  | none, _ => s.finish name (.error "syntax tree is missing")
  | some _, none => s.finish name (.error "language is missing")
  | some tree, some dialect =>
    match query with
    | .error e => s.finish name (.error e)
    | .ok text =>
      let (result, s) := s.run tree dialect target.source text
      s.finish name result

/-- The text of a catalog query. -/
def lookUp (s : Session) (language name : String) : Except String String :=
  match s.catalog.source? language name with
  | some text => .ok text
  | none => .error ("query '" ++ name ++ "' not found for language '" ++ language ++ "'")

/-- Runs the catalog query of `language` called `name`. -/
def runNamedAs (s : Session) (target : Target) (language name : String) : Outcome × Session :=
  s.runOn target name (s.lookUp (Text.normalized language) name)

/-- Runs a catalog query of the grammar's own language. -/
def runNamed (s : Session) (target : Target) (name : String) : Outcome × Session :=
  s.runNamedAs target ((target.dialect.map Dialect.language).getD "") name

/-- Runs a query text. -/
def runText (s : Session) (target : Target) (query : String) : Outcome × Session :=
  s.runOn target customName
    (if Text.allBlank query.toList then .error "query string is empty" else .ok query)

/-- Runs several catalog queries one after the other; of two with one name the later counts. -/
def runAll (s : Session) (target : Target) : List String → NameMap Outcome × Session
  | names =>
    names.foldl
      (fun acc name =>
        let (outcome, s) := acc.2.runNamed target name
        (acc.1.insert name outcome, s))
      ([], s)

/-! ## §4. Runs that may break off -/

/-- Does running a query text on a tree ask for a text beyond the end of `source`? -/
def readsBeyond (s : Session) (tree : SyntaxTree) (dialect : Dialect) (source : List Char)
    (query : String) : Bool :=
  match (s.memo.compile dialect query).1 with
  | .error _ => false
  | .ok q => q.readsBeyond (Text.octets source) tree.root

/-- Runs a query text like `runOn`.  There is no outcome if the run breaks off; what was compiled is
remembered all the same. -/
def attemptOn (s : Session) (target : Target) (name : String) (query : Except String String) :
    Option Outcome × Session :=
  match target.tree, target.dialect, query with
  | some tree, some dialect, .ok text =>
    if s.readsBeyond tree dialect target.source text then
      (none, (s.run tree dialect target.source text).2)
    else (s.runOn target name query).map some id
  | _, _, _ => (s.runOn target name query).map some id

/-- Runs the catalog query of `language` called `name`. -/
def attemptNamedAs (s : Session) (target : Target) (language name : String) :
    Option Outcome × Session :=
  s.attemptOn target name (s.lookUp (Text.normalized language) name)

/-- Runs a catalog query of the grammar's own language. -/
def attemptNamed (s : Session) (target : Target) (name : String) : Option Outcome × Session :=
  s.attemptNamedAs target ((target.dialect.map Dialect.language).getD "") name

/-- Runs a query text. -/
def attemptText (s : Session) (target : Target) (query : String) : Option Outcome × Session :=
  s.attemptOn target customName
    (if Text.allBlank query.toList then .error "query string is empty" else .ok query)

/-- Runs catalog queries one after the other and adds what they come to.  If one breaks off, those
behind it are not run, and nothing is returned. -/
def attemptEach (target : Target) :
    NameMap Outcome → Session → List String → Option (NameMap Outcome) × Session
  | outcomes, s, [] => (some outcomes, s)
  | outcomes, s, name :: names =>
    match s.attemptNamed target name with
    | (none, s) => (none, s)
    | (some outcome, s) => attemptEach target (outcomes.insert name outcome) s names

/-- Runs several catalog queries; of two with one name the later counts. -/
def attemptAll (s : Session) (target : Target) (names : List String) :
    Option (NameMap Outcome) × Session :=
  attemptEach target [] s names

end Session

end CodeSurvey.Query
