/-
  Extraction: from a parsed file to its code elements.  Each language has a query that finds its
  declarations and rules that say what is known of each; the elements come in document order, and
  of neighbours with one place, name and kind only the first is kept.
-/
import CodeSurvey.Element
import CodeSurvey.Query.Compiled

namespace CodeSurvey.Extract

open Syntax Query

/-! ## §1. Running queries -/

/-- Work that remembers compiled queries and may fail with a message. -/
abbrev Extraction := ExceptT String (StateM Memo)

/-- The compiled form of a query for the grammar of a parsed file. -/
def compiled (p : Parsed) (query : String) : Extraction Compiled := do
  let memo ← getThe Memo
  let (result, memo) := memo.compile p.dialect query
  set memo
  match result with
  | .ok q => pure q
  | .error fault => throw (fault.message query.toList)

/-- Does the first match start before the second, its first node being the earlier one? -/
def startsBefore (a b : Match) : Bool :=
  match a.bindings, b.bindings with
  | x :: _, y :: _ => precedes x.2.tree y.2.tree
  | _, _ => false

/-- The matches of a query in a parsed file, in the order of the nodes they start with. -/
def matchesOf (p : Parsed) (query : String) : Extraction (List Bindings) := do
  let q ← compiled p query
  let found := q.matchesIn (Text.octets p.tree.source) p.tree.root
  pure ((found.mergeSort fun a b => !startsBefore b a).map Match.bindings)

/-- The node captured under a name. -/
def captured? (b : Bindings) (name : String) : Option Spot := b.lookup name

/-- The first capture that has one of the names. -/
def firstOf? (b : Bindings) (names : List String) : Option (String × Spot) :=
  b.find? fun entry => names.contains entry.1

/-- The complexity of a node: one, and one more for each decision point that the query captures
inside it. -/
def complexity (p : Parsed) (t : Tree) (decisions : String) : Extraction Nat := do
  let q ← compiled p decisions
  pure (1 + (q.captures (Text.octets p.tree.source) t).length)

/-! ## §2. Reading trees -/

/-- The text of the node in a field. -/
def fieldText (p : Parsed) (t : Tree) (field : String) : Option String :=
  (t.childByField field).map p.tree.text

/-- Is a node a comment? -/
def isComment (t : Tree) : Bool := Text.contains "comment".toList t.kind.toList

/-- The texts of the named children that are no comments and of none of the kinds given. -/
def childTexts (p : Parsed) (t : Tree) (skipped : List String) : List String :=
  (t.namedChildren.filter fun c => !isComment c && !skipped.contains c.kind).map p.tree.text

/-- Is there a child of a kind? -/
def hasChild (t : Tree) (kind : String) : Bool := (t.childOfKind kind).isSome

/-- The number of named children of the kinds given. -/
def countChildren (t : Tree) (kinds : List String) : Nat :=
  t.namedChildren.countP fun c => kinds.contains c.kind

/-- A text without the quotes around it. -/
def unquote (text : String) : String :=
  let t := Text.trim text.toList
  let quotedBy (q : Char) : Bool := 2 ≤ t.length && t.head? == some q && t.getLast? == some q
  if ['"', '\x27', '\x60'].any quotedBy then String.ofList (t.drop 1).dropLast else String.ofList t

/-- Drops a text from the front as often as it stands there. -/
def dropRepeated (part : List Char) : Nat → List Char → List Char
  | 0, cs => cs
  | n + 1, cs =>
    match Text.stripStart? part cs with
    | some rest => dropRepeated part n rest
    | none => cs

/-- A type without the arrow or colon in front of it. -/
def cleanType (text : String) : String :=
  let t := Text.trim text.toList
  let t := dropRepeated ['-', '>'] t.length t
  String.ofList (Text.trim (t.dropWhile (· == ':')))

/-- The words of a text. -/
def wordsOf (text : String) : List String :=
  ((Text.splitAll Text.isBlank text.toList).filter fun w => !w.isEmpty).map String.ofList

/-! ## §3. Elements -/

/-- The element of a node. -/
def elementOf (p : Parsed) (t : Tree) (name : String) (kind : ElementKind) : Element :=
  { name := name, kind := kind, startLine := p.tree.startLine t, endLine := p.tree.endLine t,
    text := p.tree.text t, language := p.language }

/-- The element of an import, named after its module. -/
def importOf (p : Parsed) (t : Tree) (modulePath : String) (shortName : Option String) : Element :=
  elementOf p t modulePath (.importing modulePath shortName)

/-- The element of a function, its complexity counted by a query. -/
def functionOf (p : Parsed) (t : Tree) (name : String) (facts : FunctionFacts) (decisions : String) :
    Extraction Element := do
  let n ← complexity p t decisions
  pure (elementOf p t name (.function { facts with complexity := some n }))

/-- The element of a class-like declaration. -/
def classOf (p : Parsed) (t : Tree) (name classKind : String) (methods fields : Nat) : Element :=
  elementOf p t name (.classLike ⟨classKind, methods, fields⟩)

/-- An element and the octet where it starts. -/
abbrev Candidate := Nat × Element

/-- Are two candidates the same declaration? -/
def sameDeclaration (a b : Candidate) : Bool :=
  a.1 == b.1 && a.2.name == b.2.name && a.2.kind.word == b.2.kind.word

/-- Of neighbours that are the same declaration, the first, when `last` was kept before. -/
def dropRepeats (last : Candidate) : List Candidate → List Candidate
  | [] => []
  | c :: cs => if sameDeclaration c last then dropRepeats last cs else c :: dropRepeats c cs

/-- Candidates by their place, neighbouring repeats dropped. -/
def arrange (candidates : List Candidate) : List Element :=
  match candidates.mergeSort fun a b => a.1 ≤ b.1 with
  | [] => []
  | c :: cs => (c :: dropRepeats c cs).map Prod.snd

/-- What is made of a match: the role of its main node, that node, the text of what is captured as
its name, and the whole match. -/
structure Sighting where
  role : String
  spot : Spot
  name : Option String
  bindings : Bindings

/-- What the matches of a query are about, as far as they have one of the roles. -/
def sightings (p : Parsed) (query : String) (roles : List String) : Extraction (List Sighting) := do
  let found ← matchesOf p query
  pure (found.filterMap fun b =>
    (firstOf? b roles).map fun (role, spot) =>
      ⟨role, spot, (captured? b "name").map fun s => p.tree.text s.tree, b⟩)

/-- The candidates that a rule makes of sightings. -/
def candidates (rule : Sighting → Extraction (Option Element)) (found : List Sighting) :
    Extraction (List Candidate) := do
  let made ← found.mapM fun s => do
    let element ← rule s
    pure (element.map fun e => (s.spot.tree.start, e))
  pure (made.filterMap id)

/-- Adds to the methods of every class-like candidate, but those of one class kind, as many as there
are owners of its name. -/
def creditMethods (exempt : String) (owners : List (String × Nat)) (found : List Candidate) :
    List Candidate :=
  found.map fun (start, e) =>
    match e.kind with
    | .classLike facts =>
      if facts.classKind == exempt then (start, e)
      else
        let more := (owners.filter (·.1 == e.name)).foldl (fun n o => n + o.2) 0
        (start, { e with kind := .classLike { facts with methodCount := facts.methodCount + more } })
    | _ => (start, e)

end CodeSurvey.Extract
