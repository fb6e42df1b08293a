/-
  What comes of an analysis: findings, or a message; and how it is written as JSON.
-/
import CodeSurvey.Element
import CodeSurvey.Json
import CodeSurvey.Query.Session

namespace CodeSurvey.Analysis

/-! ## §1. Results -/

/-- What was found in a file. -/
structure Findings where
  lineCount : Nat
  nodeCount : Nat
  elements : List Element := []
  queries : NameMap Query.Outcome := []
  hasSyntaxErrors : Bool := false

/-- The result for a file. -/
structure Result where
  path : String
  language : String
  format : String := "json"
  outcome : Except String Findings

namespace Result

/-- Are there findings? -/
def success (r : Result) : Bool := r.outcome.toOption.isSome

/-- The message, if there are no findings. -/
def error? (r : Result) : Option String :=
  match r.outcome with
  | .ok _ => none
  | .error e => some e

/-- The findings; without any, nothing was found. -/
def findings (r : Result) : Findings :=
  match r.outcome with
  | .ok f => f
  | .error _ => { lineCount := 0, nodeCount := 0 }

/-- The elements found. -/
def elements (r : Result) : List Element := r.findings.elements

/-- The outcomes of the queries. -/
def queries (r : Result) : NameMap Query.Outcome := r.findings.queries

/-- The result with other elements. -/
def withElements (r : Result) (elements : List Element) : Result :=
  { r with outcome := r.outcome.map fun f => { f with elements := elements } }

/-- The names of the elements. -/
def elementNames (r : Result) : List String := r.elements.map Element.name

/-- The elements of a kind. -/
def elementsOfKind (r : Result) (kind : String) : List Element :=
  r.elements.filter fun e => e.kind.word == kind

/-- The number of captures of all queries. -/
def totalCaptures (r : Result) : Nat :=
  r.queries.foldl (fun n q => n + q.2.captures.length) 0

end Result

/-! ## §2. Reports -/

/-- The members that only elements of one kind have. -/
def kindMembers : ElementKind → List (String × Json)
  | .package => []
  | .classLike f =>
    [("class_kind", .str f.classKind), ("method_count", .nat f.methodCount),
     ("field_count", .nat f.fieldCount)]
  | .function f =>
    [("parameters", .texts f.parameters), ("return_type", .text? f.returnType),
     ("visibility", .str f.visibility), ("is_static", .bool f.isStatic),
     ("is_async", .bool f.isAsync), ("complexity", Json.ofOption .nat f.complexity)]
  | .variable declaredType => [("declared_type", .text? declaredType)]
  | .importing modulePath shortName =>
    [("module_path", .str modulePath), ("alias", .text? shortName)]

/-- An element. -/
def elementReport (e : Element) : Json :=
  .obj ([("name", .str e.name), ("kind", .str e.kind.word)] ++ kindMembers e.kind
    ++ [("start_line", .nat e.startLine), ("end_line", .nat e.endLine), ("raw_text", .str e.text),
        ("language", .str e.language)])

/-- A capture. -/
def captureReport (c : Query.Capture) : Json :=
  .obj [("capture_name", .str c.name), ("node_type", .str c.nodeKind),
    ("start_line", .nat c.startLine), ("end_line", .nat c.endLine),
    ("start_column", .nat c.startColumn), ("end_column", .nat c.endColumn),
    ("start_byte", .nat c.startByte), ("end_byte", .nat c.endByte), ("text", .str c.text)]

/-- Times are written, but not measured. -/
def timeReport : Json := .decimal "0.0"

/-- The member for a message, left out if there is none. -/
def errorMember (name : String) (error? : Option String) : List (String × Json) :=
  (error?.map fun e => (name, Json.str e)).toList

/-- The outcome of a query. -/
def queryReport (q : Query.Outcome) : Json :=
  .obj ([("query_name", .str q.name), ("success", .bool q.success),
      ("captures", .arr (q.captures.map captureReport)), ("execution_time", timeReport)]
    ++ errorMember "error" q.error?)

/-- A result. -/
def resultReport (r : Result) : Json :=
  .obj ([("success", .bool r.success), ("language", .str r.language), ("file_path", .str r.path),
      ("line_count", .nat r.findings.lineCount), ("node_count", .nat r.findings.nodeCount),
      ("elements", .arr (r.elements.map elementReport)),
      ("query_results", .obj (r.queries.map fun q => (q.1, queryReport q.2))),
      ("analysis_time", timeReport)]
    ++ errorMember "error_message" r.error?
    ++ [("has_syntax_errors", .bool r.findings.hasSyntaxErrors), ("format_type", .str r.format)])

end CodeSurvey.Analysis
