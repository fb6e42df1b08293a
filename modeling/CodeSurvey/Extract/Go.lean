/-
  The declarations of Go files: package, imports, functions, methods, types, and the variables and
  constants of the package.  A type's methods are those whose receiver names it.
-/
import CodeSurvey.Extract.Basic
import CodeSurvey.Text.Case

namespace CodeSurvey.Extract.Go

open Syntax Query

/-- Finds the declarations. -/
def declarations : String := "
(package_clause
  (package_identifier) @name
) @package

(import_spec
  path: (_) @path
) @import

(function_declaration
  name: (identifier) @name
) @function

(method_declaration
  name: (field_identifier) @name
) @method

(type_spec
  name: (type_identifier) @name
) @type

(var_spec
  name: (identifier) @name
) @variable

(const_spec
  name: (identifier) @name
) @variable
"

/-- Finds the decision points. -/
def decisions : String := "
(if_statement) @if
(for_statement) @for
(expression_case) @case
(type_case) @case
(communication_case) @case
(binary_expression operator: \"&&\") @and
(binary_expression operator: \"||\") @or
"

/-- Names that start with a capital letter are exported. -/
def visibility (name : String) : String :=
  if name.toList.head?.any Text.isUpper then "public" else "private"

/-- The element of a function or a method. -/
def function (p : Parsed) (t : Tree) (name : String) : Extraction Element :=
  functionOf p t name
    { parameters := ((t.childByField "parameters").map fun q => childTexts p q []).getD [],
      returnType := fieldText p t "result",
      visibility := visibility name }
    decisions

/-- The number of fields of a struct. -/
def fieldCount (t : Tree) : Nat :=
  ((t.namedChildren.find? (·.kind == "field_declaration_list")).map fun list =>
    countChildren list ["field_declaration"]).getD 0

/-- The element of a type. -/
def typeElement (p : Parsed) (t : Tree) (name : String) : Element :=
  match t.childByField "type" with
  | none => classOf p t name "type" 0 0
  | some body =>
    match body.kind with
    | "struct_type" => classOf p t name "struct" 0 (fieldCount body)
    | "interface_type" =>
      classOf p t name "interface" (countChildren body ["method_elem", "method_spec"]) 0
    | _ => classOf p t name "type" 0 0

/-- The type that a method belongs to: its receiver without stars and type arguments. -/
def receiver? (p : Parsed) (t : Tree) : Option String := do
  let receiver ← t.childByField "receiver"
  let parameter ← receiver.namedChildren.head?
  let type ← parameter.childByField "type"
  let text := (p.tree.text type).toList.dropWhile (· == '*')
  pure (String.ofList (Text.trim (text.takeWhile (· != '['))))

/-- Does a node stand inside a function? -/
def isLocal (s : Spot) : Bool :=
  s.above.any fun t => ["block", "function_declaration", "method_declaration"].contains t.kind

/-- The element of an import. -/
def importElement (p : Parsed) (s : Sighting) : Option Element :=
  (captured? s.bindings "path").map fun path =>
    importOf p s.spot.tree (unquote (p.tree.text path.tree)) (fieldText p s.spot.tree "name")

/-- The element of a sighting. -/
def rule (p : Parsed) (s : Sighting) : Extraction (Option Element) :=
  let t := s.spot.tree
  match s.role, s.name with
  | "package", some name => pure (some (elementOf p t name .package))
  | "import", _ => pure (importElement p s)
  | "function", some name => some <$> function p t name
  | "method", some name => some <$> function p t name
  | "type", some name => pure (some (typeElement p t name))
  | "variable", some name =>
    pure (if isLocal s.spot then none
      else some (elementOf p t name (.variable (fieldText p t "type"))))
  | _, _ => pure none

/-- The type that gains a method by a sighting. -/
def owner? (p : Parsed) (s : Sighting) : Option (String × Nat) :=
  if s.role == "method" && s.name.isSome then (receiver? p s.spot.tree).map (·, 1) else none

/-- The elements of a Go file. -/
def extract (p : Parsed) : Extraction (List Element) := do
  let found ← sightings p declarations
    ["package", "import", "function", "method", "type", "variable"]
  let made ← candidates (rule p) found
  pure (arrange (creditMethods "interface" (found.filterMap (owner? p)) made))

end CodeSurvey.Extract.Go
