/-
  The declarations of Python files: functions, classes, imports and assignments at module level.
-/
import CodeSurvey.Extract.Basic

namespace CodeSurvey.Extract.Python

open Syntax Query

/-- Finds the declarations. -/
def declarations : String := "
(function_definition
  name: (identifier) @name
) @function

(class_definition
  name: (identifier) @name
) @class

(import_statement) @import

(import_from_statement) @import_from

; Module-level assignments only
(module
  (expression_statement
    (assignment
      left: (identifier) @name
    ) @variable
  )
)
"

/-- Finds the decision points. -/
def decisions : String := "
(if_statement) @if
(elif_clause) @elif
(for_statement) @for
(while_statement) @while
(conditional_expression) @ternary
(boolean_operator operator: \"and\") @and
(boolean_operator operator: \"or\") @or
(except_clause) @except
(case_clause) @case
"

/-- Visibility by naming convention: two underscores in front mean private, one means protected,
unless two stand at the end as well. -/
def visibility (name : String) : String :=
  let cs := name.toList
  let twoInFront := ['_', '_'].isPrefixOf cs
  let special := twoInFront && ['_', '_'].isSuffixOf cs
  if twoInFront && !special then "private"
  else if cs.head? == some '_' && !special then "protected"
  else "public"

/-- Does a decorator of this name stand before a function? -/
def hasDecorator (p : Parsed) (s : Spot) (decorator : String) : Bool :=
  match s.parent with
  | none => false
  | some up =>
    up.tree.kind == "decorated_definition" &&
      (up.tree.namedChildren.filter (·.kind == "decorator")).any fun d =>
        Text.trim ((p.tree.text d).toList.dropWhile (· == '@')) == decorator.toList

/-- The element of a function. -/
def function (p : Parsed) (s : Spot) (name : String) : Extraction Element :=
  let t := s.tree
  functionOf p t name
    { parameters := ((t.childByField "parameters").map fun q =>
        childTexts p q ["positional_separator", "keyword_separator"]).getD [],
      returnType := (fieldText p t "return_type").map cleanType,
      visibility := visibility name,
      isStatic := hasDecorator p s "staticmethod",
      isAsync := hasChild t "async" }
    decisions

/-- Is a statement of a class body an assignment? -/
def isField (t : Tree) : Bool :=
  t.kind == "expression_statement" && (t.namedChildren.head?.map Tree.kind) == some "assignment"

/-- Is a statement of a class body a function with decorators? -/
def isDecoratedFunction (t : Tree) : Bool :=
  t.kind == "decorated_definition" &&
    ((t.childByField "definition").map Tree.kind) == some "function_definition"

/-- The number of methods in a class body. -/
def methodCount (body : Tree) : Nat :=
  countChildren body ["function_definition"] + body.namedChildren.countP isDecoratedFunction

/-- The element of a class. -/
def classElement (p : Parsed) (t : Tree) (name : String) : Element :=
  match t.childByField "body" with
  | none => classOf p t name "class" 0 0
  | some body => classOf p t name "class" (methodCount body) (body.namedChildren.countP isField)

/-- The element of an import: the first module it names. -/
def importElement (p : Parsed) (t : Tree) : Option Element := do
  let first ← t.childByField "name"
  if first.kind == "aliased_import" then
    let path ← fieldText p first "name"
    pure (importOf p t path (fieldText p first "alias"))
  else pure (importOf p t (p.tree.text first) none)

/-- The element of an import from a module. -/
def importFromElement (p : Parsed) (t : Tree) : Option Element :=
  (fieldText p t "module_name").map fun path => importOf p t path none

/-- The element of a sighting. -/
def rule (p : Parsed) (s : Sighting) : Extraction (Option Element) :=
  let t := s.spot.tree
  match s.role, s.name with
  | "function", some name => some <$> function p s.spot name
  | "class", some name => pure (some (classElement p t name))
  | "variable", some name => pure (some (elementOf p t name (.variable (fieldText p t "type"))))
  | "import", _ => pure (importElement p t)
  | "import_from", _ => pure (importFromElement p t)
  | _, _ => pure none

/-- The elements of a Python file. -/
def extract (p : Parsed) : Extraction (List Element) := do
  let found ← sightings p declarations ["function", "class", "import", "import_from", "variable"]
  arrange <$> candidates (rule p) found

end CodeSurvey.Extract.Python
