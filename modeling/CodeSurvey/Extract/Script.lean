/-
  The declarations of JavaScript and TypeScript files: functions, classes, methods, top-level
  variables and imports, and with types also interfaces, type aliases and enums.
-/
import CodeSurvey.Extract.Basic

namespace CodeSurvey.Extract.Script

open Syntax Query

/-- Finds the declarations of both languages. -/
def untypedDeclarations : String := "
(function_declaration
  name: (_) @name
) @function

(generator_function_declaration
  name: (_) @name
) @function

(class_declaration
  name: (_) @name
) @class

(method_definition
  name: (_) @name
) @method

; Functions bound to a variable
(variable_declarator
  name: (identifier) @name
  value: [(arrow_function) (function_expression)]
) @function_variable

; Top-level (optionally exported) variables
(program
  [
    (lexical_declaration (variable_declarator name: (identifier) @name) @variable)
    (variable_declaration (variable_declarator name: (identifier) @name) @variable)
    (export_statement
      declaration: (lexical_declaration
        (variable_declarator name: (identifier) @name) @variable))
  ]
)

(import_statement
  source: (_)
) @import
"

/-- Finds the declarations that come with types. -/
def typedDeclarations : String := "
(abstract_class_declaration
  name: (_) @name
) @class

(interface_declaration
  name: (_) @name
) @interface

(type_alias_declaration
  name: (_) @name
) @type

(enum_declaration
  name: (_) @name
) @enum
"

/-- Finds the declarations. -/
def declarations (typed : Bool) : String :=
  if typed then untypedDeclarations ++ "\n" ++ typedDeclarations else untypedDeclarations

/-- Finds the decision points. -/
def decisions : String := "
(if_statement) @if
(for_statement) @for
(for_in_statement) @for_in
(while_statement) @while
(do_statement) @do
(switch_case) @case
(ternary_expression) @ternary
(catch_clause) @catch
(binary_expression operator: \"&&\") @and
(binary_expression operator: \"||\") @or
(binary_expression operator: \"??\") @nullish
"

/-- The values that make a variable a function. -/
def functionKinds : List String := ["arrow_function", "function_expression"]

/-- The parameters of a function; a lone one may stand without parentheses. -/
def parameters (p : Parsed) (f : Tree) : List String :=
  match f.childByField "parameters" with
  | some q => childTexts p q []
  | none => (fieldText p f "parameter").toList

/-- The visibility of a function: a modifier decides, else a hash in front of the name. -/
def visibility (p : Parsed) (f : Tree) (name : String) : String :=
  match f.childOfKind "accessibility_modifier" with
  | some m => p.tree.text m
  | none => if name.toList.head? == some '#' then "private" else "public"

/-- The element of a function `f` declared by `t`. -/
def function (p : Parsed) (t f : Tree) (name : String) : Extraction Element :=
  functionOf p t name
    { parameters := parameters p f,
      returnType := (fieldText p f "return_type").map cleanType,
      visibility := visibility p f name,
      isStatic := hasChild f "static",
      isAsync := hasChild f "async" }
    decisions

/-- The element of a type. -/
def typeElement (p : Parsed) (t : Tree) (classKind name : String) : Element :=
  match classKind, t.childByField "body" with
  | "class", some body =>
    classOf p t name classKind
      (countChildren body ["method_definition", "method_signature", "abstract_method_signature"])
      (countChildren body ["field_definition", "public_field_definition"])
  | "interface", some body =>
    classOf p t name classKind (countChildren body ["method_signature"])
      (countChildren body ["property_signature"])
  | "enum", some body =>
    classOf p t name classKind 0 (countChildren body ["property_identifier", "enum_assignment"])
  | _, _ => classOf p t name classKind 0 0

/-- The name that an import gives to a whole module. -/
def namespaceAlias (p : Parsed) (t : Tree) : Option String := do
  let clause ← t.namedChildren.find? (·.kind == "import_clause")
  let whole ← clause.namedChildren.find? (·.kind == "namespace_import")
  let name ← whole.namedChildren.head?
  pure (p.tree.text name)

/-- The element of an import. -/
def importElement (p : Parsed) (t : Tree) : Option Element :=
  (fieldText p t "source").map fun path => importOf p t (unquote path) (namespaceAlias p t)

/-- The element of a variable, unless its value is a function. -/
def variableElement (p : Parsed) (t : Tree) (name : String) : Option Element :=
  if (t.childByField "value").any fun v => functionKinds.contains v.kind then none
  else some (elementOf p t name (.variable ((fieldText p t "type").map cleanType)))

/-- The element of a sighting. -/
def rule (p : Parsed) (s : Sighting) : Extraction (Option Element) :=
  let t := s.spot.tree
  match s.role, s.name with
  | "function", some name => some <$> function p t t name
  | "method", some name => some <$> function p t t name
  | "function_variable", some name =>
    match t.childByField "value" with
    | some value => some <$> function p t value name
    | none => pure none
  | "variable", some name => pure (variableElement p t name)
  | "import", _ => pure (importElement p t)
  | role, some name =>
    pure (if ["class", "interface", "type", "enum"].contains role
      then some (typeElement p t role name) else none)
  | _, none => pure none

/-- The elements of a file, with or without types. -/
def extract (typed : Bool) (p : Parsed) : Extraction (List Element) := do
  let found ← sightings p (declarations typed) ["function", "function_variable", "class", "method",
    "variable", "import", "interface", "type", "enum"]
  arrange <$> candidates (rule p) found

end CodeSurvey.Extract.Script
