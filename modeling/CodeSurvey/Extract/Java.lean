/-
  The declarations of Java files: package, imports, types, methods, constructors and fields.
-/
import CodeSurvey.Extract.Basic

namespace CodeSurvey.Extract.Java

open Syntax Query

/-- Finds the declarations. -/
def declarations : String := "
(package_declaration) @package

(import_declaration) @import

(class_declaration
  name: (identifier) @name
) @class

(interface_declaration
  name: (identifier) @name
) @interface

(enum_declaration
  name: (identifier) @name
) @enum

(record_declaration
  name: (identifier) @name
) @record

(method_declaration
  name: (identifier) @name
) @method

(constructor_declaration
  name: (identifier) @name
) @constructor

(field_declaration
  declarator: (variable_declarator
    name: (identifier) @name
  )
) @field
"

/-- Finds the decision points. -/
def decisions : String := "
(if_statement) @if
(for_statement) @for
(enhanced_for_statement) @for_each
(while_statement) @while
(do_statement) @do
(switch_block_statement_group) @case
(switch_rule) @case
(ternary_expression) @ternary
(catch_clause) @catch
(binary_expression operator: \"&&\") @and
(binary_expression operator: \"||\") @or
"

/-- The modifier words of a declaration, annotations left out. -/
def modifiers (p : Parsed) (t : Tree) : List String :=
  match t.childOfKind "modifiers" with
  | none => []
  | some m => (wordsOf (p.tree.text m)).filter fun w => w.toList.head? != some '@'

/-- The dotted name of a package or an import. -/
def qualifiedName (p : Parsed) (t : Tree) : Option String :=
  (t.namedChildren.find? fun c => c.kind == "scoped_identifier" || c.kind == "identifier").map
    p.tree.text

/-- The element of a method or a constructor. -/
def method (p : Parsed) (t : Tree) (name : String) : Extraction Element :=
  let words := modifiers p t
  functionOf p t name
    { parameters := ((t.childByField "parameters").map fun q => childTexts p q []).getD [],
      returnType := fieldText p t "type",
      visibility := (["public", "private", "protected"].find? words.contains).getD "package",
      isStatic := words.contains "static" }
    decisions

/-- The kinds of nodes that count as methods of a type. -/
def methodKinds : List String := ["method_declaration", "constructor_declaration"]

/-- The element of a type. -/
def typeElement (p : Parsed) (t : Tree) (classKind name : String) : Element :=
  match t.childByField "body" with
  | none => classOf p t name classKind 0 0
  | some body =>
    if classKind == "enum" then
      let members := body.namedChildren.find? (·.kind == "enum_body_declarations")
      classOf p t name classKind ((members.map fun d => countChildren d methodKinds).getD 0)
        (countChildren body ["enum_constant"])
    else
      classOf p t name classKind (countChildren body methodKinds)
        (countChildren body ["field_declaration", "constant_declaration"])

/-- The element of an import, with a star if it takes all names. -/
def importElement (p : Parsed) (t : Tree) : Option Element :=
  (qualifiedName p t).map fun path =>
    importOf p t (if t.namedChildren.any (·.kind == "asterisk") then path ++ ".*" else path) none

/-- The element of a sighting. -/
def rule (p : Parsed) (s : Sighting) : Extraction (Option Element) :=
  let t := s.spot.tree
  match s.role, s.name with
  | "package", _ => pure ((qualifiedName p t).map fun name => elementOf p t name .package)
  | "import", _ => pure (importElement p t)
  | "method", some name => some <$> method p t name
  | "constructor", some name => some <$> method p t name
  | "field", some name => pure (some (elementOf p t name (.variable (fieldText p t "type"))))
  | role, some name =>
    pure (if ["class", "interface", "enum", "record"].contains role
      then some (typeElement p t role name) else none)
  | _, none => pure none

/-- The elements of a Java file. -/
def extract (p : Parsed) : Extraction (List Element) := do
  let found ← sightings p declarations ["package", "import", "class", "interface", "enum", "record",
    "method", "constructor", "field"]
  arrange <$> candidates (rule p) found

end CodeSurvey.Extract.Java
