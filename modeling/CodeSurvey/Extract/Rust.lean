/-
  The declarations of Rust files: functions, types, modules, imports, constants and statics.  A
  type's methods are the functions of all implementations that name it.
-/
import CodeSurvey.Extract.Basic

namespace CodeSurvey.Extract.Rust

open Syntax Query

/-- Finds the declarations. -/
def declarations : String := "
; Functions, impl and trait methods included
(function_item
  name: (identifier) @name
) @function

(struct_item
  name: (type_identifier) @name
) @struct

(enum_item
  name: (type_identifier) @name
) @enum

(union_item
  name: (type_identifier) @name
) @union

(trait_item
  name: (type_identifier) @name
) @trait

(type_item
  name: (type_identifier) @name
) @type

(mod_item
  name: (identifier) @name
) @module

(impl_item
  type: (_) @impl_type
  body: (declaration_list) @impl_body
) @impl

(use_declaration
  argument: (_) @argument
) @import

(const_item
  name: (identifier) @name
) @variable

(static_item
  name: (identifier) @name
) @variable
"

/-- Finds the decision points. -/
def decisions : String := "
(if_expression) @if
(for_expression) @for
(while_expression) @while
(match_arm) @match_arm
(binary_expression operator: \"&&\") @and
(binary_expression operator: \"||\") @or
"

/-- The visibility of an item: private without a modifier, public with the plain one, otherwise the
modifier itself. -/
def visibility (p : Parsed) (t : Tree) : String :=
  match (t.childOfKind "visibility_modifier").map p.tree.text with
  | none => "private"
  | some "pub" => "public"
  | some other => other

/-- Does a function stand in an implementation or a trait? -/
def isMember (s : Spot) : Bool :=
  ((s.parent.bind Spot.parent).map fun owner => owner.tree.kind).any fun k =>
    k == "impl_item" || k == "trait_item"

/-- The element of a function. -/
def function (p : Parsed) (s : Spot) (name : String) : Extraction Element :=
  let t := s.tree
  let params := t.childByField "parameters"
  let modifiers := ((t.childOfKind "function_modifiers").map p.tree.text).getD ""
  functionOf p t name
    { parameters := (params.map fun q => childTexts p q ["attribute_item"]).getD [],
      returnType := fieldText p t "return_type",
      visibility := visibility p t,
      isStatic := isMember s && !params.any fun q => 0 < countChildren q ["self_parameter"],
      isAsync := (wordsOf modifiers).contains "async" }
    decisions

/-- The number of fields of a struct whose fields have no names. -/
def tupleFieldCount (body : Tree) : Nat :=
  body.namedChildren.countP fun c => c.kind != "visibility_modifier" && c.kind != "attribute_item"

/-- The element of a type. -/
def typeElement (p : Parsed) (t : Tree) (classKind name : String) : Element :=
  match t.childByField "body" with
  | none => classOf p t name classKind 0 0
  | some body =>
    if (classKind == "struct" || classKind == "union") && body.kind == "field_declaration_list" then
      classOf p t name classKind 0 (countChildren body ["field_declaration"])
    else if classKind == "struct" then classOf p t name classKind 0 (tupleFieldCount body)
    else if classKind == "enum" then
      classOf p t name classKind 0 (countChildren body ["enum_variant"])
    else if classKind == "trait" then
      classOf p t name classKind (countChildren body ["function_item", "function_signature_item"]) 0
    else classOf p t name classKind 0 0

/-- The element of an import. -/
def importElement (p : Parsed) (t argument : Tree) : Element :=
  if argument.kind == "use_as_clause" then
    importOf p t ((fieldText p argument "path").getD (p.tree.text argument))
      (fieldText p argument "alias")
  else importOf p t (p.tree.text argument) none

/-- The name of a type without its path and its arguments. -/
def baseName (text : String) : String :=
  let plain := text.toList.takeWhile (· != '<')
  let last := match Text.splitAt? [':', ':'] plain.reverse with
    | some (segment, _) => segment.reverse
    | none => plain
  String.ofList (Text.trim last)

/-- The element of a sighting. -/
def rule (p : Parsed) (s : Sighting) : Extraction (Option Element) :=
  let t := s.spot.tree
  match s.role, s.name with
  | "function", some name => some <$> function p s.spot name
  | "module", some name => pure (some (elementOf p t name .package))
  | "variable", some name => pure (some (elementOf p t name (.variable (fieldText p t "type"))))
  | "import", _ =>
    pure ((captured? s.bindings "argument").map fun argument => importElement p t argument.tree)
  | role, some name =>
    pure (if ["struct", "enum", "union", "trait", "type"].contains role
      then some (typeElement p t role name) else none)
  | _, none => pure none

/-- The type that gains methods by a sighting, and how many. -/
def owner? (p : Parsed) (s : Sighting) : Option (String × Nat) :=
  if s.role == "impl" then do
    let type ← captured? s.bindings "impl_type"
    let body ← captured? s.bindings "impl_body"
    pure (baseName (p.tree.text type.tree), countChildren body.tree ["function_item"])
  else none

/-- The elements of a Rust file. -/
def extract (p : Parsed) : Extraction (List Element) := do
  let found ← sightings p declarations
    ["function", "struct", "enum", "union", "trait", "type", "module", "impl", "import", "variable"]
  let made ← candidates (rule p) found
  pure (arrange (creditMethods "trait" (found.filterMap (owner? p)) made))

end CodeSurvey.Extract.Rust
