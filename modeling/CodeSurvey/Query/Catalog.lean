/-
  The catalog of named queries.  Every language with a grammar has some to begin with; others can be
  added, and the latest of one name counts.
-/
import CodeSurvey.NameMap
import CodeSurvey.Text.Case

namespace CodeSurvey.Query

/-- A named query. -/
structure Definition where
  name : String
  description : String
  source : String
deriving DecidableEq

/-! ## §1. Queries to begin with -/

/-- Queries for Python. -/
def pythonQueries : List Definition :=
  [⟨"functions", "Function definitions, including methods", "(function_definition) @function"⟩,
   ⟨"classes", "Class definitions", "(class_definition) @class"⟩,
   ⟨"methods", "Functions defined directly in a class body",
     "(class_definition body: (block (function_definition) @method))"⟩,
   ⟨"imports", "import and from-import statements",
     "(import_statement) @import\n"
       ++ "(import_from_statement) @import"⟩,
   ⟨"variables", "Assignments to plain names", "(assignment left: (identifier)) @variable"⟩,
   ⟨"decorators", "Decorators", "(decorator) @decorator"⟩,
   ⟨"comments", "Comments", "(comment) @comment"⟩]

/-- Queries for Java. -/
def javaQueries : List Definition :=
  [⟨"methods", "Method and constructor declarations",
     "(method_declaration) @method\n"
       ++ "(constructor_declaration) @constructor"⟩,
   ⟨"functions", "Method declarations", "(method_declaration) @method"⟩,
   ⟨"classes", "Class, interface, enum and record declarations",
     "(class_declaration) @class\n"
       ++ "(interface_declaration) @interface\n"
       ++ "(enum_declaration) @enum\n"
       ++ "(record_declaration) @record"⟩,
   ⟨"fields", "Field declarations", "(field_declaration) @field"⟩,
   ⟨"variables", "Field and local variable declarations",
     "(field_declaration) @field\n"
       ++ "(local_variable_declaration) @variable"⟩,
   ⟨"imports", "Import declarations", "(import_declaration) @import"⟩,
   ⟨"package", "Package declaration", "(package_declaration) @package"⟩,
   ⟨"annotations", "Annotations", "(annotation) @annotation\n(marker_annotation) @annotation"⟩,
   ⟨"comments", "Line and block comments", "(line_comment) @comment\n(block_comment) @comment"⟩]

/-- Queries for JavaScript. -/
def javascriptQueries : List Definition :=
  [⟨"functions", "Function declarations and function-valued variables",
     "(function_declaration) @function\n"
       ++ "(generator_function_declaration) @function\n"
       ++ "(variable_declarator value: [(arrow_function) (function_expression)]) @function"⟩,
   ⟨"classes", "Class declarations", "(class_declaration) @class"⟩,
   ⟨"methods", "Method definitions", "(method_definition) @method"⟩,
   ⟨"imports", "Import statements", "(import_statement) @import"⟩,
   ⟨"exports", "Export statements", "(export_statement) @export"⟩,
   ⟨"variables", "let/const/var declarations",
     "(lexical_declaration) @variable\n"
       ++ "(variable_declaration) @variable"⟩,
   ⟨"comments", "Comments", "(comment) @comment"⟩]

/-- Queries for TypeScript. -/
def typescriptQueries : List Definition :=
  [⟨"functions", "Function declarations and function-valued variables",
     "(function_declaration) @function\n"
       ++ "(generator_function_declaration) @function\n"
       ++ "(variable_declarator value: [(arrow_function) (function_expression)]) @function"⟩,
   ⟨"classes", "Class declarations, abstract included",
     "(class_declaration) @class\n"
       ++ "(abstract_class_declaration) @class"⟩,
   ⟨"methods", "Method definitions", "(method_definition) @method"⟩,
   ⟨"interfaces", "Interface declarations", "(interface_declaration) @interface"⟩,
   ⟨"types", "Type aliases and enums",
     "(type_alias_declaration) @type_alias\n"
       ++ "(enum_declaration) @enum"⟩,
   ⟨"imports", "Import statements", "(import_statement) @import"⟩,
   ⟨"exports", "Export statements", "(export_statement) @export"⟩,
   ⟨"variables", "let/const/var declarations",
     "(lexical_declaration) @variable\n"
       ++ "(variable_declaration) @variable"⟩,
   ⟨"comments", "Comments", "(comment) @comment"⟩]

/-- Queries for Go. -/
def goQueries : List Definition :=
  [⟨"functions", "Function declarations", "(function_declaration) @function"⟩,
   ⟨"methods", "Method declarations", "(method_declaration) @method"⟩,
   ⟨"types", "Type declarations", "(type_declaration) @type"⟩,
   ⟨"structs", "Struct type specs", "(type_spec type: (struct_type)) @struct"⟩,
   ⟨"interfaces", "Interface type specs", "(type_spec type: (interface_type)) @interface"⟩,
   ⟨"imports", "Import declarations", "(import_declaration) @import"⟩,
   ⟨"variables", "var and const declarations",
     "(var_declaration) @variable\n"
       ++ "(const_declaration) @constant"⟩,
   ⟨"package", "Package clause", "(package_clause) @package"⟩,
   ⟨"comments", "Comments", "(comment) @comment"⟩]

/-- Queries for Rust. -/
def rustQueries : List Definition :=
  [⟨"functions", "Function items, impl methods included", "(function_item) @function"⟩,
   ⟨"classes", "Structs, enums and traits", "[(struct_item) (enum_item) (trait_item)] @class"⟩,
   ⟨"structs", "Struct items", "(struct_item) @struct"⟩,
   ⟨"enums", "Enum items", "(enum_item) @enum"⟩,
   ⟨"traits", "Trait items", "(trait_item) @trait"⟩,
   ⟨"impls", "Impl blocks", "(impl_item) @impl"⟩,
   ⟨"imports", "use declarations", "(use_declaration) @import"⟩,
   ⟨"variables", "let bindings, consts and statics",
     "(let_declaration) @variable\n"
       ++ "(const_item) @constant\n"
       ++ "(static_item) @static"⟩,
   ⟨"macros", "macro_rules! definitions", "(macro_definition) @macro"⟩,
   ⟨"comments", "Line and block comments", "(line_comment) @comment\n(block_comment) @comment"⟩]

/-- Queries for C. -/
def cQueries : List Definition :=
  [⟨"functions", "Function definitions", "(function_definition) @function"⟩,
   ⟨"structs", "Struct specifiers", "(struct_specifier) @struct"⟩,
   ⟨"imports", "#include directives", "(preproc_include) @include"⟩,
   ⟨"variables", "Declarations", "(declaration) @variable"⟩,
   ⟨"comments", "Comments", "(comment) @comment"⟩]

/-- Queries for C++. -/
def cppQueries : List Definition :=
  [⟨"functions", "Function definitions", "(function_definition) @function"⟩,
   ⟨"classes", "Class and struct specifiers",
     "(class_specifier) @class\n"
       ++ "(struct_specifier) @struct"⟩,
   ⟨"namespaces", "Namespace definitions", "(namespace_definition) @namespace"⟩,
   ⟨"imports", "#include directives", "(preproc_include) @include"⟩,
   ⟨"comments", "Comments", "(comment) @comment"⟩]

/-- The queries that a language has to begin with. -/
def startingQueries : List (String × List Definition) :=
  [("c", cQueries), ("cpp", cppQueries), ("go", goQueries), ("java", javaQueries),
   ("javascript", javascriptQueries), ("python", pythonQueries), ("rust", rustQueries),
   ("tsx", typescriptQueries), ("typescript", typescriptQueries)]

/-! ## §2. Catalogs -/

/-- Queries by language, then by name. -/
abbrev Catalog := NameMap (NameMap Definition)

namespace Catalog

/-- The catalog without any query. -/
def empty : Catalog := []

/-- Adds a query under its own name. -/
def insertDefinition (c : Catalog) (language : String) (d : Definition) : Catalog :=
  c.alter language fun queries => NameMap.insert (queries.getD []) d.name d

/-- The catalog of the queries that every language has to begin with. -/
def builtin : Catalog :=
  startingQueries.foldl
    (fun c entry => entry.2.foldl (fun c d => insertDefinition c entry.1 d) c) empty

/-- The description of a query that was added without one. -/
def defaultDescription : String := "user-defined query"

/-- Adds or replaces a query.  The language is normalized and the name trimmed. -/
def add (c : Catalog) (language name source : String) (description : Option String) : Catalog :=
  insertDefinition c (Text.normalized language)
    ⟨Text.trimmed name, description.getD defaultDescription, source⟩

/-- The query of a language with a given name. -/
def definition (c : Catalog) (language name : String) : Option Definition :=
  (NameMap.find? c (Text.normalized language)).bind fun queries =>
    NameMap.find? queries (Text.trimmed name)

/-- The text of a query. -/
def source? (c : Catalog) (language name : String) : Option String :=
  (c.definition language name).map Definition.source

/-- The description of a query. -/
def describe (c : Catalog) (language name : String) : Option String :=
  (c.definition language name).map Definition.description

/-- The names of a language's queries, sorted. -/
def names (c : Catalog) (language : String) : List String :=
  ((NameMap.find? c (Text.normalized language)).map NameMap.names).getD []

/-- The languages that have a query, sorted. -/
def languages (c : Catalog) : List String :=
  (c.filter fun entry => !entry.2.isEmpty).map Prod.fst

end Catalog

end CodeSurvey.Query
