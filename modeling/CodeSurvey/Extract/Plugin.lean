/-
  Plugins: what is known of a language beyond its grammar.  A plugin names its file extensions, the
  queries that are run by default and how declarations are found.  Plugins are kept by language.
-/
import CodeSurvey.Extract.Go
import CodeSurvey.Extract.Java
import CodeSurvey.Extract.Python
import CodeSurvey.Extract.Rust
import CodeSurvey.Extract.Script
import CodeSurvey.Query.Catalog

namespace CodeSurvey.Extract

open Syntax Query

/-! ## §1. Plugins -/

/-- What is known of a language. -/
structure Plugin where
  language : String
  /-- Lower-case file extensions without their dots. -/
  extensions : List String := []
  defaultQueries : List String := []
  /-- The grammar that the plugin brings. -/
  grammar : Option Grammar := none
  /-- Finds the declarations. -/
  extract : Parsed → Extraction (List Element) := fun _ => pure []

namespace Plugin

/-- Does the plugin name an extension? -/
def handles (p : Plugin) (ext : String) : Bool :=
  p.extensions.contains (normalExtension ext)

/-- The queries that a catalog has for the plugin's language. -/
def supportedQueries (p : Plugin) (c : Catalog) : List String :=
  c.names p.language

/-- The plugin of a language that nothing is known of. -/
def fallback (language : String) : Plugin := { language := Text.lowercase language }

/-- The plugin of Python. -/
def python : Plugin :=
  { language := "python", extensions := ["py", "pyi", "pyw"],
    defaultQueries := ["functions", "classes", "imports"], extract := Python.extract }

/-- The plugin of Java. -/
def java : Plugin :=
  { language := "java", extensions := ["java"],
    defaultQueries := ["classes", "methods", "imports"], extract := Java.extract }

/-- The plugin of JavaScript. -/
def javascript : Plugin :=
  { language := "javascript", extensions := ["js", "jsx", "mjs", "cjs"],
    defaultQueries := ["functions", "classes", "imports"], extract := Script.extract false }

/-- The plugin of TypeScript. -/
def typescript : Plugin :=
  { language := "typescript", extensions := ["ts", "mts", "cts"],
    defaultQueries := ["functions", "classes", "interfaces", "imports"],
    extract := Script.extract true }

/-- The plugin of TypeScript with markup. -/
def tsx : Plugin :=
  { typescript with language := "tsx", extensions := ["tsx"] }

/-- The plugin of Go. -/
def go : Plugin :=
  { language := "go", extensions := ["go"],
    defaultQueries := ["functions", "methods", "types", "imports"], extract := Go.extract }

/-- The plugin of Rust. -/
def rust : Plugin :=
  { language := "rust", extensions := ["rs"],
    defaultQueries := ["functions", "structs", "enums", "traits", "imports"],
    extract := Rust.extract }

end Plugin

/-! ## §2. Plugins by language -/

/-- Plugins by language, and languages by extension. -/
structure Plugins where
  table : NameMap Plugin := []
  index : NameMap String := []

namespace Plugins

/-- No plugins. -/
def empty : Plugins := {}

/-- Registers the plugin of a language.  Its extensions now belong to the language. -/
def register (ps : Plugins) (language : String) (p : Plugin) : Plugins :=
  let language := Text.normalized language
  { table := ps.table.insert language p,
    index := p.extensions.foldl
      (fun index ext => NameMap.insert index (Text.lowercase ext) language) ps.index }

/-- The plugins at hand. -/
def builtin : Plugins :=
  [Plugin.python, Plugin.java, Plugin.javascript, Plugin.typescript, Plugin.tsx, Plugin.go,
    Plugin.rust].foldl (fun ps p => ps.register p.language p) empty

/-- The plugin registered for a language. -/
def find? (ps : Plugins) (language : String) : Option Plugin :=
  NameMap.find? ps.table (Text.normalized language)

/-- Is a plugin registered for a language? -/
def contains (ps : Plugins) (language : String) : Bool := (ps.find? language).isSome

/-- The plugin of a language; one that finds nothing if none is registered. -/
def resolve (ps : Plugins) (language : String) : Plugin :=
  (ps.find? language).getD (Plugin.fallback language)

/-- The language that an extension belongs to. -/
def languageOfExtension (ps : Plugins) (ext : String) : Option String :=
  NameMap.find? ps.index (normalExtension ext)

/-- The languages that have a plugin, sorted. -/
def languages (ps : Plugins) : List String := NameMap.names ps.table

end Plugins

end CodeSurvey.Extract
