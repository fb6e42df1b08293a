/-
  Settings of a project: the size of the result store, languages for further file extensions,
  further queries, and the queries to run by default.  Every part may be left out.
-/
import CodeSurvey.Failure
import CodeSurvey.Files.Disk
import CodeSurvey.Text.Basic
import CodeSurvey.Text.Case
import CodeSurvey.Yaml.Decode

namespace CodeSurvey

/-- Settings of the result store. -/
structure StoreSettings where
  enabled : Bool := true
  capacity : Nat := 512
deriving DecidableEq

/-- Settings of a project. -/
structure Settings where
  store : StoreSettings := {}
  /-- Languages by file extension. -/
  extensions : NameMap String := []
  /-- Query texts by language, then by name. -/
  queries : NameMap (NameMap String) := []
  /-- Names of the queries to run by default, by language. -/
  defaultQueries : NameMap (List String) := []
deriving DecidableEq

namespace Settings

/-- An extension in normal spelling: trimmed, without leading dots, lower-cased. -/
def normalExtension (ext : String) : String :=
  String.ofList (Text.lower ((Text.trim ext.toList).dropWhile (· == '.')))

/-- The language that the settings give to an extension. -/
def languageOfExtension (s : Settings) (ext : String) : Option String :=
  s.extensions.find? (normalExtension ext)

/-! ## §1. Reading -/

/-- The parts of the store's settings that were given. -/
structure StoreParts where
  enabled : Option Bool := none
  capacity : Option Nat := none

/-- Reads the settings of the store. -/
def decodeStore : Yaml.Decoder StoreSettings :=
  fun d route pos =>
    (Yaml.decodeMapping "struct CacheConfig" "field identifier" ({} : StoreParts)
      (fun parts key => match key with
        | "enabled" => fun d route pos =>
          (Yaml.decodeOnce key parts.enabled Yaml.decodeTruth d route pos).map fun (b, next) =>
            ({ parts with enabled := some b }, next)
        | "max_entries" => fun d route pos =>
          (Yaml.decodeOnce key parts.capacity (Yaml.decodeCount "usize") d route pos).map
            fun (n, next) => ({ parts with capacity := some n }, next)
        | _ => fun d route pos =>
          (Yaml.decodeAnything d route pos).map fun (_, next) => (parts, next)) d route pos).map
      fun (parts, next) =>
        let default : StoreSettings := {}
        (⟨parts.enabled.getD default.enabled, parts.capacity.getD default.capacity⟩, next)

/-- The parts of the settings that were given. -/
structure Parts where
  store : Option StoreSettings := none
  extensions : Option (NameMap String) := none
  queries : Option (NameMap (NameMap String)) := none
  defaultQueries : Option (NameMap (List String)) := none

/-- Reads one part of the settings. -/
def decodePart (parts : Parts) (key : String) : Yaml.Decoder Parts :=
  fun d route pos =>
    match key with
    | "cache" =>
      (Yaml.decodeOnce key parts.store decodeStore d route pos).map fun (s, next) =>
        ({ parts with store := some s }, next)
    | "extensions" =>
      (Yaml.decodeOnce key parts.extensions (Yaml.decodeNameMap (Yaml.decodeText "a string"))
        d route pos).map fun (m, next) => ({ parts with extensions := some m }, next)
    | "queries" =>
      (Yaml.decodeOnce key parts.queries
        (Yaml.decodeNameMap (Yaml.decodeNameMap (Yaml.decodeText "a string"))) d route pos).map
        fun (m, next) => ({ parts with queries := some m }, next)
    | "default_queries" =>
      (Yaml.decodeOnce key parts.defaultQueries
        (Yaml.decodeNameMap (Yaml.decodeSequence (Yaml.decodeText "a string"))) d route pos).map
        fun (m, next) => ({ parts with defaultQueries := some m }, next)
    | _ => (Yaml.decodeAnything d route pos).map fun (_, next) => (parts, next)

/-- The settings made of the parts that were given; extensions get their normal spelling. -/
def Parts.settings (parts : Parts) : Settings :=
  { store := parts.store.getD {},
    extensions := NameMap.ofPairs
      ((parts.extensions.getD []).map fun (ext, language) => (normalExtension ext, language)),
    queries := parts.queries.getD [],
    defaultQueries := parts.defaultQueries.getD [] }

/-- Reads settings from a text.  A blank text leaves everything out. -/
def parse (text : String) : Except String Settings :=
  if Text.allBlank text.toList then .ok {}
  else
    match Yaml.decode
        (Yaml.decodeMapping "struct EngineConfig" "field identifier" ({} : Parts) decodePart) text with
    | .ok parts => .ok parts.settings
    | .error e => .error e.describe

/-! ## §2. Files -/

/-- The names of settings files, in the order in which they are looked for. -/
def fileNames : List String := ["treesight.yaml", ".treesight.yaml", "treesight.yml"]

/-- The settings file of a project. -/
def discover (d : Files.Disk) (root : String) : Option String :=
  (fileNames.map (Files.Path.joinText root)).find? fun p => d.isFile (Files.Path.ofText p)

/-- Reads a settings file. -/
def parseFile (d : Files.Disk) (path : String) : Except Failure Settings :=
  match d.read (Files.Path.ofText path) with
  | .error e => .error (.settings path e.message)
  | .ok bytes =>
    match Text.decode? bytes with
    | none => .error (.settings path "stream did not contain valid UTF-8")
    | some text =>
      match parse text with
      | .ok s => .ok s
      | .error message => .error (.settings path message)

/-- The settings of a project, empty if it has no settings file. -/
def loadForRoot (d : Files.Disk) (root : String) : Except Failure Settings :=
  match discover d root with
  | none => .ok {}
  | some path => parseFile d path

end Settings

end CodeSurvey
