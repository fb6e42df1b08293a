/-
  Carrying out a command line: what is printed, what is complained about, and the exit code.
-/
import CodeSurvey.Analysis.Result
import CodeSurvey.Command.Arguments
import CodeSurvey.Engine.Registry

namespace CodeSurvey.Command

open Analysis

/-- What a command leaves behind: two texts and an exit code, or a reason to break off. -/
structure Output where
  stdout : String := ""
  stderr : String := ""
  ending : Except String Nat

/-- Exit codes. -/
def exitSuccess : Nat := 0

/-- The exit code when something could not be analysed. -/
def exitFailed : Nat := 1

/-- The exit code when the command makes no sense. -/
def exitError : Nat := 2

/-- Complains about a failure. -/
def complaint (f : Failure) : Output :=
  { stderr := "Error: " ++ f.message ++ "\n", ending := .ok exitError }

/-- Prints a value. -/
def printed (v : Json) (compact : Bool) (success : Bool) : Output :=
  { stdout := (if compact then v.compact else v.pretty) ++ "\n",
    ending := .ok (if success then exitSuccess else exitFailed) }

/-! ## §1. Files of a directory -/

/-- Directories that are not looked into. -/
def skippedDirectories : List String :=
  ["node_modules", "target", "vendor", "__pycache__", "dist", "build"]

/-- Is a directory looked into? -/
def isEntered (name : String) : Bool :=
  name.toList.head? != some '.' && !skippedDirectories.contains name

/-- Is a name of a directory gone on with?  Directories that are not looked into are left out. -/
def isVisited (d : Files.Disk) (place : Files.Place) (name : String) : Bool :=
  d.entry? (place ++ [name]) != some .directory || isEntered name

/-- What is said when a directory cannot be listed. -/
def listingFault (text : String) (e : Files.ReadError) : String :=
  "IO error for operation on " ++ text ++ ": " ++ e.message

/-- The files at and below a place, by name, links not followed.  The first directory that cannot be
listed breaks off.  `depth` bounds the depth. -/
def filesBelow (d : Files.Disk) : Nat → Files.Place → String → Except String (List String)
  | 0, _, _ => .ok []
  | depth + 1, place, text =>
    match d.entry? place with
    | some (.file _) => .ok [text]
    | some .directory =>
      match d.list place with
      | .error e => .error (listingFault text e)
      | .ok names => do
        let found ← (names.filter (isVisited d place)).mapM fun name =>
          filesBelow d depth (place ++ [name]) (Files.Path.joinText text name)
        return found.flatten
    | _ => .ok []

/-- The files of a directory whose language can be told. -/
def collectFiles (d : Files.Disk) (e : Engine) (directory : String) : Except String (List String) :=
  match d.real? (Files.Path.ofText directory) with
  | none => .ok []
  | some place =>
    (filesBelow d (d.entries.length + 1) place directory).map fun files =>
      files.filter fun file => (e.detectLanguage (Files.Path.ofText file)).isSome

/-! ## §2. Analyses -/

/-- The request for a file.  Filters look at texts, so texts are asked for if there is one. -/
def AnalyzeOptions.request (o : AnalyzeOptions) (path : String) : Request :=
  { path := path, language := o.language, queries := o.queries, elements := !o.noElements,
    runQueries := !o.noQueries, complexity := !o.noComplexity,
    details := o.details || o.filter.isSome }

/-- Keeps the elements that satisfy the filter. -/
def AnalyzeOptions.narrow (o : AnalyzeOptions) (r : Result) : Except Filter.Error Result :=
  match o.filter with
  | none => .ok r
  | some expr =>
    (Engine.filterElements r expr).map fun kept =>
      r.withElements (if o.details then kept else kept.map Element.withoutText)

/-- Analyses one file. -/
def analyzeFile (h : Host) (e : Engine) (o : AnalyzeOptions) : Output :=
  match (Engine.analyze h e (o.request o.path)).1 with
  | .error f => complaint f
  | .ok result =>
    match o.narrow result with
    | .error err => { ending := .error err.message }
    | .ok result => printed (resultReport result) o.compact result.success

/-- Analyses files one after the other. -/
def analyzeAll (h : Host) (o : AnalyzeOptions) :
    Engine → List String → List (Except Failure Result)
  | _, [] => []
  | e, file :: rest =>
    let (outcome, e) := Engine.analyze h e (o.request file)
    outcome :: analyzeAll h o e rest

/-- Analyses the files of a directory.  Files that cannot be analysed are left out. -/
def analyzeDirectory (h : Host) (e : Engine) (o : AnalyzeOptions) (directory : String) : Output :=
  match collectFiles h.disk e directory with
  | .error message => { ending := .error message }
  | .ok [] =>
    { stderr := "Warning: no supported files under " ++ directory ++ "\n",
      ending := .ok exitSuccess }
  | .ok files =>
    let outcomes := analyzeAll h o e files
    let results := outcomes.filterMap Except.toOption
    match results.mapM o.narrow with
    | .error err => { ending := .error err.message }
    | .ok narrowed =>
      printed (.arr (narrowed.map resultReport)) o.compact
        (results.length == outcomes.length && results.all Result.success)

/-- Analyses a file or a directory. -/
def runAnalyze (h : Host) (e : Engine) (root : String) (o : AnalyzeOptions) : Output :=
  let directory := Files.Path.joinText root o.path
  if h.disk.isDirectory (Files.Path.ofText directory) then analyzeDirectory h e o directory
  else analyzeFile h e o

/-! ## §3. Queries and lists -/

/-- Runs a query on a file. -/
def runQuery (h : Host) (e : Engine) (o : QueryOptions) : Output :=
  let request : Request := { path := o.path, language := o.language }
  let (outcome, e) := match o.choice with
    | .raw text => Engine.runText h e request text
    | .named name => Engine.runNamed h e request name
  match outcome with
  | .error f => complaint f
  | .ok outcome =>
    match o.filter with
    | none => printed (queryReport outcome) o.compact outcome.success
    | some expr =>
      let language :=
        (request.explicitLanguage.or (e.detectLanguage (Files.Path.ofText o.path))).getD ""
      match Engine.filterCaptures outcome.captures language expr with
      | .error err => { ending := .error err.message }
      | .ok kept =>
        let narrowed : Query.Outcome := { outcome with result := outcome.result.map fun _ => kept }
        printed (queryReport narrowed) o.compact outcome.success

/-- Lists the languages. -/
def runLanguages (e : Engine) : Output :=
  { stdout := String.join (e.languages.map (· ++ "\n")), ending := .ok exitSuccess }

/-- Lists the queries for a language. -/
def runQueries (e : Engine) (language : String) : Output :=
  let language := Text.normalized language
  match e.queriesOf language with
  | [] =>
    { stderr := "Error: no queries for language " ++ Text.quoted language
        ++ "\nRun 'treesight languages' to see supported languages\n",
      ending := .ok exitError }
  | names =>
    printed
      (.arr (names.map fun name =>
        .obj [("name", .str name), ("description", .text? (e.describeQuery language name))]))
      false true

/-! ## §4. Commands -/

/-- Carries out a command line. -/
def run (h : Host) (i : Invocation) : Output :=
  let root := Registry.realRoot h.disk
    (i.root.getD (Files.Disk.pathOf h.disk.current).render)
  match Registry.getOrCreate h.disk {} (some root) with
  | (.error f, _) => complaint f
  | (.ok n, registry) =>
    match registry.engine? n with
    | none => { ending := .ok exitError }
    | some e =>
      match i.task with
      | .analyze o => runAnalyze h e root o
      | .query o => runQuery h e o
      | .languages => runLanguages e
      | .queries language => runQueries e language

end CodeSurvey.Command
