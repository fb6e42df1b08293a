/-
  The engine: from a request to a result.

      request → path check → source → language → store ┬→ kept result
                                                       └→ tree → elements → queries → store

  The caller's mistakes (a path that may not be used, a file that is not there, a language nobody
  knows) are failures.  Whatever goes wrong after that becomes a result with a message.
-/
import CodeSurvey.Analysis.Request
import CodeSurvey.Analysis.Result
import CodeSurvey.Extract.Plugin
import CodeSurvey.Files.Guard
import CodeSurvey.Filter.Expr
import CodeSurvey.Settings
import CodeSurvey.Store
import CodeSurvey.Syntax.Cursor
import CodeSurvey.Timing

namespace CodeSurvey

open Analysis Extract Syntax

/-- What an engine works with and cannot change: a disk and a parser. -/
structure Host where
  disk : Files.Disk
  parser : Syntax.Parser

/-- The state of an engine. -/
structure Engine where
  root : Option String
  settings : Settings
  /-- The guard, once a path has been checked. -/
  guard : Option Files.Guard := none
  grammars : Grammars := []
  plugins : Plugins := Plugins.builtin
  session : Query.Session
  /-- Compiled queries of the plugins. -/
  memo : Query.Memo := []
  store : Store Result
  timings : Timings := []
  closed : Bool := false

namespace Engine

/-! ## §1. Making an engine -/

/-- The queries at hand and those of the settings. -/
def catalogOf (settings : Settings) : Query.Catalog :=
  settings.queries.foldl
    (fun c entry => entry.2.foldl (fun c q => c.add entry.1 q.1 q.2 none) c) Query.Catalog.builtin

/-- A new engine with given settings. -/
def new (root : Option String) (settings : Settings) : Engine :=
  { root := root, settings := settings,
    session := { catalog := catalogOf settings },
    store := Store.ofCapacity settings.store.capacity settings.store.enabled }

/-- A new engine with the settings found at the root. -/
def ofRoot (d : Files.Disk) (root : Option String) : Except Failure Engine :=
  match root with
  | none => .ok (new none {})
  | some text => (Settings.loadForRoot d text).map (new root)

/-! ## §2. Parts of an analysis -/

/-- Counts a run of a measured step.  The clock stands still during a step. -/
def measured (e : Engine) (name : String) : Engine :=
  { e with timings := e.timings.record name 0 }

/-- Checks a path.  The guard is made when the first path is checked. -/
def checkPath (e : Engine) (d : Files.Disk) (text : String) : Except Failure Files.Path × Engine :=
  let guard := e.guard.getD (Files.Guard.ofRoot d e.root)
  (guard.check d text, { e with guard := some guard })

/-- The language that a path's extension stands for: plugins first, then grammars, then settings. -/
def detectLanguage (e : Engine) (path : Files.Path) : Option String :=
  path.extension?.bind fun ext =>
    ((e.plugins.languageOfExtension ext).or (languageOfExtension ext)).or
      (e.settings.languageOfExtension ext)

/-- The language reported when nothing tells it. -/
def unknownLanguage : String := "unknown"

/-- The language of a request: the one asked for, else by extension. -/
def resolveLanguage (e : Engine) (r : Request) (path : Files.Path) : Except Failure String :=
  let language := (r.explicitLanguage.or (e.detectLanguage path)).getD unknownLanguage
  if e.plugins.contains language || e.grammars.supports language then .ok language
  else .error (.unsupportedLanguage language)

/-- The source of a request: the text that came with it, else the file's, with anything that is no
text replaced.  A file that is there and cannot be read gives a message. -/
def loadSource (d : Files.Disk) (r : Request) (path : Files.Path) :
    Except Failure (Except String String) :=
  match r.source with
  | some source => .ok (.ok source)
  | none =>
    if d.isThere path then
      match d.read path with
      | .ok bytes => .ok (.ok (Text.decodeLossy bytes))
      | .error e => .ok (.error ("failed to read file: " ++ e.message))
    else .error (.fileNotFound path.render)

/-- The queries to run for a request. -/
def queryNames (e : Engine) (r : Request) (language : String) (plugin : Plugin) : List String :=
  match r.queries with
  | some names => names
  | none => (e.settings.defaultQueries.find? language).getD plugin.defaultQueries

/-- Leaves out of an element what was not asked for. -/
def trimElement (r : Request) (element : Element) : Element :=
  let element := if r.complexity then element else element.withoutComplexity
  if r.details then element else element.withoutText

/-- What queries run on. -/
def target (p : Parsed) : Query.Session.Target := ⟨some p.tree, some p.dialect, p.tree.source⟩

/-- The elements of a parsed file, if they were asked for. -/
def findElements (e : Engine) (r : Request) (plugin : Plugin) (p : Parsed) :
    Except Failure (List Element) × Engine :=
  if r.elements then
    let e := e.measured "extract"
    match (plugin.extract p).run e.memo with
    | (.ok elements, memo) => (.ok (elements.map (trimElement r)), { e with memo := memo })
    | (.error message, memo) => (.error (.internal message), { e with memo := memo })
  else (.ok [], e)

/-- The outcomes of the queries, if they were asked for. -/
def runQueries (e : Engine) (r : Request) (names : List String) (p : Parsed) :
    NameMap Query.Outcome × Engine :=
  if r.runQueries then
    let e := e.measured "queries"
    let (outcomes, session) := e.session.runAll (target p) names
    (outcomes, { e with session := session })
  else ([], e)

/-- Finds what was asked for in a source. -/
def survey (h : Host) (e : Engine) (r : Request) (path source language : String) :
    Except Failure Findings × Engine :=
  let plugin := e.plugins.resolve language
  let e := e.measured "parse"
  match e.grammars.parse h.parser source language path with
  | .error f => (.error f, e)
  | .ok p =>
    match e.findElements r plugin p with
    | (.error f, e) => (.error f, e)
    | (.ok elements, e) =>
      let (queries, e) := e.runQueries r (e.queryNames r language plugin) p
      (.ok
        { lineCount := p.tree.lineCount, nodeCount := p.tree.nodeCount, elements := elements,
          queries := queries, hasSyntaxErrors := p.tree.hasError },
       e)

/-! ## §3. Analyses -/

/-- The key under which a result is kept. -/
def keyOf (r : Request) (path source language : String) : String :=
  (Fingerprint.ofRequest path (Text.octets source.toList) language r).key

/-- Answers a request from the store, or anew. -/
def answer (h : Host) (e : Engine) (r : Request) (path source language : String) :
    Result × Engine :=
  let key := keyOf r path source language
  match e.store.get key with
  | (some result, store) => (result, { e with store := store })
  | (none, store) =>
    match survey h { e with store := store } r path source language with
    | (.ok findings, e) =>
      let result : Result := ⟨path, language, r.format, .ok findings⟩
      (result, { e with store := e.store.set key result })
    | (.error f, e) => (⟨path, language, r.format, .error f.message⟩, e)

/-- Analyses a file. -/
def analyze (h : Host) (e : Engine) (r : Request) : Except Failure Result × Engine :=
  match (e.measured "analyze").checkPath h.disk r.path with
  | (.error f, e) => (.error f, e)
  | (.ok path, e) =>
    match loadSource h.disk r path with
    | .error f => (.error f, e)
    | .ok (.error message) =>
      (.ok ⟨path.render, r.explicitLanguage.getD unknownLanguage, r.format, .error message⟩, e)
    | .ok (.ok source) =>
      match e.resolveLanguage r path with
      | .error f => (.error f, e)
      | .ok language =>
        let (result, e) := answer h e r path.render source language
        (.ok result, e)

/-- The name of a text that comes without one. -/
def snippetName : String := "snippet"

/-- Analyses a text. -/
def analyzeCode (h : Host) (e : Engine) (code language : String) (name : Option String) :
    Except Failure Result × Engine :=
  analyze h e
    { path := name.getD snippetName, language := some language, source := some code }

/-! ## §4. Queries -/

/-- A request for one query alone. -/
def queryRequest (r : Request) (name : String) : Request :=
  { r with queries := some [name], runQueries := true, elements := false }

/-- Runs one catalog query.  A result without findings becomes a failed query. -/
def runNamed (h : Host) (e : Engine) (r : Request) (name : String) :
    Except Failure Query.Outcome × Engine :=
  match analyze h e (queryRequest r name) with
  | (.error f, e) => (.error f, e)
  | (.ok result, e) =>
    (.ok ((result.queries.find? name).getD
      ⟨name, .error (result.error?.getD "query was not executed")⟩), e)

/-- Runs a query text.  The store is not asked, and nothing is kept. -/
def runText (h : Host) (e : Engine) (r : Request) (query : String) :
    Except Failure Query.Outcome × Engine :=
  let failed (message : String) : Query.Outcome := ⟨Query.customName, .error message⟩
  match e.checkPath h.disk r.path with
  | (.error f, e) => (.error f, e)
  | (.ok path, e) =>
    match loadSource h.disk r path with
    | .error f => (.error f, e)
    | .ok (.error message) => (.ok (failed message), e)
    | .ok (.ok source) =>
      match e.resolveLanguage r path with
      | .error f => (.error f, e)
      | .ok language =>
        match e.grammars.parse h.parser source language path.render with
        | .error f => (.ok (failed f.message), e)
        | .ok p =>
          let (outcome, session) := e.session.runText (target p) query
          (.ok outcome, { e with session := session })

/-! ## §5. Filters -/

/-- The captures of a query that satisfy an expression. -/
def filterCaptures (captures : List Query.Capture) (language expr : String) :
    Except Filter.Error (List Query.Capture) :=
  Filter.keep language (fun c => .snippet c.text) captures expr

/-- The elements of a result that satisfy an expression. -/
def filterElements (result : Result) (expr : String) : Except Filter.Error (List Element) :=
  Filter.keep result.language (fun e => .declaration e.name e.text) result.elements expr

/-! ## §6. Upkeep -/

/-- Empties the store. -/
def clearStore (e : Engine) : Engine := { e with store := e.store.clear }

/-- The languages that have a plugin or a grammar, sorted. -/
def languages (e : Engine) : List String :=
  NameMap.sortNames (e.plugins.languages ++ e.grammars.languages)

/-- The names of the queries for a language. -/
def queriesOf (e : Engine) (language : String) : List String := e.session.catalog.names language

/-- The description of a query. -/
def describeQuery (e : Engine) (language name : String) : Option String :=
  e.session.catalog.describe language name

/-- Registers the plugin of a language, and its grammar if it brings one.  Results kept so far may
come from the plugin before, so the store is emptied. -/
def register (e : Engine) (language : String) (p : Plugin) : Engine :=
  { e with
    grammars := match p.grammar with
      | some g => e.grammars.register language g
      | none => e.grammars,
    plugins := e.plugins.register language p,
    store := e.store.clear }

/-- Sets the counts of queries to zero. -/
def resetQueryCounts (e : Engine) : Engine := { e with session := e.session.resetCounts }

/-- Gives up what was kept.  Only the first call does something. -/
def cleanup (e : Engine) : Engine :=
  if e.closed then e
  else
    { e with
      closed := true, store := e.store.clear, session := e.session.forgetCompiled, timings := [] }

end Engine

end CodeSurvey
