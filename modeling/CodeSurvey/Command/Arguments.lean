/-
  Command lines: switches, operands and subcommands.  Words are read from left to right.  A switch
  that takes a value is settled when its value is known and something else follows, so of two faults
  the one that is met first is told.
-/
import CodeSurvey.Text.Basic

namespace CodeSurvey.Command

/-! ## §1. What can be written -/

/-- Why a command line is not carried out. -/
inductive UsageError where
  /-- Help was asked for. -/
  | help
  /-- Nothing at all was asked for. -/
  | nothingAsked
  /-- The version was asked for. -/
  | version
  | unknownSubcommand
  | missingSubcommand
  | unknownArgument
  | missingArgument
  /-- Two arguments exclude each other, or one is repeated. -/
  | conflict
  /-- A value is missing, or empty where it must not be. -/
  | badValue
  /-- A value was given to a switch that takes none. -/
  | unwantedValue
deriving DecidableEq

/-- The exit code for a command line that is not carried out. -/
def UsageError.exitCode : UsageError → Nat
  | .help => 0
  | .version => 0
  | _ => 2

/-- What a switch does. -/
inductive Effect where
  | flag
  | counted
  /-- Takes a value; `filled` if the value must not be empty. -/
  | value (filled : Bool)
  /-- Takes values separated by commas, and may be repeated. -/
  | values
  | help
  | version
deriving DecidableEq

/-- Does a switch take a value? -/
def Effect.takesValue : Effect → Bool
  | .value _ => true
  | .values => true
  | _ => false

/-- A switch with a long and perhaps a short name. -/
structure Switch where
  name : String
  short : Option Char := none
  effect : Effect := .flag

/-- What can be written at one level of the command line. -/
structure Level where
  switches : List Switch
  operand : Option Switch := none
  subcommands : List String := []

/-! ## §2. Reading one level -/

/-- What has been read. -/
structure Progress where
  /-- Names and values that are settled. -/
  settled : List (String × List String) := []
  /-- The latest switch or operand that takes a value, with its value if that is known. -/
  pending : Option (Switch × List String) := none
  /-- Is the next word the value of the pending switch? -/
  awaiting : Bool := false
  /-- Was there a double dash, after which all words are operands? -/
  trailing : Bool := false
  operandTaken : Bool := false

namespace Progress

/-- The values settled for a name. -/
def values? (p : Progress) (name : String) : Option (List String) := p.settled.lookup name

/-- Settles a name with values. -/
def set (p : Progress) (name : String) (values : List String) : Progress :=
  { p with settled := p.settled.filter (·.1 != name) ++ [(name, values)] }

/-- Carries out a switch. -/
def carryOut (p : Progress) (s : Switch) (values : List String) : Except UsageError Progress :=
  match s.effect with
  | .help => .error .help
  | .version => .error .version
  | .counted => .ok (p.set s.name ("" :: (p.values? s.name).getD []))
  | .flag => if (p.values? s.name).isSome then .error .conflict else .ok (p.set s.name [])
  | .value filled =>
    if values.isEmpty then .error .badValue
    else if (p.values? s.name).isSome then .error .conflict
    else if filled && values.contains "" then .error .badValue
    else .ok (p.set s.name values)
  | .values =>
    if values.isEmpty then .error .badValue
    else
      let pieces := values.flatMap fun v =>
        (Text.splitAll (· == ',') v.toList).map String.ofList
      .ok (p.set s.name ((p.values? s.name).getD [] ++ pieces))

/-- Settles what is pending. -/
def settle (p : Progress) : Except UsageError Progress :=
  match p.pending with
  | none => .ok p
  | some (s, values) => ({ p with pending := none } : Progress).carryOut s values

/-- Takes a switch that stands alone or carries its value. -/
def take (p : Progress) (s : Switch) (attached : Option String) : Except UsageError Progress := do
  if s.effect.takesValue then
    let p ← p.settle
    match attached with
    | some v => ({ p with awaiting := false } : Progress).carryOut s [v]
    | none => .ok { p with pending := some (s, []), awaiting := true }
  else
    match attached with
    | some _ => .error .unwantedValue
    | none =>
      let p ← p.settle
      ({ p with awaiting := false } : Progress).carryOut s []

end Progress

namespace Level

/-- Reads a word of short switches. -/
def readShort (l : Level) (p : Progress) : List Char → Except UsageError Progress
  | [] => .ok p
  | c :: cs =>
    match l.switches.find? (·.short == some c) with
    | none => .error .unknownArgument
    | some s =>
      if s.effect.takesValue then
        match cs with
        | [] => p.take s none
        | '=' :: v => p.take s (some (String.ofList v))
        | v => p.take s (some (String.ofList v))
      else
        match p.take s none with
        | .error e => .error e
        | .ok p => l.readShort p cs

/-- Reads a long switch, perhaps with a value behind an equals sign. -/
def readLong (l : Level) (p : Progress) (word : List Char) : Except UsageError Progress :=
  let (name, attached) := match Text.splitFirst (· == '=') word with
    | some (name, value) => (name, some (String.ofList value))
    | none => (word, none)
  match l.switches.find? (·.name == String.ofList name) with
  | none => .error .unknownArgument
  | some s => p.take s attached

/-- Reads an operand. -/
def readOperand (l : Level) (p : Progress) (word : String) : Except UsageError Progress := do
  match l.operand with
  | some s =>
    if p.operandTaken then .error .unknownArgument
    else
      let p ← p.settle
      .ok { p with pending := some (s, [word]), awaiting := false, operandTaken := true }
  | none =>
    if l.subcommands.isEmpty || (p.trailing && l.subcommands.contains word) then
      .error .unknownArgument
    else .error .unknownSubcommand

/-- Reads words up to a subcommand, which is given together with the words after it. -/
def read (l : Level) (p : Progress) :
    List String → Except UsageError (Progress × Option (String × List String))
  | [] => .ok (p, none)
  | word :: rest =>
    if p.trailing then
      match l.readOperand p word with
      | .error e => .error e
      | .ok p => l.read p rest
    else if !p.awaiting && l.subcommands.contains word then .ok (p, some (word, rest))
    else
      match word.toList with
      | ['-', '-'] => l.read { p with trailing := true } rest
      | '-' :: '-' :: long =>
        match l.readLong p long with
        | .error e => .error e
        | .ok p => l.read p rest
      | '-' :: c :: cs =>
        match l.readShort p (c :: cs) with
        | .error e => .error e
        | .ok p => l.read p rest
      | _ =>
        if p.awaiting then
          l.read
            { p with pending := p.pending.map fun x => (x.1, x.2 ++ [word]), awaiting := false } rest
        else
          match l.readOperand p word with
          | .error e => .error e
          | .ok p => l.read p rest

end Level

/-! ## §3. The commands -/

/-- What the analysis command was told. -/
structure AnalyzeOptions where
  path : String
  language : Option String := none
  queries : Option (List String) := none
  filter : Option String := none
  noElements : Bool := false
  noQueries : Bool := false
  noComplexity : Bool := false
  details : Bool := false
  compact : Bool := false

/-- Which query to run. -/
inductive QueryChoice where
  | named (name : String)
  | raw (text : String)

/-- What the query command was told. -/
structure QueryOptions where
  path : String
  choice : QueryChoice
  language : Option String := none
  filter : Option String := none
  compact : Bool := false

/-- What to do. -/
inductive Task where
  | analyze (options : AnalyzeOptions)
  | query (options : QueryOptions)
  | languages
  | queries (language : String)

/-- A command line that can be carried out. -/
structure Invocation where
  root : Option String := none
  verbosity : Nat := 0
  task : Task

/-- Switches that are known at every level. -/
def sharedSwitches : List Switch :=
  [⟨"root", some 'r', .value true⟩, ⟨"verbose", some 'v', .counted⟩, ⟨"help", some 'h', .help⟩]

/-- The names of the commands. -/
def taskNames : List String := ["analyze", "query", "languages", "queries"]

/-- The outermost level. -/
def outerLevel : Level :=
  { switches := sharedSwitches ++ [⟨"version", some 'V', .version⟩],
    subcommands := taskNames ++ ["help"] }

/-- The level of a command. -/
def taskLevel (name : String) : Level :=
  match name with
  | "analyze" =>
    { switches := sharedSwitches ++
        [⟨"language", some 'l', .value false⟩, ⟨"queries", some 'q', .values⟩,
         ⟨"filter", some 'f', .value false⟩, ⟨"no-elements", none, .flag⟩,
         ⟨"no-queries", none, .flag⟩, ⟨"no-complexity", none, .flag⟩, ⟨"details", none, .flag⟩,
         ⟨"compact", none, .flag⟩],
      operand := some ⟨"PATH", none, .value true⟩ }
  | "query" =>
    { switches := sharedSwitches ++
        [⟨"name", some 'n', .value false⟩, ⟨"raw", none, .value false⟩,
         ⟨"language", some 'l', .value false⟩, ⟨"filter", some 'f', .value false⟩,
         ⟨"compact", none, .flag⟩],
      operand := some ⟨"PATH", none, .value true⟩ }
  | "queries" =>
    { switches := sharedSwitches, operand := some ⟨"LANGUAGE", none, .value false⟩ }
  | _ => { switches := sharedSwitches }

/-- The value of a name. -/
def Progress.value? (p : Progress) (name : String) : Option String :=
  (p.values? name).bind List.head?

/-- Was a flag given? -/
def Progress.has (p : Progress) (name : String) : Bool := (p.values? name).isSome

/-- The value of a name that must be given. -/
def Progress.required (p : Progress) (name : String) : Except UsageError String :=
  match p.value? name with
  | some v => .ok v
  | none => .error .missingArgument

/-- The task of a command with what was read. -/
def taskOf (name : String) (p : Progress) : Except UsageError Task :=
  match name with
  | "analyze" => do
    return .analyze
      { path := ← p.required "PATH", language := p.value? "language", queries := p.values? "queries",
        filter := p.value? "filter", noElements := p.has "no-elements",
        noQueries := p.has "no-queries", noComplexity := p.has "no-complexity",
        details := p.has "details", compact := p.has "compact" }
  | "query" => do
    let choice ← match p.value? "name", p.value? "raw" with
      | some _, some _ => .error .conflict
      | some name, none => .ok (QueryChoice.named name)
      | none, some text => .ok (QueryChoice.raw text)
      | none, none => .error .missingArgument
    return .query
      { path := ← p.required "PATH", choice := choice, language := p.value? "language",
        filter := p.value? "filter", compact := p.has "compact" }
  | "queries" => do return .queries (← p.required "LANGUAGE")
  | _ => .ok .languages

/-- Help on a command. -/
def helpOn : List String → UsageError
  | [] => .help
  | [name] => if outerLevel.subcommands.contains name then .help else .unknownSubcommand
  | _ => .unknownSubcommand

/-- Reads a command line.  A shared switch counts most where it stands last. -/
def Invocation.parse (words : List String) : Except UsageError Invocation := do
  let (outer, command) ← outerLevel.read {} words
  match command with
  | some ("help", rest) => .error (helpOn rest)
  | some (name, rest) =>
    let (inner, _) ← (taskLevel name).read {} rest
    let inner ← inner.settle
    let task ← taskOf name inner
    let outer ← outer.settle
    return { root := (inner.value? "root").or (outer.value? "root"),
             verbosity := (((inner.values? "verbose").or (outer.values? "verbose")).getD []).length,
             task := task }
  | none =>
    let outer ← outer.settle
    .error (if outer.settled.isEmpty then .nothingAsked else .missingSubcommand)

end CodeSurvey.Command
