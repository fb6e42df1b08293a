/-
  Filter expressions: clauses separated by commas, all of which must hold.  Blank clauses are left
  out, so the empty expression keeps everything.  A clause says what it is, how it is read from
  `key=value`, how it is described, and which results it accepts.
-/
import CodeSurvey.Filter.Declared
import CodeSurvey.Glob.Parse
import CodeSurvey.Text.Case
import CodeSurvey.Text.Decimal
import CodeSurvey.Text.Quoted

namespace CodeSurvey.Filter

/-! ## §1. Clauses -/

/-- The keywords whose presence can be asked for. -/
inductive Modifier where
  | stat
  | pub
  | priv
  | prot
deriving DecidableEq

/-- The spelling of a modifier. -/
def Modifier.keyword : Modifier → String
  | .stat => "static"
  | .pub => "public"
  | .priv => "private"
  | .prot => "protected"

/-- All modifiers. -/
def Modifier.all : List Modifier := [.stat, .pub, .priv, .prot]

/-- The modifier of a given spelling. -/
def Modifier.ofKeyword? (key : String) : Option Modifier :=
  Modifier.all.find? (·.keyword == key)

/-- One condition. -/
inductive Clause where
  /-- The name is this text. -/
  | nameIs (name : String)
  /-- The name matches this glob. -/
  | nameLike (source : String) (glob : Glob.Pattern)
  /-- The first argument list has this many entries. -/
  | parameters (count : Nat)
  /-- The keyword occurs, or does not occur, in the text. -/
  | modifier (keyword : Modifier) (present : Bool)
  /-- An unknown key, which accepts everything. -/
  | ignored (key value : String)

/-- A clause in words. -/
def Clause.describe : Clause → String
  | .nameIs name => "name equals " ++ Text.quoted name
  | .nameLike source _ => "name matches " ++ Text.quoted source
  | .parameters n => toString n ++ " parameter(s)"
  | .modifier m present => (if present then "has " else "lacks ") ++ m.keyword
  | .ignored key value => "ignored " ++ key ++ "=" ++ value

/-- Does a clause look at the text of a result and not only at its name? -/
def Clause.readsText : Clause → Bool
  | .parameters _ => true
  | .modifier _ _ => true
  | _ => false

/-! ## §2. Errors -/

/-- Why a filter gives no answer. -/
inductive Error where
  /-- A clause without a key or without an equals sign. -/
  | malformed (clause : String)
  | badCount (value : String)
  | badTruth (key value : String)
  | badGlob (pattern : String) (fault : Glob.Fault)
  /-- A clause reads the text of a result that carries none. -/
  | missingText (clause name : String)
deriving DecidableEq

/-- An error in words. -/
def Error.message : Error → String
  | .malformed clause => "malformed filter clause " ++ Text.quoted clause ++ " (expected key=value)"
  | .badCount value => "params expects a non-negative integer, got " ++ Text.quoted value
  | .badTruth key value => key ++ " expects true or false, got " ++ Text.quoted value
  | .badGlob pattern fault =>
    "invalid name pattern " ++ Text.quoted pattern ++ ": " ++ fault.report pattern
  | .missingText clause name =>
    clause ++ " needs source text, which " ++ Text.quoted name
      ++ " does not carry (analyze with details)"

/-! ## §3. Reading a clause -/

/-- Reads the value of a `name` clause: a glob after a tilde, otherwise the name itself. -/
def readName (value : List Char) : Except Error Clause :=
  match value with
  | '~' :: pattern =>
    let pattern := Text.trim pattern
    match Glob.parse pattern with
    | .ok glob => .ok (.nameLike (String.ofList pattern) glob)
    | .error fault => .error (.badGlob (String.ofList pattern) fault)
  | value => .ok (.nameIs (String.ofList value))

/-- Reads the value of a clause whose key is trimmed and lower-cased. -/
def readValue (key : String) (value : List Char) : Except Error Clause :=
  if key = "name" then readName value
  else if key = "params" then
    match Text.readCount? value with
    | some n => .ok (.parameters n)
    | none => .error (.badCount (String.ofList value))
  else
    match Modifier.ofKeyword? key with
    | some m =>
      match String.ofList (Text.lower value) with
      | "true" => .ok (.modifier m true)
      | "false" => .ok (.modifier m false)
      | _ => .error (.badTruth key (String.ofList value))
    | none => .ok (.ignored key (String.ofList value))

/-- Reads a clause from trimmed text. -/
def readClause (text : List Char) : Except Error Clause :=
  match Text.splitFirst (· == '=') text with
  | none => .error (.malformed (String.ofList text))
  | some (key, value) =>
    let key := String.ofList (Text.lower (Text.trim key))
    if key.isEmpty then .error (.malformed (String.ofList text))
    else readValue key (Text.trim value)

/-! ## §4. What a clause accepts -/

/-- What a filter sees of a result. -/
inductive Subject where
  /-- A piece of source text, whose name is found in it. -/
  | snippet (text : String)
  /-- A declaration with its name; its text may have been left out. -/
  | declaration (name text : String)

/-- The text of a result. -/
def Subject.text : Subject → String
  | .snippet text => text
  | .declaration _ text => text

/-- The name of a result in `language`. -/
def Subject.name? (language : String) : Subject → Option String
  | .snippet text => declaredName text language
  | .declaration name _ => some name

/-- Can clauses that read text be answered? -/
def Subject.hasText : Subject → Bool
  | .snippet _ => true
  | .declaration _ text => !text.isEmpty

/-- Does a clause accept a result of `language`? -/
def Clause.accepts (clause : Clause) (language : String) (subject : Subject) : Bool :=
  match clause with
  | .nameIs name => subject.name? language == some name
  | .nameLike _ glob => (subject.name? language).any fun name => Glob.accepts glob name.toList
  | .parameters n => countParameters subject.text.toList == n
  | .modifier m present => Text.contains m.keyword.toList subject.text.toList == present
  | .ignored _ _ => true

/-! ## §5. Expressions -/

/-- A list of conditions. -/
abbrev Expr := List Clause

/-- The pieces of an expression between commas, trimmed, without the blank ones. -/
def clauseTexts (expr : List Char) : List (List Char) :=
  ((Text.splitAll (· == ',') expr).map Text.trim).filter fun t => !t.isEmpty

/-- Reads an expression; the first clause at fault decides the error. -/
def Expr.parse (expr : String) : Except Error Expr :=
  (clauseTexts expr.toList).mapM readClause

/-- The clauses in words. -/
def Expr.summary (expr : Expr) : List String :=
  expr.map Clause.describe

/-- Does a result of `language` satisfy all clauses? -/
def Expr.accepts (expr : Expr) (language : String) (subject : Subject) : Bool :=
  expr.all fun clause => clause.accepts language subject

/-- The first clause that reads text together with the first result that carries none. -/
def Expr.missingText? (expr : Expr) (language : String) (view : α → Subject) (items : List α) :
    Option Error :=
  match expr.find? Clause.readsText, items.find? fun item => !(view item).hasText with
  | some clause, some item =>
    some (.missingText clause.describe (((view item).name? language).getD ""))
  | _, _ => none

/-- The results of `language` that satisfy the expression `source`, in their order. -/
def keep (language : String) (view : α → Subject) (items : List α) (source : String) :
    Except Error (List α) :=
  match Expr.parse source with
  | .error e => .error e
  | .ok expr =>
    let language := Text.normalized language
    match expr.missingText? language view items with
    | some e => .error e
    | none => .ok (items.filter fun item => expr.accepts language (view item))

end CodeSurvey.Filter
