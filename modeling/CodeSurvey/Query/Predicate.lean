/-
  Predicates: conditions on the texts of captured nodes.  Comparison, regular expressions and lists
  of words decide; properties are checked for their form only; unknown predicates are ignored.

  The texts may come from a source that is shorter than the tree.  Then there are nodes without a
  text, and a condition that needs one cannot be decided.
-/
import CodeSurvey.Query.Pattern
import CodeSurvey.Regex.Parse
import CodeSurvey.Text.Basic

namespace CodeSurvey.Query

open Syntax

/-! ## §1. Predicates as written -/

/-- An argument of a predicate. -/
inductive Argument where
  | capture (name : String)
  | literal (text : String)

/-- A predicate as it stands in a query. -/
structure PredicateCall where
  operator : String
  arguments : List Argument

/-- What is wrong with a predicate. -/
inductive PredicateFault where
  /-- Not as many arguments as there should be. -/
  | count (operator expected : String) (given : Nat)
  | firstNotCapture (operator literal : String)
  | secondNotLiteral (operator capture : String)
  | notLiteral (operator capture : String)
  | badRegex (pattern : String)
  | secondCapture (operator capture : String)
  | thirdArgument (operator text : String)
  | missingKey (operator : String)
deriving DecidableEq

/-- The fault in words. -/
def PredicateFault.message : PredicateFault → String
  | .count op expected given =>
    "Wrong number of arguments to " ++ op ++ " predicate. Expected " ++ expected ++ ", got "
      ++ toString given ++ "."
  | .firstNotCapture op text =>
    "First argument to " ++ op ++ " predicate must be a capture name. Got literal \"" ++ text ++ "\"."
  | .secondNotLiteral op name =>
    "Second argument to " ++ op ++ " predicate must be a literal. Got capture @" ++ name ++ "."
  | .notLiteral op name =>
    "Arguments to " ++ op ++ " predicate must be literals. Got capture @" ++ name ++ "."
  | .badRegex pattern => "Invalid regex '" ++ pattern ++ "'"
  | .secondCapture op name =>
    "Invalid arguments to " ++ op ++ " predicate. Unexpected second capture name @" ++ name
  | .thirdArgument op text =>
    "Invalid arguments to " ++ op ++ " predicate. Unexpected third argument @" ++ text
  | .missingKey op => "Invalid arguments to " ++ op ++ " predicate. Missing key argument"

/-! ## §2. Predicates as meant -/

/-- A condition.  `positive` says whether a node must or must not pass; `every` whether all nodes
of the capture must do so or one is enough. -/
inductive Predicate where
  | sameText (a b : String) (positive every : Bool)
  | isText (capture text : String) (positive every : Bool)
  | isLike (capture : String) (regex : Regex) (positive every : Bool)
  | isOneOf (capture : String) (texts : List String) (positive : Bool)

/-- Two arguments, of which the first is a capture. -/
def twoArguments (op : String) (arguments : List Argument) :
    Except PredicateFault (String × Argument) :=
  match arguments with
  | [.capture name, second] => .ok (name, second)
  | [.literal text, _] => .error (.firstNotCapture op text)
  | arguments => .error (.count op "2" arguments.length)

/-- Literals only. -/
def literals (op : String) : List Argument → Except PredicateFault (List String)
  | [] => .ok []
  | .capture name :: _ => .error (.notLiteral op name)
  | .literal text :: rest => (literals op rest).map (text :: ·)

/-- Checks the arguments of a property: a key, perhaps a value, perhaps a capture. -/
def checkProperty (op : String) (hasCapture hasKey hasValue : Bool) :
    List Argument → Except PredicateFault Unit
  | [] => if hasKey then .ok () else .error (.missingKey op)
  | .capture name :: rest =>
    if hasCapture then .error (.secondCapture op name)
    else checkProperty op true hasKey hasValue rest
  | .literal text :: rest =>
    if !hasKey then checkProperty op hasCapture true hasValue rest
    else if !hasValue then checkProperty op hasCapture hasKey true rest
    else .error (.thirdArgument op text)

/-- The meaning of a predicate; `none` for one that has no influence on matches. -/
def PredicateCall.resolve (call : PredicateCall) : Except PredicateFault (Option Predicate) :=
  let positive := call.operator == "eq?" || call.operator == "any-eq?" || call.operator == "match?"
    || call.operator == "any-match?" || call.operator == "any-of?"
  let every := !(call.operator.startsWith "any-")
  match call.operator with
  | "eq?" | "not-eq?" | "any-eq?" | "any-not-eq?" =>
    (twoArguments "#eq?" call.arguments).map fun
      | (name, .capture other) => some (.sameText name other positive every)
      | (name, .literal text) => some (.isText name text positive every)
  | "match?" | "not-match?" | "any-match?" | "any-not-match?" =>
    match twoArguments "#match?" call.arguments with
    | .error fault => .error fault
    | .ok (_, .capture other) => .error (.secondNotLiteral "#match?" other)
    | .ok (name, .literal text) =>
      match Regex.parse? text with
      | some regex => .ok (some (.isLike name regex positive every))
      | none => .error (.badRegex text)
  | "any-of?" | "not-any-of?" =>
    match call.arguments with
    | [] => .error (.count "#any-of?" "at least 1" 0)
    | .literal text :: _ => .error (.firstNotCapture "#any-of?" text)
    | .capture name :: rest =>
      (literals "#any-of?" rest).map fun texts => some (.isOneOf name texts positive)
  | "set!" | "is?" | "is-not?" =>
    if call.arguments.isEmpty || call.arguments.length > 3 then
      .error (.count call.operator "1 to 3" call.arguments.length)
    else (checkProperty call.operator false false false call.arguments).map fun _ => none
  | _ => .ok none

/-! ## §3. Deciding -/

/-- The nodes that a match captures under a name. -/
def nodesNamed (b : Bindings) (name : String) : List Tree :=
  (b.filter (·.1 == name)).map (·.2.tree)

/-- The octets of a node in a source; `none` if the source ends before the node does. -/
def nodeOctets? (source : List UInt8) (t : Tree) : Option (List UInt8) :=
  if t.stop ≤ source.length then some ((source.drop t.start).take (t.stop - t.start)) else none

/-- Do the nodes agree with what is asked for?  They are looked at one by one until that is decided;
`none` if a node comes up whose text is not there.  If one node is enough and none agrees, the answer
is `otherwise`. -/
def judge (positive every otherwise : Bool) : List (Option Bool) → Option Bool
  | [] => some otherwise
  | none :: _ => none
  | some outcome :: rest =>
    if every && outcome != positive then some false
    else if !every && outcome == positive then some true
    else judge positive every otherwise rest

/-- Does a match satisfy a condition, the texts being those of `source`?  `none` if a text is needed
that is not there. -/
def Predicate.verdict (source : List UInt8) (b : Bindings) : Predicate → Option Bool
  | .sameText x y positive every =>
    let xs := nodesNamed b x
    let ys := nodesNamed b y
    judge positive every (xs.length == ys.length) ((xs.zip ys).map fun (x, y) =>
      (nodeOctets? source x).bind fun octets => (nodeOctets? source y).map (octets == ·))
  | .isText name text positive every =>
    judge positive every true ((nodesNamed b name).map fun t =>
      (nodeOctets? source t).map (· == Text.octets text.toList))
  | .isLike name regex positive every =>
    judge positive every true ((nodesNamed b name).map fun t =>
      (nodeOctets? source t).map fun octets => regex.occursIn (Text.decodeLossy octets).toList)
  | .isOneOf name texts positive =>
    judge positive true true ((nodesNamed b name).map fun t =>
      (nodeOctets? source t).map fun octets =>
        texts.any fun text => octets == Text.octets text.toList)

/-- Is a match known to satisfy a condition? -/
def Predicate.holds (source : List UInt8) (b : Bindings) (p : Predicate) : Bool :=
  p.verdict source b == some true

/-- Do conditions, taken in their order until one fails, ask for a text that is not there? -/
def readBeyond (source : List UInt8) (b : Bindings) : List Predicate → Bool
  | [] => false
  | p :: ps =>
    match p.verdict source b with
    | none => true
    | some false => false
    | some true => readBeyond source b ps

end CodeSurvey.Query
