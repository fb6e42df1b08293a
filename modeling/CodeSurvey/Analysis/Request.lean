/-
  What is asked of an analysis: a file, perhaps its language and the queries to run, what to
  report, and perhaps a text to take in place of the file's.

  The key under which a result is kept is the digest of everything that can change the result.  Each
  part is written as a tag, its length in eight octets and its octets, so that no two different lists
  of parts are written alike.
-/
import CodeSurvey.Digest.Blake3
import CodeSurvey.Text.Basic
import CodeSurvey.Text.Case

namespace CodeSurvey.Analysis

/-! ## §1. Requests -/

/-- A request for one file. -/
structure Request where
  path : String
  language : Option String := none
  queries : Option (List String) := none
  elements : Bool := true
  runQueries : Bool := true
  complexity : Bool := true
  details : Bool := false
  format : String := "json"
  source : Option String := none
deriving DecidableEq

/-- The language that is asked for by name, in normal spelling; a blank name asks for none. -/
def Request.explicitLanguage (r : Request) : Option String :=
  (r.language.map Text.normalized).filter fun l => !l.isEmpty

/-! ## §2. Fingerprints -/

/-- What a result depends on. -/
structure Fingerprint where
  path : String
  /-- The digest of the file's octets. -/
  content : List UInt8
  language : String
  queries : Option (List String)
  elements : Bool
  runQueries : Bool
  complexity : Bool
  details : Bool
  format : String
deriving DecidableEq

namespace Fingerprint

/-- A number in eight octets, least significant first. -/
def word64 (n : Nat) : List UInt8 :=
  (List.range 8).map fun i => UInt8.ofNat (n >>> (8 * i))

/-- A tag, the length of the octets, the octets. -/
def field (tag : String) (bytes : List UInt8) : List UInt8 :=
  Text.octets tag.toList ++ word64 bytes.length ++ bytes

/-- A text as a field. -/
def textField (tag text : String) : List UInt8 :=
  field tag (Text.octets text.toList)

/-- A switch as a field. -/
def flagField (tag : String) (on : Bool) : List UInt8 :=
  field tag [if on then 1 else 0]

/-- The queries: their number and each of them, or a word for the queries run by default. -/
def queryFields : Option (List String) → List UInt8
  | none => textField "queries" "default"
  | some queries =>
    field "queries" (word64 queries.length) ++ queries.flatMap (textField "query")

/-- All parts, written one after the other. -/
def encode (f : Fingerprint) : List UInt8 :=
  textField "path" f.path ++ field "content" f.content ++ textField "language" f.language
    ++ queryFields f.queries ++ flagField "elements" f.elements
    ++ flagField "query_results" f.runQueries ++ flagField "complexity" f.complexity
    ++ flagField "details" f.details ++ textField "format" f.format

/-- The fingerprint of a request for a file with a given content in a given language. -/
def ofRequest (path : String) (content : List UInt8) (language : String) (r : Request) :
    Fingerprint :=
  { path := path, content := Digest.blake3 content, language := language, queries := r.queries,
    elements := r.elements, runQueries := r.runQueries, complexity := r.complexity,
    details := r.details, format := r.format }

/-- The key of a fingerprint. -/
def key (f : Fingerprint) : String :=
  Digest.hex (Digest.blake3 f.encode)

end Fingerprint

end CodeSurvey.Analysis
