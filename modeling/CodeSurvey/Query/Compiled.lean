/-
  Compiled queries: patterns with their predicates, checked against a grammar, the matches they
  have in a tree, and the memory of queries that have been compiled.

  A query is checked against the names of a grammar only.  Whether any tree of the grammar can match
  is not asked: a pattern that none can match, such as `(module (module))`, is accepted and has no
  matches.
-/
import CodeSurvey.Query.Fault
import CodeSurvey.Syntax.Parsing

namespace CodeSurvey.Query

open Syntax

/-! ## §1. Compiling and matching -/

/-- A pattern with the conditions on its matches. -/
structure Rule where
  pattern : Option Pattern
  predicates : List Predicate

/-- A query that fits a grammar. -/
structure Compiled where
  /-- The grammar that the query was checked against. -/
  grammar : Grammar
  rules : List Rule

/-- The meaning of a list of predicates; the first one at fault decides. -/
def resolveCalls : List PredicateCall → Except PredicateFault (List Predicate)
  | [] => .ok []
  | call :: calls =>
    match call.resolve with
    | .error fault => .error fault
    | .ok p => (resolveCalls calls).map (p.toList ++ ·)

/-- The rules of patterns that have been read from `source`. -/
def resolvePatterns (source : List Char) : List ReadPattern → Except Fault (List Rule)
  | [] => .ok []
  | r :: rs =>
    match resolveCalls r.calls with
    | .error fault => .error (.predicate fault (Text.byteLength source - Text.byteLength r.rest))
    | .ok predicates => (resolvePatterns source rs).map (⟨r.pattern, predicates⟩ :: ·)

/-- Reads and checks a query. -/
def compile (grammar : Grammar) (source : String) : Except Fault Compiled :=
  let text := source.toList
  let fuel := 2 * text.length + 8
  match readPatterns grammar fuel fuel [] (skipBlanks false text) with
  | .error halt => .error (.spot halt.cause (Text.byteLength text - Text.byteLength halt.rest))
  | .ok patterns => (resolvePatterns text patterns).map (Compiled.mk grammar)

/-- A match: the number of its pattern and what it captures. -/
structure Match where
  rule : Nat
  bindings : Bindings

/-- The matches of one rule, the texts being those of `source`. -/
def Rule.matchesIn (r : Rule) (source : List UInt8) (t : Tree) : List Bindings :=
  match r.pattern with
  | none => []
  | some p => (p.matchesIn t).filter fun b => r.predicates.all (·.holds source b)

/-- Do the conditions of a rule ask for a text that `source` does not have? -/
def Rule.readsBeyond (r : Rule) (source : List UInt8) (t : Tree) : Bool :=
  match r.pattern with
  | none => false
  | some p => (p.matchesIn t).any fun b => readBeyond source b r.predicates

/-- All matches, rule by rule. -/
def Compiled.matchesIn (q : Compiled) (source : List UInt8) (t : Tree) : List Match :=
  q.rules.zipIdx.flatMap fun (r, i) => (r.matchesIn source t).map fun b => ⟨i, b⟩

/-- Does a query ask for a text that `source` does not have? -/
def Compiled.readsBeyond (q : Compiled) (source : List UInt8) (t : Tree) : Bool :=
  q.rules.any (·.readsBeyond source t)

/-- Does the first node come before the second: by its start, then the outer one, then by number? -/
def precedes (a b : Tree) : Bool :=
  a.start < b.start || (a.start == b.start && a.id < b.id)

/-- All captures of all matches in the order of their nodes; captures of one node are in the order
of the rules, then of the matches. -/
def Compiled.captures (q : Compiled) (source : List UInt8) (t : Tree) : Bindings :=
  ((q.matchesIn source t).flatMap Match.bindings).mergeSort
    fun a b => !precedes b.2.tree a.2.tree

/-! ## §2. Remembering -/

/-- Compiled queries by language and text. -/
abbrev Memo := List ((String × String) × Compiled)

/-- The query remembered for a language and a text. -/
def Memo.find? (m : Memo) (language source : String) : Option Compiled :=
  m.lookup (language, source)

/-- Compiles a query unless it is remembered.  Faults are not remembered. -/
def Memo.compile (m : Memo) (dialect : Dialect) (source : String) : Except Fault Compiled × Memo :=
  match m.find? dialect.language source with
  | some q => (.ok q, m)
  | none =>
    match Query.compile dialect.grammar source with
    | .error fault => (.error fault, m)
    | .ok q => (.ok q, ((dialect.language, source), q) :: m)

end CodeSurvey.Query
