/-
  Grammars, as far as queries need them: which names a tree may use.
-/

namespace CodeSurvey.Syntax

/-- The vocabulary of a language's trees. -/
structure Grammar where
  /-- The language that the grammar is for. -/
  name : String
  /-- Kinds of named nodes. -/
  kinds : List String
  /-- Anonymous nodes, written in quotes. -/
  tokens : List String
  /-- Names that a node can have in its parent. -/
  fields : List String
deriving DecidableEq

end CodeSurvey.Syntax
