/-
  From source text to syntax trees.  Making a tree is the work of a parser that is handed in; this
  module decides which grammar a language name stands for.
-/
import CodeSurvey.Failure
import CodeSurvey.NameMap
import CodeSurvey.Syntax.Grammar
import CodeSurvey.Syntax.Tree

namespace CodeSurvey.Syntax

/-- A grammar under the name of the language it is used for. -/
structure Dialect where
  language : String
  grammar : Grammar
deriving DecidableEq

/-- A parser gives the tree of a source text, if it can make one. -/
abbrev Parser := Dialect → String → Option SyntaxTree

/-- A source text that has been parsed. -/
structure Parsed where
  tree : SyntaxTree
  dialect : Dialect
  path : String

/-- The language of a parsed text. -/
def Parsed.language (p : Parsed) : String := p.dialect.language

/-- Grammars that were registered for language names; they come before those at hand. -/
abbrev Grammars := NameMap Grammar

namespace Grammars

/-- Registers a grammar for a language name, which is lower-cased. -/
def register (g : Grammars) (language : String) (grammar : Grammar) : Grammars :=
  g.insert (Text.lowercase language) grammar

/-- The grammar that a language name stands for. -/
def dialect? (g : Grammars) (language : String) : Option Dialect :=
  let name := Text.normalized language
  ((g.find? name).or (Grammar.ofName? name)).map fun grammar => ⟨name, grammar⟩

/-- Is there a grammar for a language name? -/
def supports (g : Grammars) (language : String) : Bool := (g.dialect? language).isSome

/-- The language names that have a grammar, sorted. -/
def languages (g : Grammars) : List String :=
  NameMap.sortNames (Grammar.names ++ NameMap.names g)

/-- Parses a source text. -/
def parse (g : Grammars) (parser : Parser) (source language path : String) : Except Failure Parsed :=
  match g.dialect? language with
  | none => .error (.parse language "no grammar available")
  | some dialect =>
    match parser dialect source with
    | none => .error (.parse dialect.language ("parser produced no tree for " ++ path))
    | some tree => .ok ⟨tree, dialect, path⟩

end Grammars

end CodeSurvey.Syntax
