/-
  The grammars at hand and the file extensions that stand for them.
-/
import CodeSurvey.Syntax.Grammar.C
import CodeSurvey.Syntax.Grammar.Cpp
import CodeSurvey.Syntax.Grammar.Go
import CodeSurvey.Syntax.Grammar.Java
import CodeSurvey.Syntax.Grammar.Javascript
import CodeSurvey.Syntax.Grammar.Python
import CodeSurvey.Syntax.Grammar.Rust
import CodeSurvey.Syntax.Grammar.Tsx
import CodeSurvey.Syntax.Grammar.Typescript
import CodeSurvey.Text.Case

namespace CodeSurvey.Syntax

/-- All grammars, by name. -/
def Grammar.all : List Grammar :=
  [Grammar.c, Grammar.cpp, Grammar.go, Grammar.java, Grammar.javascript, Grammar.python,
   Grammar.rust, Grammar.tsx, Grammar.typescript]

/-- The grammar of a language. -/
def Grammar.ofName? (name : String) : Option Grammar :=
  Grammar.all.find? (·.name == name)

/-- The languages that have a grammar, sorted. -/
def Grammar.names : List String :=
  Grammar.all.map Grammar.name

/-- File extensions and their languages. -/
def extensions : List (String × String) :=
  [("py", "python"), ("pyi", "python"), ("pyw", "python"), ("java", "java"), ("js", "javascript"),
   ("jsx", "javascript"), ("mjs", "javascript"), ("cjs", "javascript"), ("ts", "typescript"),
   ("mts", "typescript"), ("cts", "typescript"), ("tsx", "tsx"), ("go", "go"), ("rs", "rust"),
   ("c", "c"), ("h", "c"), ("cpp", "cpp"), ("cc", "cpp"), ("cxx", "cpp"), ("hpp", "cpp"),
   ("hh", "cpp"), ("hxx", "cpp")]

/-- An extension as tables know it: without leading dots, lower-cased. -/
def normalExtension (ext : String) : String :=
  String.ofList (Text.lower (ext.toList.dropWhile (· == '.')))

/-- The language that an extension stands for. -/
def languageOfExtension (ext : String) : Option String :=
  extensions.lookup (normalExtension ext)

end CodeSurvey.Syntax
