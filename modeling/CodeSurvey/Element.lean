/-
  Code elements: the declarations of a source file.
-/

namespace CodeSurvey

/-- What is known of a function. -/
structure FunctionFacts where
  parameters : List String := []
  returnType : Option String := none
  visibility : String := ""
  isStatic : Bool := false
  isAsync : Bool := false
  complexity : Option Nat := none
deriving DecidableEq

/-- What is known of a class or another type. -/
structure ClassFacts where
  classKind : String
  methodCount : Nat := 0
  fieldCount : Nat := 0
deriving DecidableEq

/-- The kinds of declarations. -/
inductive ElementKind where
  | package
  | classLike (facts : ClassFacts)
  | function (facts : FunctionFacts)
  | variable (declaredType : Option String)
  | importing (modulePath : String) (shortName : Option String)
deriving DecidableEq

/-- The word for a kind. -/
def ElementKind.word : ElementKind → String
  | .package => "package"
  | .classLike _ => "class"
  | .function _ => "function"
  | .variable _ => "variable"
  | .importing _ _ => "import"

/-- The words for the kinds, in the order in which they are counted. -/
def ElementKind.words : List String := ["package", "class", "function", "variable", "import"]

/-- A declaration: lines are counted from one, the last one included. -/
structure Element where
  name : String
  kind : ElementKind
  startLine : Nat
  endLine : Nat
  text : String
  language : String
deriving DecidableEq

namespace Element

/-- The element without its text. -/
def withoutText (e : Element) : Element := { e with text := "" }

/-- The element without the complexity of its function. -/
def withoutComplexity (e : Element) : Element :=
  match e.kind with
  | .function facts => { e with kind := .function { facts with complexity := none } }
  | _ => e

/-- How many elements there are of each kind. -/
def counts (elements : List Element) : List Nat :=
  ElementKind.words.map fun w => elements.countP fun e => e.kind.word == w

end Element

end CodeSurvey
