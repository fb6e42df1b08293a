import CodeSurvey.Analysis.Request
import CodeSurvey.Analysis.Result
import CodeSurvey.Command.Arguments
import CodeSurvey.Command.Run
import CodeSurvey.Digest.Blake3
import CodeSurvey.Element
import CodeSurvey.Engine.Basic
import CodeSurvey.Engine.Registry
import CodeSurvey.Extract.Basic
import CodeSurvey.Extract.Go
import CodeSurvey.Extract.Java
import CodeSurvey.Extract.Plugin
import CodeSurvey.Extract.Python
import CodeSurvey.Extract.Rust
import CodeSurvey.Extract.Script
import CodeSurvey.Failure
import CodeSurvey.Files.Disk
import CodeSurvey.Files.Guard
import CodeSurvey.Files.Path
import CodeSurvey.Filter.Declared
import CodeSurvey.Filter.Expr
import CodeSurvey.Glob.Basic
import CodeSurvey.Glob.Parse
import CodeSurvey.Json
import CodeSurvey.Main
import CodeSurvey.NameMap
import CodeSurvey.Proofs.Accounting
import CodeSurvey.Proofs.Arrangement
import CodeSurvey.Proofs.Attempts
import CodeSurvey.Proofs.Attribution
import CodeSurvey.Proofs.BaseNames
import CodeSurvey.Proofs.Bindings
import CodeSurvey.Proofs.CaptureRecords
import CodeSurvey.Proofs.Catalog
import CodeSurvey.Proofs.Climbing
import CodeSurvey.Proofs.Comments
import CodeSurvey.Proofs.Complexity
import CodeSurvey.Proofs.Conjunction
import CodeSurvey.Proofs.Containment
import CodeSurvey.Proofs.DecisionPoints
import CodeSurvey.Proofs.Declarations
import CodeSurvey.Proofs.DeclaredNames
import CodeSurvey.Proofs.DirectWalk
import CodeSurvey.Proofs.Directories
import CodeSurvey.Proofs.DirectoryFiles
import CodeSurvey.Proofs.Discipline
import CodeSurvey.Proofs.Extensions
import CodeSurvey.Proofs.Extraction
import CodeSurvey.Proofs.FilterLanguage
import CodeSurvey.Proofs.Fingerprint
import CodeSurvey.Proofs.Freshness
import CodeSurvey.Proofs.FunctionViews
import CodeSurvey.Proofs.Layout
import CodeSurvey.Proofs.Lines
import CodeSurvey.Proofs.Lists
import CodeSurvey.Proofs.Lookup
import CodeSurvey.Proofs.Mapping
import CodeSurvey.Proofs.MarkedParts
import CodeSurvey.Proofs.MethodCounts
import CodeSurvey.Proofs.MissingTexts
import CodeSurvey.Proofs.Modifiers
import CodeSurvey.Proofs.NameMap
import CodeSurvey.Proofs.Names
import CodeSurvey.Proofs.Naming
import CodeSurvey.Proofs.Narrowing
import CodeSurvey.Proofs.Nesting
import CodeSurvey.Proofs.NodeWalk
import CodeSurvey.Proofs.Offsets
import CodeSurvey.Proofs.Overlooking
import CodeSurvey.Proofs.Override
import CodeSurvey.Proofs.PackageVariables
import CodeSurvey.Proofs.Parameters
import CodeSurvey.Proofs.PathText
import CodeSurvey.Proofs.Pieces
import CodeSurvey.Proofs.Places
import CodeSurvey.Proofs.Pruning
import CodeSurvey.Proofs.QueryPaths
import CodeSurvey.Proofs.Reading
import CodeSurvey.Proofs.Recency
import CodeSurvey.Proofs.Registration
import CodeSurvey.Proofs.Release
import CodeSurvey.Proofs.Remembering
import CodeSurvey.Proofs.Rendering
import CodeSurvey.Proofs.Rules
import CodeSurvey.Proofs.Run
import CodeSurvey.Proofs.Session
import CodeSurvey.Proofs.Shapes
import CodeSurvey.Proofs.Sightings
import CodeSurvey.Proofs.Spelling
import CodeSurvey.Proofs.StartingQueries
import CodeSurvey.Proofs.Survey
import CodeSurvey.Proofs.Toggles
import CodeSurvey.Proofs.Transparency
import CodeSurvey.Proofs.Wildcards
import CodeSurvey.Query.Catalog
import CodeSurvey.Query.Compiled
import CodeSurvey.Query.Fault
import CodeSurvey.Query.Pattern
import CodeSurvey.Query.Predicate
import CodeSurvey.Query.Reader
import CodeSurvey.Query.Session
import CodeSurvey.Regex.Basic
import CodeSurvey.Regex.Parse
import CodeSurvey.Settings
import CodeSurvey.Store
import CodeSurvey.Syntax.Cursor
import CodeSurvey.Syntax.Grammar
import CodeSurvey.Syntax.Grammar.Basic
import CodeSurvey.Syntax.Grammar.C
import CodeSurvey.Syntax.Grammar.Cpp
import CodeSurvey.Syntax.Grammar.Go
import CodeSurvey.Syntax.Grammar.Java
import CodeSurvey.Syntax.Grammar.Javascript
import CodeSurvey.Syntax.Grammar.Python
import CodeSurvey.Syntax.Grammar.Rust
import CodeSurvey.Syntax.Grammar.Tsx
import CodeSurvey.Syntax.Grammar.Typescript
import CodeSurvey.Syntax.Outline
import CodeSurvey.Syntax.Parsing
import CodeSurvey.Syntax.Tree
import CodeSurvey.Text.Basic
import CodeSurvey.Text.Case
import CodeSurvey.Text.Decimal
import CodeSurvey.Text.Quoted
import CodeSurvey.Text.Word
import CodeSurvey.Timing
import CodeSurvey.Yaml.Decode
import CodeSurvey.Yaml.Document
import CodeSurvey.Yaml.Event
import CodeSurvey.Yaml.Meaning
import CodeSurvey.Yaml.Position
import CodeSurvey.Yaml.Scanner
import CodeSurvey.Yaml.Token
