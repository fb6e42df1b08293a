/-
  What can go wrong, and how it is told.  Three failures are the caller's: a file that is not
  there, a path that may not be used, a language nobody knows.
-/
import CodeSurvey.Text.Quoted

namespace CodeSurvey

/-- Why an operation gives no result. -/
inductive Failure where
  | fileNotFound (path : String)
  | invalidPath (path reason : String)
  | unsupportedLanguage (language : String)
  | parse (language message : String)
  | settings (path message : String)
  | io (message : String)
  /-- Anything else that went wrong while a result was made. -/
  | internal (message : String)
deriving DecidableEq

namespace Failure

/-- A failure in words. -/
def message : Failure → String
  | .fileNotFound path => "file not found: " ++ path
  | .invalidPath path reason => "invalid path " ++ Text.quoted path ++ ": " ++ reason
  | .unsupportedLanguage language => "unsupported language: " ++ language
  | .parse language message => "failed to parse " ++ language ++ " source: " ++ message
  | .settings path message => "invalid configuration in " ++ path ++ ": " ++ message
  | .io message => "I/O error: " ++ message
  | .internal message => "internal error: " ++ message

/-- Is the failure raised to the caller, and not told in a result? -/
def isCallers : Failure → Bool
  | .fileNotFound _ => true
  | .invalidPath _ _ => true
  | .unsupportedLanguage _ => true
  | _ => false

/-- A failure inside a wider task, told from the outside in. -/
def within (context cause : String) : Failure :=
  .internal (context ++ ": " ++ cause)

end Failure

end CodeSurvey
