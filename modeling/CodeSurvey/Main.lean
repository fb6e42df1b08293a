/-
  The command line.  The tree of a source file is read from the file beside it whose name is longer
  by `.outline`.
-/
import CodeSurvey.Command.Run
import CodeSurvey.Syntax.Outline

namespace CodeSurvey.Main

open Files Syntax

/-- Reads everything below a directory. -/
partial def readBelow (d : Disk) (path : String) : IO Disk := do
  let directory ← IO.FS.realPath path
  let mut disk := d
  for entry in ← directory.readDir do
    let inner := Path.joinText path entry.fileName
    let place := (Path.ofText inner).parts
    let real ← try some <$> IO.FS.realPath inner catch _ => pure none
    match real with
    | none => disk := disk.put place (.link inner)
    | some target =>
      if target.toString != Path.joinText directory.toString entry.fileName then
        disk := disk.put place (.link target.toString)
      else if ← target.isDir then
        disk ← readBelow (disk.put place .directory) inner
      else
        disk := disk.put place (.file (← IO.FS.readBinFile inner).toList)
  return disk

/-- Reads everything below a directory of the machine. -/
def readDisk (current root : String) : IO Disk := do
  let start := (Path.ofText (Path.joinText current root)).render
  let empty : Disk := { current := (Path.ofText current).parts }
  let disk := (empty.makeDirectory empty.current).makeDirectory (Path.ofText start).parts
  try readBelow disk start catch _ => pure disk

/-- The trees that stand beside source files. -/
def treesOn (d : Disk) : List (String × SyntaxTree) :=
  d.entries.filterMap fun (place, entry) =>
    match entry, d.read (Path.ofText ((Disk.pathOf place).render ++ ".outline")) with
    | .file bytes, .ok outline =>
      let source := Text.decodeLossy bytes
      (SyntaxTree.ofOutline? source (Text.decodeLossy outline)).map (source, ·)
    | _, _ => none

/-- The commands in one line. -/
def commandList : String := "commands: " ++ ", ".intercalate Command.taskNames

/-- What is said about a command line that is not carried out. -/
def usageText : Command.UsageError → String
  | .version => "1.0"
  | .help => commandList
  | .nothingAsked => commandList
  | .unknownSubcommand => "unknown command"
  | .missingSubcommand => "a command is missing"
  | .unknownArgument => "unknown argument"
  | .missingArgument => "an argument is missing"
  | .conflict => "arguments exclude each other or are repeated"
  | .badValue => "a value is missing or empty"
  | .unwantedValue => "a value was given to a switch that takes none"

end CodeSurvey.Main

/-- Carries out the command line. -/
def main (words : List String) : IO UInt32 := do
  match CodeSurvey.Command.Invocation.parse words with
  | .error e =>
    IO.eprintln (CodeSurvey.Main.usageText e)
    return UInt32.ofNat e.exitCode
  | .ok invocation =>
    let current := (← IO.currentDir).toString
    let disk ← CodeSurvey.Main.readDisk current (invocation.root.getD "")
    let trees := CodeSurvey.Main.treesOn disk
    let out := CodeSurvey.Command.run ⟨disk, fun _ source => trees.lookup source⟩ invocation
    IO.print out.stdout
    IO.eprint out.stderr
    match out.ending with
    | .ok code => return UInt32.ofNat code
    | .error message =>
      IO.eprintln ("Error: " ++ message)
      return UInt32.ofNat CodeSurvey.Command.exitError
