import SqlLineage.CommandLine.Output
import SqlLineage.Error
import SqlLineage.Statement.Document

/-!
# Stages

A run is made of stages.  A stage may read and write files, read the input, print and fail; what it
has done before it fails stays done.
-/

namespace SqlLineage.CommandLine

/-- What standard input holds. -/
inductive Input where
  | text (text : String)
  /-- Bytes that are no text. -/
  | bytes
  | fault (fault : FileFault)
  deriving DecidableEq, Repr

/-- What stages see and change. -/
structure World where
  directory : Directory := {}
  input : Input := .text ""
  output : Output := {}
  errors : String := ""
  deriving DecidableEq, Repr

/-- Why a run fails. -/
inductive Failure where
  | configMissing (path : String)
  | configUnreadable (path : String) (fault : FileFault)
  /-- The configuration is at fault, as its text shows. -/
  | configInvalid (path explanation : String)
  | inputUnreadable (fault : FileFault)
  | fileUnreadable (path : String) (fault : FileFault)
  | document (error : DocumentError)
  | analysis (error : LineageError)
  | unwritable (path : String) (fault : FileFault)
  /-- Standard output does not take the report. -/
  | unprintable (fault : FileFault)
  deriving DecidableEq, Repr

/-- The text of an error with its causes. -/
def errorChain : LineageError → String
  | .parseSource name error => (LineageError.parseSource name error).render ++ ": " ++ error.render
  | other => other.render

/-- The message of a failure. -/
def Failure.message : Failure → String
  | .configMissing path => s!"config file not found: {path}"
  | .configUnreadable path fault => s!"Failed to read config file: {path}: {fault.message}"
  | .configInvalid path explanation => s!"Invalid config file: {path}: {explanation}"
  | .inputUnreadable fault => s!"Failed to read from stdin: {fault.message}"
  | .fileUnreadable path fault => s!"Failed to read file: {path}: {fault.message}"
  | .document error => error.render
  | .analysis error => errorChain error
  | .unwritable path fault => s!"Failed to write to {path}: {fault.message}"
  | .unprintable fault => s!"Failed to write to stdout: {fault.message}"

/-- The exit code of a failure. -/
def Failure.code : Failure → Nat
  | .analysis _ => 1
  | _ => 66

/-- How a run stops before its end. -/
inductive Stop where
  | failure (cause : Failure)
  /-- Standard output does not take a line, which nothing is prepared for. -/
  | panic (fault : FileFault)
  deriving DecidableEq, Repr

/-- What is told of a stop. -/
def Stop.message : Stop → String
  | .failure cause => s!"sqlflow: error: {cause.message}\n"
  | .panic fault => s!"failed printing to stdout: {fault.message}\n"

/-- The exit code of a panic. -/
def panicCode : Nat := 101

/-- The exit code of a stop. -/
def Stop.code : Stop → Nat
  | .failure cause => cause.code
  | .panic _ => panicCode

/-- A part of a run. -/
abbrev Stage := EStateM Stop World

namespace Stage

/-- Fails. -/
def fail {α : Type} (failure : Failure) : Stage α :=
  throw (.failure failure)

/-- The result of a computation that may fail. -/
def ofExcept {α : Type} : Except Failure α → Stage α
  | .ok result => return result
  | .error failure => fail failure

/-- Whether a path leads to anything. -/
def has (path : String) : Stage Bool := do
  return (← get).directory.has path

/-- Reads a file. -/
def readFile (path : String) (failure : FileFault → Failure) : Stage String := do
  ofExcept (((← get).directory.read path).mapError failure)

/-- Reads standard input to its end. -/
def readInput : Stage String := do
  match (← get).input with
  | .text text => return text
  | .bytes => fail (.inputUnreadable .notText)
  | .fault fault => fail (.inputUnreadable fault)

/-- Writes a file. -/
def writeFile (path text : String) : Stage Unit := do
  let directory ← ofExcept (((← get).directory.write path text).mapError (.unwritable path))
  modify ({ · with directory })

/-- Prints to standard output, and stops at its faults. -/
def printing (stop : FileFault → Stop) (action : Printing Unit) : Stage Unit := fun world =>
  match action world.output with
  | .ok _ output => .ok () { world with output }
  | .error fault output => .error (stop fault) { world with output }

/-- Prints to standard error, which takes everything. -/
def printError (text : String) : Stage Unit :=
  modify (fun world => { world with errors := world.errors ++ text })

end Stage

end SqlLineage.CommandLine
