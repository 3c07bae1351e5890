import SqlLineage.CommandLine.Directory

/-!
# Standard output

What is printed goes through a buffer of lines.  A text that completes a line lets everything up to
its last line feed out; what follows is held back, until its line is complete, there is no room for
it, or the run ends.  So a fault of standard output can show itself at the text, or only at a line
feed after it.
-/

namespace SqlLineage.CommandLine

/-- How long standard output takes what is written to it.  A write is taken whole or not at all. -/
inductive Sink where
  | unbounded
  /-- It takes so many writes and refuses all later ones. -/
  | bounded (writes : Nat) (fault : FileFault)
  deriving DecidableEq, Repr

/-- Standard output. -/
structure Output where
  /-- What has come out. -/
  shown : String := ""
  /-- What is held back. -/
  held : String := ""
  sink : Sink := .unbounded
  deriving DecidableEq, Repr

/-- The bytes that can be held back. -/
def lineCapacity : Nat := 1024

/-- A text, cut behind its last line feed. -/
def cutLines (text : String) : String × String :=
  let letters := text.toList.reverse
  (String.ofList (letters.dropWhile (· ≠ '\n')).reverse,
    String.ofList (letters.takeWhile (· ≠ '\n')).reverse)

/-- What prints.  When it fails, what has come out stays out. -/
abbrev Printing := EStateM FileFault Output

namespace Printing

/-- One write, past what is held back. -/
def emit (text : String) : Printing Unit := fun output =>
  let taken := { output with shown := output.shown ++ text }
  match output.sink with
  | .unbounded => .ok () taken
  | .bounded 0 fault => .error fault output
  | .bounded (writes + 1) fault => .ok () { taken with sink := .bounded writes fault }

/-- Lets out what is held back. -/
def flush : Printing Unit := fun output =>
  if output.held = "" then .ok () output
  else
    match emit output.held output with
    | .ok _ after => .ok () { after with held := "" }
    | .error fault after => .error fault after

/-- Lets out what is held back, and then a text. -/
def release (text : String) : Printing Unit := do
  flush
  emit text

/-- Holds a text back. -/
def hold (text : String) : Printing Unit :=
  modify (fun output => { output with held := output.held ++ text })

/-- Holds a text back if there is room for it. -/
def pour (text : String) : Printing Unit := fun output =>
  if lineCapacity ≤ text.utf8ByteSize then release text output
  else if lineCapacity - output.held.utf8ByteSize < text.utf8ByteSize then
    (do flush; hold text) output
  else hold text output

/-- Lets out complete lines. -/
def pourLines (lines : String) : Printing Unit := fun output =>
  if lines = "" then .ok () output
  else if output.held = "" then release lines output
  else (do pour lines; flush) output

/-- Prints a text. -/
def print (text : String) : Printing Unit := do
  pourLines (cutLines text).1
  pour (cutLines text).2

/-- Prints a text and a line feed. -/
def printLine (text : String) : Printing Unit := do
  print text
  print "\n"

end Printing

/-- Standard output at the end of a run, which lets out what is still held back. -/
def Output.close (output : Output) : Output :=
  match Printing.flush output with
  | .ok _ output => output
  | .error _ output => output

end SqlLineage.CommandLine
