import SqlLineage.CommandLine.Run

/-!
# The program

Collects what a run starts from, and delivers what it leaves behind.  What turns out to be refused
only then is what another run starts from.
-/

open SqlLineage.CommandLine

/-- What bytes hold. -/
def contentOf (bytes : ByteArray) : Content :=
  match String.fromUTF8? bytes with
  | some text => .text text
  | none => .bytes

/-- The code of the system for a directory where a file is needed. -/
def directoryCode : UInt32 := 21

/-- The path from the root to a place. -/
def placePath (place : Place) : String :=
  "/" ++ String.intercalate "/" place

/-- A path, after the paths of what it passes through. -/
def stepsOf (path : String) : List String :=
  let names := pathNames path
  let root := if isAbsolute path then "/" else ""
  (List.range names.length).map (fun i =>
    root ++ String.intercalate "/" (names.take (i + 1)))

/-- Adds what stands at a place to what a run can see. -/
def lookAt (directory : Directory) (path : String) : IO Directory := do
  try
    let content := contentOf (← IO.FS.readBinFile path)
    return { directory with files := directory.files ++ [(path, content)] }
  catch error =>
    match error with
    | .inappropriateType _ code _ =>
      if code = directoryCode then
        return { directory with folders := directory.folders ++ [path] }
      else return directory
    | .permissionDenied .. =>
      return { directory with
        files := directory.files ++ [(path, .bytes)]
        refusals := directory.refusals ++ [⟨.read, path, .denied⟩] }
    | _ => return directory

/-- Adds what a path leads to, once what it passes through is known. -/
def look (directory : Directory) (path : String) : IO Directory := do
  let .ok place := directory.locate path | return directory
  try
    let real := (← IO.FS.realPath path).toString
    let links := if directory.placeOf real = place then [] else [(placePath place, real)]
    lookAt { directory with links := directory.links ++ links } real
  catch error =>
    match error with
    | .permissionDenied .. =>
      let refusal : Refusal := ⟨.search, placePath place.dropLast, .denied⟩
      return { directory with refusals := directory.refusals ++ [refusal] }
    | _ => return directory

/-- What a command line starts from. -/
def surroundingsOf (texts : List String) : IO Surroundings := do
  match Arguments.read texts with
  | .error _ => return {}
  | .ok arguments =>
    let home := (← IO.currentDir).toString
    let directory ← ((pathsOf arguments).flatMap stepsOf).foldlM look { home := home }
    let input ←
      if readsInput arguments then
        match contentOf (← (← IO.getStdin).readBinToEnd) with
        | .text text => pure (.text text)
        | .bytes => pure .bytes
      else pure (.text "")
    return ⟨directory, input⟩

/-- Writes the file that a run has written, if it has.  What refuses it is added to what the run
starts from. -/
def writeFiles (surroundings : Surroundings) (outcome : Outcome) : IO (Option Surroundings) := do
  for (place, text) in outcome.directory.written do
    try
      IO.FS.writeFile (placePath place) text
    catch error =>
      let directory := surroundings.directory
      let refusal : Refusal := ⟨.write, placePath place, .other error.toString⟩
      let refusals := directory.refusals ++ [refusal]
      return some { surroundings with directory := { directory with refusals := refusals } }
  return none

/-- Prints what a run prints.  If standard output refuses it, so it does in another run. -/
def printOutput (texts : List String) (surroundings : Surroundings) (outcome : Outcome) :
    IO Outcome := do
  try
    (← IO.getStdout).putStr outcome.output
    (← IO.getStdout).flush
    return outcome
  catch error => return run texts surroundings (.bounded 0 (.other error.toString))

def main (texts : List String) : IO UInt32 := do
  let surroundings ← surroundingsOf texts
  let outcome := run texts surroundings
  let outcome ←
    match ← writeFiles surroundings outcome with
    | some refusing => pure (run texts refusing)
    | none => printOutput texts surroundings outcome
  (← IO.getStderr).putStr outcome.errors
  return outcome.code.toUInt32
