import SqlLineage.CommandLine.Stage
import SqlLineage.CommandLine.Usage
import SqlLineage.Schema
import SqlLineage.Source

/-!
# Runs

A run of the program is a function of its arguments, the files it sees, its input, and of how
standard output takes what is printed.  Its stages come one after the other: the configuration, the
sources, the analysis, the report, and last what is told of issues beside it.
-/

namespace SqlLineage.CommandLine

/-- What a run starts from. -/
structure Surroundings where
  directory : Directory := {}
  input : Input := .text ""
  deriving DecidableEq, Repr

/-- What a run leaves behind: a code, what it writes to its two outputs, and the directory. -/
structure Outcome where
  code : Nat
  output : String := ""
  errors : String := ""
  directory : Directory
  deriving DecidableEq, Repr

/-- The exit code of a command line that is not understood. -/
def usageCode : Nat := 2

/-- The name of the input among sources. -/
def inputName : String := "<stdin>"

/-- The configuration that is read when no other is named. -/
def defaultConfigPath : String := "sqlflow.toml"

/-! ## Reading -/

/-- The configuration in a file. -/
def readConfig (path : String) : Stage Config := do
  let text ← Stage.readFile path (.configUnreadable path)
  Stage.ofExcept
    ((Config.ofText text).mapError (fun error => .configInvalid path (error.explain text)))

/-- The configuration of a run.  One that is named has to be there. -/
def loadConfig : Option String → Stage Config
  | some path => do
    if ← Stage.has path then readConfig path else Stage.fail (.configMissing path)
  | none => do
    if ← Stage.has defaultConfigPath then readConfig defaultConfigPath else return {}

/-- The sources in files, in order. -/
def readFiles : List String → Stage (List SourceFile)
  | [] => return []
  | path :: rest => do
    let text ← Stage.readFile path (.fileUnreadable path)
    let sources ← readFiles rest
    return ⟨path, text⟩ :: sources

/-- The sources of a run: the files that are named, or the input. -/
def readSources : List String → Stage (List SourceFile)
  | [] => do return [⟨inputName, ← Stage.readInput⟩]
  | paths => readFiles paths

/-! ## Analysing -/

/-- The request to analyse sources.  A single one is the inline text, under its name. -/
def requestFor (settings : Settings) : List SourceFile → Request
  | [source] =>
    { sql := source.content
      dialect := settings.dialect
      sourceName := some source.name
      options := some settings.options }
  | sources =>
    { files := some sources
      dialect := settings.dialect
      options := some settings.options }

/-- Analyses sources, which hold statement documents or SQL text. -/
def analyzeSources (settings : Settings) (documents : Bool) (sources : List SourceFile) :
    Except Failure Result :=
  if documents then do
    let statements ← (readStatements sources).mapError Failure.document
    return analyzeStatements settings.options statements
  else (analyze (requestFor settings sources)).mapError Failure.analysis

/-! ## Reporting -/

/-- Delivers a report, to a file or to standard output.  There a line feed that it lacks is printed
behind it. -/
def writeReport (output : Option String) (text : String) : Stage Unit :=
  match output with
  | some path => Stage.writeFile path text
  | none => do
    Stage.printing (fun fault => .failure (.unprintable fault)) (Printing.print text)
    if !text.endsWith "\n" then Stage.printing .panic (Printing.printLine "")

/-- The word for a severity in front of a message. -/
def severityWord : Severity → String
  | .warning => "warning"
  | .info => "info"

/-- The line that tells of an issue. -/
def issueLine (issue : Issue) : String :=
  let place := (issue.sourceName.map (fun name => s!" {name}:")).getD ""
  s!"sqlflow: {severityWord issue.severity}:" ++ place ++ s!" {issue.message}\n"

/-- What is told of issues beside a report: all of them for a flowchart, which has no place for them
itself, unless the run is to be quiet. -/
def issueText (format : Format) (quiet : Bool) (issues : List Issue) : String :=
  if format = .mermaid ∧ quiet = false then String.join (issues.map issueLine) else ""

/-- Analyses what the arguments name and delivers the report. -/
def report (arguments : Arguments) : Stage Unit := do
  let config ← loadConfig arguments.config
  let settings := Settings.resolve arguments.choices config
  let sources ← readSources arguments.files
  let result ← Stage.ofExcept (analyzeSources settings arguments.statements sources)
  writeReport arguments.output
    (result.report settings.format arguments.compact arguments.quiet)
  Stage.printError (issueText settings.format arguments.quiet result.issues)

/-! ## Listing -/

/-- The line of a dialect in the list of all. -/
def dialectLine (dialect : Dialect) : String :=
  filled 12 dialect.name ++ " " ++ dialect.label

/-- Prints the lines of a list. -/
def printLines : List String → Printing Unit
  | [] => return ()
  | line :: rest => do
    Printing.printLine line
    printLines rest

/-- The lines that arguments ask for instead of an analysis. -/
def listing (arguments : Arguments) : Option (List String) :=
  if arguments.listDialects then some (Dialect.all.map dialectLine)
  else if arguments.schema then some [publishedSchema.renderIndented]
  else none

/-! ## Running -/

/-- Runs arguments that are understood. -/
def execute (arguments : Arguments) : Stage Unit :=
  match listing arguments with
  | some lines => Stage.printing .panic (printLines lines)
  | none => report arguments

/-- What a run starts with. -/
def Surroundings.world (surroundings : Surroundings) (sink : Sink) : World where
  directory := surroundings.directory
  input := surroundings.input
  output := { sink := sink }

/-- What is left behind at the end, with a code. -/
def World.outcome (world : World) (code : Nat) : Outcome where
  code := code
  output := world.output.close.shown
  errors := world.errors
  directory := world.directory

/-- What a run leaves behind by how it ends.  A stop is told of. -/
def outcomeOf : EStateM.Result Stop World Unit → Outcome
  | .ok _ world => world.outcome 0
  | .error stop world => { world with errors := world.errors ++ stop.message }.outcome stop.code

/-- Prints a text about the program, without regard to how it is taken. -/
def inform (text : String) : Stage Unit := fun world =>
  match Printing.print text world.output with
  | .ok _ output => .ok () { world with output }
  | .error _ output => .ok () { world with output }

/-- Runs a command line. -/
def run (texts : List String) (surroundings : Surroundings) (sink : Sink := .unbounded) : Outcome :=
  let world := surroundings.world sink
  match Arguments.read texts with
  | .ok arguments => outcomeOf ((execute arguments).run world)
  | .error .displayHelp => outcomeOf ((inform helpText).run world)
  | .error .displayVersion => outcomeOf ((inform versionText).run world)
  | .error error => { world with errors := usageText error }.outcome usageCode

/-! ## What a run looks at -/

/-- The paths that a run looks at. -/
def pathsOf (arguments : Arguments) : List String :=
  arguments.config.getD defaultConfigPath :: (arguments.files ++ arguments.output.toList)

/-- Whether a run reads its input. -/
def readsInput (arguments : Arguments) : Bool :=
  arguments.files.isEmpty && !arguments.listDialects && !arguments.schema

end SqlLineage.CommandLine
