import SqlLineage.Settings

/-!
# Arguments

The arguments of a command line are read from left to right.  An option and the value that follows
it are two arguments: the value is looked at only when the next argument that is understood comes,
so an argument that nobody knows is reported before a bad value in front of it.
-/

namespace SqlLineage.CommandLine

/-- An option that takes a value. -/
inductive ValueOption where
  | dialect
  | format
  | output
  | sourceLinking
  | config
  deriving DecidableEq, Repr

/-- An option that stands alone. -/
inductive Flag where
  | compact
  | quiet
  | statements
  | recurseConditions
  | listDialects
  | schema
  | verbose
  deriving DecidableEq, Repr

/-- What an option is. -/
inductive Switch where
  | value (option : ValueOption)
  | flag (flag : Flag)
  | help
  | version
  deriving DecidableEq, Repr

/-- The options by their long names. -/
def longNames : List (String × Switch) :=
  [("dialect", .value .dialect), ("format", .value .format), ("output", .value .output),
    ("compact", .flag .compact), ("quiet", .flag .quiet), ("statements", .flag .statements),
    ("source-linking", .value .sourceLinking),
    ("recurse-conditions", .flag .recurseConditions), ("config", .value .config),
    ("list-dialects", .flag .listDialects), ("schema", .flag .schema),
    ("verbose", .flag .verbose), ("help", .help), ("version", .version)]

/-- The options by their letters. -/
def letters : List (Char × Switch) :=
  [('d', .value .dialect), ('f', .value .format), ('o', .value .output), ('c', .flag .compact),
    ('q', .flag .quiet), ('v', .flag .verbose), ('h', .help), ('V', .version)]

/-- What a command line asks for. -/
structure Arguments where
  files : List String := []
  choices : Choices := {}
  output : Option String := none
  config : Option String := none
  compact : Bool := false
  quiet : Bool := false
  statements : Bool := false
  listDialects : Bool := false
  schema : Bool := false
  verbose : Bool := false
  deriving DecidableEq, Repr

/-- Why a command line is not run. -/
inductive ArgumentError where
  /-- An option lacks its value, or the value is none that it takes. -/
  | invalidValue
  | unknownArgument
  /-- An option is given twice. -/
  | argumentConflict
  /-- A value is given to an option that takes none. -/
  | tooManyValues
  /-- Help is asked for. -/
  | displayHelp
  /-- The version is asked for. -/
  | displayVersion
  deriving DecidableEq, Repr

/-- The name of an error. -/
def ArgumentError.name : ArgumentError → String
  | .invalidValue => "InvalidValue"
  | .unknownArgument => "UnknownArgument"
  | .argumentConflict => "ArgumentConflict"
  | .tooManyValues => "TooManyValues"
  | .displayHelp => "DisplayHelp"
  | .displayVersion => "DisplayVersion"

/-- The policies with the words that name them on a command line. -/
def linkingWords : List (String × SourceLinking) :=
  [("all-known-sources", .allKnownSources), ("statement-sources", .statementSources)]

namespace Arguments

/-- Whether an option has its value already. -/
def has (arguments : Arguments) : ValueOption → Bool
  | .dialect => arguments.choices.dialect.isSome
  | .format => arguments.choices.format.isSome
  | .output => arguments.output.isSome
  | .sourceLinking => arguments.choices.sourceLinking.isSome
  | .config => arguments.config.isSome

/-- The meaning of a word. -/
def meaning {α : Type} (words : List (String × α)) (word : String) : Except ArgumentError α :=
  match words.lookup word with
  | some meaning => .ok meaning
  | none => .error .invalidValue

/-- A path, which is not empty. -/
def path (text : String) : Except ArgumentError String :=
  if text.isEmpty then .error .invalidValue else .ok text

/-- Gives an option its value. -/
def setValue (arguments : Arguments) (option : ValueOption) (value : String) :
    Except ArgumentError Arguments := do
  let choices := arguments.choices
  match option with
  | .dialect =>
    return { arguments with choices := { choices with dialect := ← meaning Dialect.choices value } }
  | .format =>
    return { arguments with choices := { choices with format := ← meaning Format.choices value } }
  | .output => return { arguments with output := ← path value }
  | .sourceLinking =>
    let linking ← meaning linkingWords value
    return { arguments with choices := { choices with sourceLinking := linking } }
  | .config => return { arguments with config := ← path value }

/-- Whether a flag is set. -/
def isSet (arguments : Arguments) : Flag → Bool
  | .compact => arguments.compact
  | .quiet => arguments.quiet
  | .statements => arguments.statements
  | .recurseConditions => arguments.choices.recurseConditions
  | .listDialects => arguments.listDialects
  | .schema => arguments.schema
  | .verbose => arguments.verbose

/-- Sets a flag. -/
def set (arguments : Arguments) : Flag → Arguments
  | .compact => { arguments with compact := true }
  | .quiet => { arguments with quiet := true }
  | .statements => { arguments with statements := true }
  | .recurseConditions =>
    { arguments with choices := { arguments.choices with recurseConditions := true } }
  | .listDialects => { arguments with listDialects := true }
  | .schema => { arguments with schema := true }
  | .verbose => { arguments with verbose := true }

end Arguments

/-- What has been read but not looked at yet. -/
inductive Pending where
  | none
  /-- An option, and its value if that has been read. -/
  | option (option : ValueOption) (value : Option String)
  /-- The path of a source. -/
  | file (path : String)
  deriving DecidableEq, Repr

/-- What is known between two arguments. -/
structure Progress where
  arguments : Arguments := {}
  pending : Pending := .none
  deriving DecidableEq, Repr

namespace Progress

/-- Gives an option a value, unless it has one. -/
def assign (arguments : Arguments) (option : ValueOption) (value : String) :
    Except ArgumentError Arguments :=
  if arguments.has option then .error .argumentConflict else arguments.setValue option value

/-- Takes in what is pending. -/
def settle (progress : Progress) : Except ArgumentError Arguments :=
  match progress.pending with
  | .none => .ok progress.arguments
  | .option _ none => .error .invalidValue
  | .option option (some value) => assign progress.arguments option value
  | .file text => do
    let file ← Arguments.path text
    return { progress.arguments with files := progress.arguments.files ++ [file] }

/-- An option without a value on the spot. -/
def addSwitch (progress : Progress) (switch : Switch) : Except ArgumentError Progress := do
  let arguments ← progress.settle
  match switch with
  | .value option => return ⟨arguments, .option option none⟩
  | .flag flag =>
    if arguments.isSet flag then throw .argumentConflict
    else return ⟨arguments.set flag, .none⟩
  | .help => throw .displayHelp
  | .version => throw .displayVersion

/-- An option with its value in the same argument. -/
def addAttached (progress : Progress) (option : ValueOption) (value : String) :
    Except ArgumentError Progress := do
  return ⟨← assign (← progress.settle) option value, .none⟩

/-- A source, or the value that the option in front waits for. -/
def addPlain (progress : Progress) (text : String) : Except ArgumentError Progress :=
  match progress.pending with
  | .option option none => .ok { progress with pending := .option option (some text) }
  | _ => do return ⟨← progress.settle, .file text⟩

/-- A source behind the mark that ends the options. -/
def addFile (progress : Progress) (text : String) : Except ArgumentError Progress := do
  return ⟨← progress.settle, .file text⟩

/-- An argument with a long name, from behind its dashes. -/
def addLong (progress : Progress) (text : List Char) : Except ArgumentError Progress :=
  let name := String.ofList (text.takeWhile (· ≠ '='))
  match longNames.lookup name, text.dropWhile (· ≠ '=') with
  | none, _ => .error .unknownArgument
  | some switch, [] => progress.addSwitch switch
  | some (.value option), _ :: value => progress.addAttached option (String.ofList value)
  | some _, _ :: _ => .error .tooManyValues

/-- Letters behind one dash.  The first that takes a value takes what is left of the argument, an
equals sign apart. -/
def addLetters : List Char → Progress → Except ArgumentError Progress
  | [], progress => .ok progress
  | letter :: rest, progress =>
    match letters.lookup letter, rest with
    | none, _ => .error .unknownArgument
    | some (.value option), '=' :: value => progress.addAttached option (String.ofList value)
    | some (.value option), c :: value => progress.addAttached option (String.ofList (c :: value))
    | some switch, _ => do addLetters rest (← progress.addSwitch switch)

/-- One argument in front of the mark that ends the options. -/
def add (progress : Progress) (text : String) : Except ArgumentError Progress :=
  match text.toList with
  | '-' :: '-' :: name => progress.addLong name
  | '-' :: letter :: more => addLetters (letter :: more) progress
  | _ => progress.addPlain text

end Progress

/-- Reads the arguments that are left.  Behind two dashes on their own everything is a source. -/
def readFrom (progress : Progress) : List String → Except ArgumentError Progress
  | [] => .ok progress
  | text :: rest =>
    if text = "--" then rest.foldlM Progress.addFile progress
    else do readFrom (← progress.add text) rest

/-- Reads the arguments of a command line. -/
def Arguments.read (texts : List String) : Except ArgumentError Arguments := do
  (← readFrom {} texts).settle

end SqlLineage.CommandLine
