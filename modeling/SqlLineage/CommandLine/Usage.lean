import SqlLineage.CommandLine.Arguments

/-!
# Usage

What the program tells about its arguments.
-/

namespace SqlLineage.CommandLine

/-- The version of the program. -/
def versionText : String := "sqlflow 0.1.0\n"

/-- The form of a command line. -/
def usageLine : String := "Usage: sqlflow [OPTIONS] [FILES]..."

/-- A text, filled up with blanks to a width. -/
def filled (width : Nat) (text : String) : String :=
  text ++ String.ofList (List.replicate (width - text.length) ' ')

/-- The words that an option takes, in the form help shows them. -/
def possibleValues (words : List String) : String :=
  " [possible values: " ++ String.intercalate ", " words ++ "]"

/-- What each option does. -/
def optionHelp : List (String × String) :=
  [("-d, --dialect <DIALECT>",
      "SQL dialect [default: generic]" ++ possibleValues (Dialect.all.map Dialect.name)),
    ("-f, --format <FORMAT>",
      "Output format [default: table]" ++ possibleValues (Format.all.map Format.name)),
    ("-o, --output <FILE>", "Output file (defaults to stdout)"),
    ("-c, --compact", "Compact JSON output (no pretty-printing)"),
    ("-q, --quiet", "Suppress warnings on stderr"),
    ("    --statements", "Treat input as JSON-encoded normalized statements instead of SQL"),
    ("    --source-linking <SOURCE_LINKING>",
      "Which tables feed INSERT and CREATE VIEW targets [default: all-known-sources]"
        ++ possibleValues (linkingWords.map (·.1))),
    ("    --recurse-conditions", "Descend into AND/OR predicates when inferring joins"),
    ("    --config <FILE>", "Configuration file (defaults to ./sqlflow.toml when present)"),
    ("    --list-dialects", "List supported dialects and exit"),
    ("    --schema", "Print the JSON Schema of the request and result types and exit"),
    ("-v, --verbose", "Enable debug logging on stderr"),
    ("-h, --help", "Print help"),
    ("-V, --version", "Print version")]

/-- The help text. -/
def helpText : String :=
  String.intercalate "\n"
    (["Extract table and column lineage from SQL scripts", "", usageLine, "", "Arguments:",
        "  [FILES]...  SQL files to analyze (reads from stdin if none provided)", "", "Options:"]
      ++ optionHelp.map (fun (form, meaning) => "  " ++ filled 39 form ++ meaning))
    ++ "\n"

/-- The words for a command line that is not understood. -/
def ArgumentError.message : ArgumentError → String
  | .invalidValue => "invalid or missing value for an argument"
  | .unknownArgument => "unexpected argument found"
  | .argumentConflict => "an argument cannot be used multiple times"
  | .tooManyValues => "unexpected value for an argument"
  | .displayHelp => "help"
  | .displayVersion => "version"

/-- What is said of a command line that is not understood. -/
def usageText (error : ArgumentError) : String :=
  s!"error: {error.message}\n\n{usageLine}\n\nFor more information, try '--help'.\n"

end SqlLineage.CommandLine
