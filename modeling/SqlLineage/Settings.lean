import SqlLineage.Decode.Basic
import SqlLineage.Report
import SqlLineage.Request.Codec
import SqlLineage.Toml.Excerpt
import SqlLineage.Toml.Reader

/-!
# Settings

A configuration file gives defaults for the dialect, the form of report and the options of an
analysis; what is chosen for a run comes before it.
-/

namespace SqlLineage

/-- What a configuration file says. -/
structure Config where
  dialect : Option Dialect := none
  format : Option Format := none
  sourceLinking : Option SourceLinking := none
  recurseConditions : Option Bool := none
  deriving DecidableEq, Repr

namespace Config

/-- The keys a configuration may have. -/
def keys : List String :=
  ["dialect", "format", "source-linking", "recurse-conditions"]

/-- What is wrong with the content of a configuration. -/
inductive Cause where
  | decode (cause : Decode.Cause)
  /-- A choice that is neither a text nor a table. -/
  | notAChoice
  /-- A choice written as a table without entries. -/
  | noChoice
  /-- A choice written as a table with several entries. -/
  | severalChoices
  /-- A choice with something in the table or list behind it. -/
  | notEmpty (noun : String)
  /-- A choice with neither a table nor a list behind it. -/
  | notATable (noun : String)
  /-- A number that is too large. -/
  | overflow (noun : String)

/-- The words for a cause. -/
def Cause.message : Cause → String
  | .decode cause => cause.message .direct
  | .notAChoice => "wanted string or table"
  | .noChoice => "wanted exactly 1 element, found 0 elements"
  | .severalChoices => "wanted exactly 1 element, more than 1 element"
  | .notEmpty noun => s!"expected empty {noun}"
  | .notATable noun => s!"expected table, found {noun}"
  | .overflow noun => s!"{noun} overflowed"

/-- Why a text is no configuration. -/
inductive Error where
  | form (fault : Toml.Fault)
  | content (cause : Cause) (span : Toml.Span)

/-- The words for an error. -/
def Error.message : Error → String
  | .form fault => fault.kind.message
  | .content cause _ => cause.message

/-- The part of the text at fault. -/
def Error.span : Error → Toml.Span
  | .form fault => fault.span
  | .content _ span => span

/-- An error with the line of the text it lies in. -/
def Error.explain (text : String) (error : Error) : String :=
  Toml.excerpt text error.span error.message

/-- The noun for a value. -/
def noun : Toml.Value → String
  | .text _ => "string"
  | .integer _ => "integer"
  | .real _ => "float"
  | .tooLarge _ => "integer"
  | .truth _ => "boolean"
  | .moment => "datetime"
  | .list _ => "array"
  | .tables _ => "array"
  | .table .. => "table"

/-- An integer, as errors show it. -/
def foundInteger (value : Int) : Decode.Found :=
  if -(Int.pow 2 63) ≤ value ∧ value < Int.pow 2 64 then .num (.int value) else .wide value

/-- The cause for a value of the wrong type. -/
def wrongType (expected : String) : Toml.Value → Cause
  | .text value => .decode (.invalidType (.str value) expected)
  | .integer value => .decode (.invalidType (foundInteger value) expected)
  | .real value => .decode (.invalidType (.num (.real value)) expected)
  | .tooLarge noun => .overflow noun
  | .truth value => .decode (.invalidType (.bool value) expected)
  | .moment => .decode (.invalidType .object expected)
  | .list _ => .decode (.invalidType .list expected)
  | .tables _ => .decode (.invalidType .list expected)
  | .table .. => .decode (.invalidType .object expected)

/-- The meaning of a word. -/
def meaningOf {α : Type} (choices : List (String × α)) (word : String) : Except Cause α :=
  match choices.lookup word with
  | some meaning => .ok meaning
  | none => .error (.decode (.unknownVariant word (choices.map (·.1))))

/-- A choice among words.  The word may also be the only entry of a table, with an empty table or
list. -/
def choice {α : Type} (choices : List (String × α)) : Toml.Value → Except Cause α
  | .text word => meaningOf choices word
  | .table _ [] => .error .noChoice
  | .table _ [(key, _, value)] => do
    let meaning ← meaningOf choices key.name
    match value with
    | .table _ [] | .list [] | .tables [] => return meaning
    | .table .. => throw (.notEmpty "table")
    | .list _ | .tables _ => throw (.notEmpty "array")
    | other => throw (.notATable (noun other))
  | .table .. => .error .severalChoices
  | _ => .error .notAChoice

/-- A truth value. -/
def truth : Toml.Value → Except Cause Bool
  | .truth value => .ok value
  | other => .error (wrongType "a boolean" other)

/-- The policies with their words. -/
def linkingChoices : List (String × SourceLinking) :=
  [SourceLinking.allKnownSources, .statementSources].map (fun linking => (linking.name, linking))

/-- Takes in one entry. -/
def addEntry (config : Config) (entry : Toml.Key × Toml.Span × Toml.Value) :
    Except Error Config :=
  let (key, span, value) := entry
  let inValue {α : Type} (result : Except Cause α) : Except Error α :=
    result.mapError (fun cause => .content cause span)
  if key.name = "dialect" then do
    return { config with dialect := ← inValue (choice Dialect.choices value) }
  else if key.name = "format" then do
    return { config with format := ← inValue (choice Format.choices value) }
  else if key.name = "source-linking" then do
    return { config with sourceLinking := ← inValue (choice linkingChoices value) }
  else if key.name = "recurse-conditions" then do
    return { config with recurseConditions := ← inValue (truth value) }
  else .error (.content (.decode (.unknownField key.name keys)) key.span)

/-- The configuration of a text.  Its entries are taken in by the order of their names, so that of
several faults the one under the first name is reported. -/
def ofText (text : String) : Except Error Config := do
  let entries ← (Toml.read text).mapError Error.form
  (entries.mergeSort (fun a b => a.1.name ≤ b.1.name)).foldlM addEntry {}

end Config

/-- What is chosen for one run. -/
structure Choices where
  dialect : Option Dialect := none
  format : Option Format := none
  sourceLinking : Option SourceLinking := none
  recurseConditions : Bool := false
  deriving DecidableEq, Repr

/-- What a run goes by. -/
structure Settings where
  dialect : Dialect
  format : Format
  options : Options
  deriving DecidableEq, Repr

/-- The settings of a run: what is chosen for it, else what the configuration says, else the
defaults.  Conditions are recursed into if either asks for it. -/
def Settings.resolve (choices : Choices) (config : Config) : Settings :=
  let defaults : Options := {}
  { dialect := (choices.dialect.or config.dialect).getD .generic
    format := (choices.format.or config.format).getD .table
    options :=
      { sourceLinking :=
          (choices.sourceLinking.or config.sourceLinking).getD defaults.sourceLinking
        recurseConditions := choices.recurseConditions
          || config.recurseConditions.getD defaults.recurseConditions } }

end SqlLineage
