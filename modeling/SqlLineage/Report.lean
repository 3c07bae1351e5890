import SqlLineage.Json.Printer
import SqlLineage.Report.Mermaid
import SqlLineage.Report.Overview
import SqlLineage.Request.Codec

/-!
# Reports

The forms a result can be shown in.
-/

namespace SqlLineage

/-- A form of report. -/
inductive Format where
  /-- An overview for readers. -/
  | table
  /-- The result as a JSON text. -/
  | json
  /-- The graph as a Mermaid flowchart. -/
  | mermaid
  deriving DecidableEq, Repr, Inhabited

/-- Every form of report. -/
def Format.all : List Format :=
  [.table, .json, .mermaid]

/-- The word for a form of report. -/
def Format.name : Format → String
  | .table => "table"
  | .json => "json"
  | .mermaid => "mermaid"

/-- The forms of report with their words. -/
def Format.choices : List (String × Format) :=
  all.map (fun format => (format.name, format))

/-- A result as a JSON text, on one line or with a line for each item. -/
def Result.jsonText (compact : Bool) (result : Result) : String :=
  if compact then result.toJson.render else result.toJson.renderIndented

/-- A report on a result. -/
def Result.report (format : Format) (compact quiet : Bool) (result : Result) : String :=
  match format with
  | .table => result.overview quiet
  | .json => result.jsonText compact
  | .mermaid => result.graph.mermaid

end SqlLineage
