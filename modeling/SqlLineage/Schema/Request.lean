import SqlLineage.Request.Codec
import SqlLineage.Schema.Basic

/-!
# The schema of requests
-/

namespace SqlLineage.Schema

/-- What a policy means. -/
def linkingMeaning : SourceLinking → String
  | .allKnownSources =>
    "Every table classified as `source` so far in the run, including tables\nread by earlier " ++
      "statements."
  | .statementSources => "Only the tables read by the statement's own query."

/-- A request. -/
def request : Schema :=
  describe "A request to build a lineage graph from SQL text." (record [
    may "sql"
      (describe "The SQL code to analyze (UTF-8 string, multi-statement supported)"
        (orDefault (.str "") text)),
    may "files"
      (describe "Optional list of source files, analyzed before `sql`"
        [.type [.array, .null], .items (defined "FileSource")]),
    may "dialect"
      (describe "SQL dialect" (.default (.str Dialect.generic.name) :: alsoDefined "Dialect")),
    may "sourceName"
      (describe "Optional source name (file path or script identifier) for inline `sql`"
        optionalText),
    may "options" (describe "Optional analysis options" (optional "AnalysisOptions"))])

/-- A named source. -/
def sourceFile : Schema :=
  record [need "name" text, need "content" text]

/-- A dialect. -/
def dialect : Schema :=
  describe "SQL dialect used to parse the input text." (words (Dialect.all.map Dialect.name))

/-- The options of an analysis. -/
def options : Schema :=
  describe "Options controlling the analysis behavior." (record [
    may "sourceLinking"
      (describe "Source-table policy for insert and view-dependency edges"
        (.default (.str SourceLinking.allKnownSources.name) :: alsoDefined "SourceLinking")),
    may "recurseConditions"
      (describe "Descend into AND/OR predicates when inferring join relationships"
        (orDefault (.bool false) truth))])

/-- A policy. -/
def sourceLinking : Schema :=
  describe "Which source tables an INSERT ... SELECT or CREATE VIEW is linked from."
    (describedWords ([SourceLinking.allKnownSources, .statementSources].map
      (fun linking => (linking.name, linkingMeaning linking))))

/-- The schema of requests. -/
def requestDocument : SchemaDocument where
  title := "AnalyzeRequest"
  body := request
  definitions := [("FileSource", sourceFile), ("Dialect", dialect), ("AnalysisOptions", options),
    ("SourceLinking", sourceLinking)]

end SqlLineage.Schema
