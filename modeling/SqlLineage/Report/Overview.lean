import SqlLineage.Report.Box
import SqlLineage.Request.Basic

/-!
# Overviews

A result as text for readers: its totals, a box of tables, a box of relationships, and the issues.
Every line ends in a line feed.
-/

namespace SqlLineage

namespace Overview

/-- The totals, and how many tables there are of each kind. -/
def summaryLines (summary : Summary) : List String :=
  let tables := s!"Summary: {summary.totalTables} tables"
  let relationships := s!" | {summary.totalRelationships} relationships"
  let kinds := summary.tableTypes.toList.map (fun (kind, count) => kind.name ++ s!": {count}")
  let types := if kinds.isEmpty then [] else ["Types: " ++ String.intercalate ", " kinds]
  ["", tables ++ relationships] ++ types ++ [""]

/-- A titled box, and an empty line behind it. -/
def titledBox (title : String) (header : List String) (rows : List (List String)) : List String :=
  let cells := rows.map (List.map String.toList)
  title :: (Box.lines (header.map String.toList) cells).map String.ofList ++ [""]

/-- The columns of a table with their roles. -/
def columnsText (columns : List ColumnEntry) : String :=
  String.intercalate ", " (columns.map (fun column => column.name ++ s!" ({column.role.name})"))

/-- The tables of a graph. -/
def tableLines (graph : Graph) : List String :=
  match graph.tables with
  | [] => ["No tables found."]
  | tables =>
    titledBox "Tables:" ["Table", "Type", "Columns"]
      (tables.map (fun table => [table.label, table.kind.name, columnsText table.columns]))

/-- What a node is called: the label of a table, or the id of a node that is none. -/
def nodeText (graph : Graph) (id : String) : String :=
  (graph.tableLabel? id).getD id

/-- The relationships of a graph. -/
def relationshipLines (graph : Graph) : List String :=
  match graph.edges with
  | [] => []
  | edges =>
    titledBox "Relationships:" ["Source", "Relationship", "Target"]
      (edges.map (fun edge =>
        [nodeText graph edge.source, edge.kind.name, nodeText graph edge.target]))

/-- The short word for a severity. -/
def severityTag : Severity → String
  | .warning => "WARN"
  | .info => "INFO"

/-- The line of an issue. -/
def issueLine (issue : Issue) : String :=
  let place := (issue.statementIndex.map (fun index => s!" statement {index}:")).getD ""
  s!"  [{severityTag issue.severity}]" ++ place ++ " " ++ issue.message

/-- The issues of a result. -/
def issueLines : List Issue → List String
  | [] => []
  | issues => s!"Issues ({issues.length}):" :: issues.map issueLine

/-- The lines of an overview; a quiet one leaves the issues out. -/
def lines (quiet : Bool) (result : Result) : List String :=
  ["SQLFlow Analysis", String.ofList (List.replicate 50 '═')]
    ++ summaryLines result.graph.summary
    ++ tableLines result.graph
    ++ relationshipLines result.graph
    ++ (if quiet then [] else issueLines result.issues)

end Overview

/-- The overview of a result. -/
def Result.overview (quiet : Bool) (result : Result) : String :=
  String.join ((Overview.lines quiet result).map (fun line => line ++ "\n"))

end SqlLineage
