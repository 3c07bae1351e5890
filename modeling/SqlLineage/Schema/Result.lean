import SqlLineage.Request.Basic
import SqlLineage.Schema.Basic

/-!
# The schema of results
-/

namespace SqlLineage.Schema

/-- A result. -/
def result : Schema :=
  describe "Result of an analysis call: the graph plus any non-fatal issues." (record [
    need "nodes" (list (defined "GraphNode")),
    need "edges" (list (defined "GraphEdge")),
    need "summary" (defined "GraphSummary"),
    may "issues" (list (defined "Issue"))])

/-- A node with its wrapper. -/
def graphNode : Schema :=
  record [need "data" (defined "NodeData")]

/-- A node. -/
def nodeData : Schema :=
  describe "Node payload. Table nodes carry `columns`; column nodes carry `parent`."
    [.anyOf [defined "TableNodeData", defined "ColumnNodeData"]]

/-- A table node. -/
def tableNode : Schema :=
  record [
    need "id" (describe "`table_<n>`" text),
    need "label" text,
    need "type" (defined "TableKind"),
    need "columns" (list (defined "ColumnEntry")),
    need "nodeType" (defined "NodeType")]

/-- What a kind of table means. -/
def tableKindMeaning : TableKind → String
  | .table => "Declared by CREATE TABLE or ALTER TABLE"
  | .view => "Declared by CREATE VIEW"
  | .source => "Read from without being declared in the script"
  | .target => "Written by INSERT, UPDATE or DELETE"

/-- A kind of table. -/
def tableKind : Schema :=
  describe "Classification of a table node."
    (describedWords (TableKind.all.map (fun kind => (kind.name, tableKindMeaning kind))))

/-- A column in the list of its table. -/
def columnEntry : Schema :=
  describe "A column as listed inside its table node." (record [
    need "id" (unsigned "uint64"),
    need "name" text,
    need "type" (defined "ColumnRole")])

/-- What a column's role means. -/
def columnRoleMeaning : ColumnRole → String
  | .column => "Declared in a CREATE TABLE column list"
  | .selected => "Projected by a SELECT"
  | .condition => "Compared in a WHERE or ON predicate"
  | .target => "Written by INSERT or UPDATE"

/-- A column's role. -/
def columnRole : Schema :=
  describe "Why a column was observed. This is not a SQL data type."
    (describedWords ([ColumnRole.column, .selected, .condition, .target].map
      (fun role => (role.name, columnRoleMeaning role))))

/-- A type of node. -/
def nodeType : Schema :=
  words ([NodeType.table, .column].map NodeType.name)

/-- A column node. -/
def columnNode : Schema :=
  record [
    need "id" (describe "`column_<n>`" text),
    need "label" text,
    need "type" (defined "ColumnRole"),
    need "parent" (describe "Id of the owning table node" text),
    need "nodeType" (defined "NodeType")]

/-- An edge with its wrapper. -/
def graphEdge : Schema :=
  record [need "data" (defined "EdgeData")]

/-- An edge. -/
def edgeData : Schema :=
  record [
    need "id" (describe "`edge_<n>`" text),
    need "source" (describe "Source table node id" text),
    need "target" (describe "Target table node id" text),
    need "label" (defined "RelationshipKind"),
    need "type" (defined "RelationshipKind")]

/-- A kind of relationship. -/
def relationshipKind : Schema :=
  words ([RelationshipKind.join, .insert, .viewDependency, .foreignKey].map RelationshipKind.name)

/-- The totals of a graph. -/
def summary : Schema :=
  record [
    need "totalTables" (unsigned "uint"),
    need "totalRelationships" (describe "Number of edges actually emitted" (unsigned "uint")),
    need "tableTypes"
      (describe "Table count per kind, keys in declaration order of [`TableKind`]"
        [.type [.object], .additionalProperties (unsigned "uint")])]

/-- An issue. -/
def issue : Schema :=
  describe "A non-fatal diagnostic produced while building the lineage graph." (record [
    need "severity" (describe "Severity level" (alsoDefined "Severity")),
    need "code" (describe "Machine-readable issue code" text),
    need "message" (describe "Human-readable message" text),
    may "statementIndex"
      (describe "Optional: which statement index this issue relates to"
        [.type [.integer, .null], .format "uint", .minimum 0]),
    may "sourceName"
      (describe "Optional: source file name the statement came from" optionalText)])

/-- A severity. -/
def severity : Schema :=
  words ([Severity.warning, .info].map Severity.name)

/-- The schema of results. -/
def resultDocument : SchemaDocument where
  title := "AnalyzeResult"
  body := result
  definitions := [("GraphNode", graphNode), ("NodeData", nodeData), ("TableNodeData", tableNode),
    ("TableKind", tableKind), ("ColumnEntry", columnEntry), ("ColumnRole", columnRole),
    ("NodeType", nodeType), ("ColumnNodeData", columnNode), ("GraphEdge", graphEdge),
    ("EdgeData", edgeData), ("RelationshipKind", relationshipKind), ("GraphSummary", summary),
    ("Issue", issue), ("Severity", severity)]

end SqlLineage.Schema
