import SqlLineage.Analysis

/-!
# Graphs from registries

Each table node is followed by the nodes of its columns.  A relationship becomes an edge when both
of its tables are registered; others are left out and not counted.
-/

namespace SqlLineage

/-- The id of a table's node. -/
def Table.nodeId (table : Table) : String :=
  s!"table_{table.id}"

/-- The id of a column's node. -/
def Column.nodeId (column : Column) : String :=
  s!"column_{column.id}"

/-- The id of a relationship's edge. -/
def Relationship.edgeId (relationship : Relationship) : String :=
  s!"edge_{relationship.id}"

/-- A table's own node. -/
def Table.node (table : Table) : TableNode :=
  { id := table.nodeId
    label := table.name
    kind := table.kind
    columns := table.columns.map (fun column => ⟨column.id, column.name, column.role⟩)
    nodeType := .table }

/-- The node of a column of that table. -/
def Table.columnNode (table : Table) (column : Column) : ColumnNode :=
  { id := column.nodeId
    label := column.name
    role := column.role
    parent := table.nodeId
    nodeType := .column }

/-- The nodes of a table: its own, then those of its columns. -/
def Table.nodes (table : Table) : List Node :=
  .table table.node :: table.columns.map (fun column => .column (table.columnNode column))

/-- The edge of a relationship between registered tables. -/
def Registry.edge? (registry : Registry) (relationship : Relationship) : Option Edge :=
  match registry.table? relationship.source, registry.table? relationship.target with
  | some source, some target =>
    some ⟨relationship.edgeId, source.nodeId, target.nodeId, relationship.kind,
      relationship.kind⟩
  | _, _ => none

/-- The graph of a registry. -/
def Registry.graph (registry : Registry) : Graph :=
  let edges := registry.relationships.filterMap registry.edge?
  { nodes := registry.tables.flatMap Table.nodes
    edges := edges
    summary :=
      { totalTables := registry.tables.length
        totalRelationships := edges.length
        tableTypes := .ofList (registry.tables.map Table.kind) } }

/-- The result for statements that come with the names of their sources; `issues` were met
before. -/
def analyzeSourced (options : Options) (issues : List Issue)
    (statements : List SourcedStatement) : Result :=
  { graph := (analyzeAll options statements {}).graph
    issues := issues ++ issuesFrom 0 statements }

/-- The result for a list of statements. -/
def analyzeStatements (options : Options) (statements : List Statement) : Result :=
  analyzeSourced options [] (statements.map (fun statement => ⟨statement, none⟩))

end SqlLineage
