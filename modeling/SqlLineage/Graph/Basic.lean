/-!
# The lineage graph

Tables and their columns are nodes, relationships between tables are edges.  A table node lists its
columns, and each column is a node of its own as well.
-/

namespace SqlLineage

/-- How a table first came up. -/
inductive TableKind where
  /-- Declared by CREATE TABLE or ALTER TABLE. -/
  | table
  /-- Declared by CREATE VIEW. -/
  | view
  /-- Read from without being declared. -/
  | source
  /-- Written by INSERT, UPDATE or DELETE. -/
  | target
  deriving DecidableEq, Repr

/-- Every kind of table, in the order summaries list them. -/
def TableKind.all : List TableKind :=
  [.table, .view, .source, .target]

/-- The word for a kind of table. -/
def TableKind.name : TableKind → String
  | .table => "table"
  | .view => "view"
  | .source => "source"
  | .target => "target"

/-- Why a column was first observed. -/
inductive ColumnRole where
  /-- Declared in a CREATE TABLE. -/
  | column
  /-- Projected by a query. -/
  | selected
  /-- Compared in a predicate. -/
  | condition
  /-- Written by INSERT or UPDATE. -/
  | target
  deriving DecidableEq, Repr

/-- The word for a column's role. -/
def ColumnRole.name : ColumnRole → String
  | .column => "column"
  | .selected => "selected"
  | .condition => "condition"
  | .target => "target"

/-- What connects two tables. -/
inductive RelationshipKind where
  | join
  | insert
  | viewDependency
  | foreignKey
  deriving DecidableEq, Repr

/-- The word for a kind of relationship. -/
def RelationshipKind.name : RelationshipKind → String
  | .join => "join"
  | .insert => "insert"
  | .viewDependency => "view_dependency"
  | .foreignKey => "foreign_key"

/-- The two types of node. -/
inductive NodeType where
  | table
  | column
  deriving DecidableEq, Repr

/-- The word for a type of node. -/
def NodeType.name : NodeType → String
  | .table => "table"
  | .column => "column"

/-- A column as its table lists it. -/
structure ColumnEntry where
  id : Nat
  name : String
  role : ColumnRole
  deriving DecidableEq, Repr

/-- A table node. -/
structure TableNode where
  id : String
  label : String
  kind : TableKind
  columns : List ColumnEntry
  nodeType : NodeType
  deriving DecidableEq, Repr

/-- A column node; `parent` is the id of its table's node. -/
structure ColumnNode where
  id : String
  label : String
  role : ColumnRole
  parent : String
  nodeType : NodeType
  deriving DecidableEq, Repr

/-- A node. -/
inductive Node where
  | table (data : TableNode)
  | column (data : ColumnNode)
  deriving DecidableEq, Repr

/-- The id of a node. -/
def Node.id : Node → String
  | .table data => data.id
  | .column data => data.id

/-- An edge between two table nodes, given by their ids. -/
structure Edge where
  id : String
  source : String
  target : String
  label : RelationshipKind
  kind : RelationshipKind
  deriving DecidableEq, Repr

/-- How many tables there are of each kind; a kind may be left out. -/
structure KindCounts where
  table : Option Nat := none
  view : Option Nat := none
  source : Option Nat := none
  target : Option Nat := none
  deriving DecidableEq, Repr

namespace KindCounts

/-- The count of a kind. -/
def get (counts : KindCounts) : TableKind → Option Nat
  | .table => counts.table
  | .view => counts.view
  | .source => counts.source
  | .target => counts.target

/-- Gives a kind a count. -/
def set (counts : KindCounts) (kind : TableKind) (count : Nat) : KindCounts :=
  match kind with
  | .table => { counts with table := some count }
  | .view => { counts with view := some count }
  | .source => { counts with source := some count }
  | .target => { counts with target := some count }

/-- The counts that are there, in the order of the kinds. -/
def toList (counts : KindCounts) : List (TableKind × Nat) :=
  TableKind.all.filterMap (fun kind => (counts.get kind).map (fun count => (kind, count)))

/-- Counts how often each kind occurs; a kind that does not occur is left out. -/
def ofList (kinds : List TableKind) : KindCounts :=
  let count (kind : TableKind) : Option Nat :=
    match kinds.count kind with
    | 0 => none
    | n => some n
  ⟨count .table, count .view, count .source, count .target⟩

end KindCounts

/-- The totals of a graph. -/
structure Summary where
  totalTables : Nat
  totalRelationships : Nat
  tableTypes : KindCounts
  deriving DecidableEq, Repr

/-- A lineage graph. -/
structure Graph where
  nodes : List Node
  edges : List Edge
  summary : Summary
  deriving DecidableEq, Repr

namespace Graph

/-- The table nodes in order. -/
def tables (graph : Graph) : List TableNode :=
  graph.nodes.filterMap (fun node =>
    match node with
    | .table data => some data
    | .column _ => none)

/-- The first table node with that label. -/
def table? (graph : Graph) (label : String) : Option TableNode :=
  graph.tables.find? (fun table => table.label == label)

/-- The label of the first table node with that id. -/
def tableLabel? (graph : Graph) (id : String) : Option String :=
  (graph.tables.find? (fun table => table.id == id)).map TableNode.label

end Graph

end SqlLineage
