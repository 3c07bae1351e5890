import SqlLineage.Decode.Basic
import SqlLineage.Graph.Basic

/-!
# Graphs as JSON

Fields are written in the order of the types.  A node is read as a table node if it fits one, else
as a column node.
-/

namespace SqlLineage

/-- A listed column as JSON. -/
def ColumnEntry.toJson (column : ColumnEntry) : Json :=
  .obj [("id", .nat column.id), ("name", .str column.name), ("type", .str column.role.name)]

/-- A table node's data as JSON. -/
def TableNode.toJson (table : TableNode) : Json :=
  .obj [("id", .str table.id), ("label", .str table.label), ("type", .str table.kind.name),
    ("columns", .arr (table.columns.map ColumnEntry.toJson)),
    ("nodeType", .str table.nodeType.name)]

/-- A column node's data as JSON. -/
def ColumnNode.toJson (column : ColumnNode) : Json :=
  .obj [("id", .str column.id), ("label", .str column.label), ("type", .str column.role.name),
    ("parent", .str column.parent), ("nodeType", .str column.nodeType.name)]

/-- A node's data as JSON. -/
def Node.dataJson : Node → Json
  | .table data => data.toJson
  | .column data => data.toJson

/-- A node as JSON. -/
def Node.toJson (node : Node) : Json :=
  .obj [("data", node.dataJson)]

/-- An edge as JSON. -/
def Edge.toJson (edge : Edge) : Json :=
  .obj [("data", .obj [("id", .str edge.id), ("source", .str edge.source),
    ("target", .str edge.target), ("label", .str edge.label.name),
    ("type", .str edge.kind.name)])]

/-- Counts as JSON, in the order of the kinds. -/
def KindCounts.toJson (counts : KindCounts) : Json :=
  .obj (counts.toList.map (fun entry => (entry.1.name, .nat entry.2)))

/-- A summary as JSON. -/
def Summary.toJson (summary : Summary) : Json :=
  .obj [("totalTables", .nat summary.totalTables),
    ("totalRelationships", .nat summary.totalRelationships),
    ("tableTypes", summary.tableTypes.toJson)]

/-- The fields of a graph. -/
def Graph.fields (graph : Graph) : List (String × Json) :=
  [("nodes", .arr (graph.nodes.map Node.toJson)), ("edges", .arr (graph.edges.map Edge.toJson)),
    ("summary", graph.summary.toJson)]

namespace Decode

/-- A kind of table. -/
def tableKind : Decoder TableKind :=
  word (TableKind.all.map (fun kind => (kind.name, kind)))

/-- A column's role. -/
def columnRole : Decoder ColumnRole :=
  word ([ColumnRole.column, .selected, .condition, .target].map (fun role => (role.name, role)))

/-- A kind of relationship. -/
def relationshipKind : Decoder RelationshipKind :=
  word ([RelationshipKind.join, .insert, .viewDependency, .foreignKey].map
    (fun kind => (kind.name, kind)))

/-- A type of node. -/
def nodeType : Decoder NodeType :=
  word ([NodeType.table, .column].map (fun type => (type.name, type)))

/-- A listed column. -/
def columnEntry : Decoder ColumnEntry
  | style, value =>
    let shape : Shape := ⟨"struct ColumnEntry", 3⟩
    shape.record style value (fun parts =>
      let id := parts.slot style "id" 0 (unsigned "u64")
      let name := parts.slot style "name" 1 string
      let role := parts.slot style "type" 2 columnRole
      ([id.fault?, name.fault?, role.fault?], do
        let number ← id.require parts style shape "id" 0
        let called ← name.require parts style shape "name" 1
        let seen ← role.require parts style shape "type" 2
        return ⟨number, called, seen⟩))

/-- A table node's data. -/
def tableNode : Decoder TableNode
  | style, value =>
    let shape : Shape := ⟨"struct TableNodeData", 5⟩
    shape.record style value (fun parts =>
      let id := parts.slot style "id" 0 string
      let label := parts.slot style "label" 1 string
      let kind := parts.slot style "type" 2 tableKind
      let columns := parts.slot style "columns" 3 (list columnEntry)
      let type := parts.slot style "nodeType" 4 nodeType
      ([id.fault?, label.fault?, kind.fault?, columns.fault?, type.fault?], do
        let key ← id.require parts style shape "id" 0
        let text ← label.require parts style shape "label" 1
        let sort ← kind.require parts style shape "type" 2
        let entries ← columns.require parts style shape "columns" 3
        let form ← type.require parts style shape "nodeType" 4
        return ⟨key, text, sort, entries, form⟩))

/-- A column node's data. -/
def columnNode : Decoder ColumnNode
  | style, value =>
    let shape : Shape := ⟨"struct ColumnNodeData", 5⟩
    shape.record style value (fun parts =>
      let id := parts.slot style "id" 0 string
      let label := parts.slot style "label" 1 string
      let role := parts.slot style "type" 2 columnRole
      let parent := parts.slot style "parent" 3 string
      let type := parts.slot style "nodeType" 4 nodeType
      ([id.fault?, label.fault?, role.fault?, parent.fault?, type.fault?], do
        let key ← id.require parts style shape "id" 0
        let text ← label.require parts style shape "label" 1
        let seen ← role.require parts style shape "type" 2
        let owner ← parent.require parts style shape "parent" 3
        let form ← type.require parts style shape "nodeType" 4
        return ⟨key, text, seen, owner, form⟩))

/-- The data of a node of either type. -/
def nodeData : Decoder Node
  | style, value =>
    match tableNode .buffered value with
    | .ok data => .ok (.table data)
    | .error _ =>
      match columnNode .buffered value with
      | .ok data => .ok (.column data)
      | .error _ => .error (.here style (.noVariant "NodeData"))

/-- A node. -/
def node : Decoder Node
  | style, value =>
    let shape : Shape := ⟨"struct GraphNode", 1⟩
    shape.record style value (fun parts =>
      let data := parts.slot style "data" 0 nodeData
      ([data.fault?],
        data.require parts style shape "data" 0))

/-- An edge's data. -/
def edgeData : Decoder Edge
  | style, value =>
    let shape : Shape := ⟨"struct EdgeData", 5⟩
    shape.record style value (fun parts =>
      let id := parts.slot style "id" 0 string
      let source := parts.slot style "source" 1 string
      let target := parts.slot style "target" 2 string
      let label := parts.slot style "label" 3 relationshipKind
      let kind := parts.slot style "type" 4 relationshipKind
      ([id.fault?, source.fault?, target.fault?, label.fault?, kind.fault?], do
        let key ← id.require parts style shape "id" 0
        let start ← source.require parts style shape "source" 1
        let stop ← target.require parts style shape "target" 2
        let text ← label.require parts style shape "label" 3
        let sort ← kind.require parts style shape "type" 4
        return ⟨key, start, stop, text, sort⟩))

/-- An edge. -/
def edge : Decoder Edge
  | style, value =>
    let shape : Shape := ⟨"struct GraphEdge", 1⟩
    shape.record style value (fun parts =>
      let data := parts.slot style "data" 0 edgeData
      ([data.fault?],
        data.require parts style shape "data" 0))

/-- Counts by kind, field by field; the last count of a kind stays. -/
def countsFrom (style : Style) :
    Nat → List (String × Json) → KindCounts → Except Error KindCounts
  | _, [], counts => .ok counts
  | index, (name, value) :: rest, counts =>
    match TableKind.all.find? (fun kind => kind.name == name) with
    | none =>
      .error { Error.here style (.unknownVariant name (TableKind.all.map TableKind.name)) with
        path := [index], place := .name }
    | some kind =>
      match unsigned "usize" style value with
      | .error error => .error (error.under index)
      | .ok count => countsFrom style (index + 1) rest (counts.set kind count)

/-- Counts by kind. -/
def kindCounts : Decoder KindCounts
  | style, .obj fields => countsFrom style 0 fields {}
  | style, other => wrongType style other "a map"

/-- A summary. -/
def summary : Decoder Summary
  | style, value =>
    let shape : Shape := ⟨"struct GraphSummary", 3⟩
    shape.record style value (fun parts =>
      let tables := parts.slot style "totalTables" 0 (unsigned "usize")
      let edges := parts.slot style "totalRelationships" 1 (unsigned "usize")
      let types := parts.slot style "tableTypes" 2 kindCounts
      ([tables.fault?, edges.fault?, types.fault?], do
        let tableCount ← tables.require parts style shape "totalTables" 0
        let edgeCount ← edges.require parts style shape "totalRelationships" 1
        let counts ← types.require parts style shape "tableTypes" 2
        return ⟨tableCount, edgeCount, counts⟩))

/-- A graph. -/
def graph : Decoder Graph
  | style, value =>
    let shape : Shape := ⟨"struct FlowGraph", 3⟩
    shape.record style value (fun parts =>
      let nodes := parts.slot style "nodes" 0 (list node)
      let edges := parts.slot style "edges" 1 (list edge)
      let totals := parts.slot style "summary" 2 summary
      ([nodes.fault?, edges.fault?, totals.fault?], do
        let nodeList ← nodes.require parts style shape "nodes" 0
        let edgeList ← edges.require parts style shape "edges" 1
        let sums ← totals.require parts style shape "summary" 2
        return ⟨nodeList, edgeList, sums⟩))

end Decode

end SqlLineage
