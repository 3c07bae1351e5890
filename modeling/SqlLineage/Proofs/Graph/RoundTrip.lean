import SqlLineage.Graph.Codec
import SqlLineage.Proofs.Decode.Records

/-!
# Graphs are read back

Every decoder of a part of a graph undoes the way the part is written.  A node has no tag, so what
matters is that a column node never reads as a table node: it lists no columns.
-/

namespace SqlLineage

namespace Decode

variable (style : Style)

/-! ## Words -/

theorem tableKind_name (kind : TableKind) : tableKind style (.str kind.name) = .ok kind :=
  word_str (by cases kind <;> rfl)

theorem columnRole_name (role : ColumnRole) : columnRole style (.str role.name) = .ok role :=
  word_str (by cases role <;> rfl)

theorem relationshipKind_name (kind : RelationshipKind) :
    relationshipKind style (.str kind.name) = .ok kind :=
  word_str (by cases kind <;> rfl)

theorem nodeType_name (type : NodeType) : nodeType style (.str type.name) = .ok type :=
  word_str (by cases type <;> rfl)

/-! ## Nodes -/

theorem columnEntry_toJson (column : ColumnEntry) :
    columnEntry style column.toJson = .ok column := by
  rw [columnEntry, ColumnEntry.toJson]
  apply Shape.record_named 3
  dsimp only
  rw [slot_eq_found "id" (unsigned_nat "u64" column.id),
    slot_eq_found "name" (string_str column.name),
    slot_eq_found "type" (columnRole_name style column.role)]
  · rfl
  · simp
  · simp
  · simp

theorem tableNode_toJson (table : TableNode) : tableNode style table.toJson = .ok table := by
  rw [tableNode, TableNode.toJson]
  apply Shape.record_named 5
  dsimp only
  rw [slot_eq_found "id" (string_str table.id), slot_eq_found "label" (string_str table.label),
    slot_eq_found "type" (tableKind_name style table.kind),
    slot_eq_found "columns" (list_map fun column _ => columnEntry_toJson style column),
    slot_eq_found "nodeType" (nodeType_name style table.nodeType)]
  · rfl
  · simp
  · simp
  · simp
  · simp
  · simp

theorem columnNode_toJson (column : ColumnNode) : columnNode style column.toJson = .ok column := by
  rw [columnNode, ColumnNode.toJson]
  apply Shape.record_named 5
  dsimp only
  rw [slot_eq_found "id" (string_str column.id), slot_eq_found "label" (string_str column.label),
    slot_eq_found "type" (columnRole_name style column.role),
    slot_eq_found "parent" (string_str column.parent),
    slot_eq_found "nodeType" (nodeType_name style column.nodeType)]
  · rfl
  · simp
  · simp
  · simp
  · simp
  · simp

/-- A column node lists no columns, so it is no table node, whatever its fields say. -/
theorem tableNode_columnNode (column : ColumnNode) :
    ∃ error, tableNode style column.toJson = .error error := by
  rw [tableNode, ColumnNode.toJson]
  apply Shape.record_error
  dsimp only
  rw [slot_eq_absent "columns" (by simp)]
  exact bind_error fun _ => bind_error fun _ => bind_error fun _ => ⟨_, rfl⟩

theorem nodeData_dataJson (node : Node) : nodeData style node.dataJson = .ok node := by
  cases node with
  | table data => rw [nodeData, Node.dataJson, tableNode_toJson]
  | column data =>
    obtain ⟨error, herror⟩ := tableNode_columnNode .buffered data
    rw [nodeData, Node.dataJson, herror]
    simp only [columnNode_toJson]

theorem node_toJson (value : Node) : node style value.toJson = .ok value := by
  rw [node, Node.toJson]
  apply Shape.record_named 1
  dsimp only
  rw [slot_eq_found "data" (nodeData_dataJson style value)]
  · rfl
  · simp

/-! ## Edges -/

theorem edgeData_toJson (value : Edge) :
    edgeData style (.obj [("id", .str value.id), ("source", .str value.source),
      ("target", .str value.target), ("label", .str value.label.name),
      ("type", .str value.kind.name)]) = .ok value := by
  rw [edgeData]
  apply Shape.record_named 5
  dsimp only
  rw [slot_eq_found "id" (string_str value.id), slot_eq_found "source" (string_str value.source),
    slot_eq_found "target" (string_str value.target),
    slot_eq_found "label" (relationshipKind_name style value.label),
    slot_eq_found "type" (relationshipKind_name style value.kind)]
  · rfl
  · simp
  · simp
  · simp
  · simp
  · simp

theorem edge_toJson (value : Edge) : edge style value.toJson = .ok value := by
  rw [edge, Edge.toJson]
  apply Shape.record_named 1
  dsimp only
  rw [slot_eq_found "data" (edgeData_toJson style value)]
  · rfl
  · simp

/-! ## Summaries -/

theorem find?_name (kind : TableKind) :
    TableKind.all.find? (fun other => other.name == kind.name) = some kind := by
  cases kind <;> rfl

theorem countsFrom_entries (entries : List (TableKind × Nat)) (counts : KindCounts) (index : Nat) :
    countsFrom style index (entries.map (fun entry => (entry.1.name, Json.nat entry.2))) counts =
      .ok (entries.foldl (fun counts entry => counts.set entry.1 entry.2) counts) := by
  induction entries generalizing counts index with
  | nil => rfl
  | cons entry rest ih =>
    rw [List.map_cons, countsFrom, find?_name]
    simp only [unsigned_nat, ih, List.foldl_cons]

theorem foldl_set_toList (counts : KindCounts) :
    counts.toList.foldl (fun counts entry => counts.set entry.1 entry.2) {} = counts := by
  obtain ⟨table, view, source, target⟩ := counts
  cases table <;> cases view <;> cases source <;> cases target <;> rfl

theorem kindCounts_toJson (counts : KindCounts) : kindCounts style counts.toJson = .ok counts := by
  have hcounts := countsFrom_entries style counts.toList {} 0
  rw [foldl_set_toList] at hcounts
  exact hcounts

theorem summary_toJson (value : Summary) : summary style value.toJson = .ok value := by
  rw [summary, Summary.toJson]
  apply Shape.record_named 3
  dsimp only
  rw [slot_eq_found "totalTables" (unsigned_nat "usize" value.totalTables),
    slot_eq_found "totalRelationships" (unsigned_nat "usize" value.totalRelationships),
    slot_eq_found "tableTypes" (kindCounts_toJson style value.tableTypes)]
  · rfl
  · simp
  · simp
  · simp

/-- A graph is read back from its fields, whatever other fields stand behind them. -/
theorem graph_fields_append (value : Graph) {more : List (String × Json)}
    (hmore : ∀ name ∈ ["nodes", "edges", "summary"], Json.valuesOf name more = []) :
    graph style (.obj (value.fields ++ more)) = .ok value := by
  have hnodes := hmore "nodes" (by simp)
  have hedges := hmore "edges" (by simp)
  have hsummary := hmore "summary" (by simp)
  rw [graph, Graph.fields]
  apply Shape.record_named 3
  dsimp only
  rw [slot_eq_found "nodes" (list_map fun node _ => node_toJson style node),
    slot_eq_found "edges" (list_map fun edge _ => edge_toJson style edge),
    slot_eq_found "summary" (summary_toJson style value.summary)]
  · rfl
  · simp [hsummary]
  · simp [hedges]
  · simp [hnodes]

end Decode

end SqlLineage
