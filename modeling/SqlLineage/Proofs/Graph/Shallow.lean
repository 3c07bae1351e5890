import SqlLineage.Graph.Codec
import SqlLineage.Proofs.Json.Regular

/-!
# Graphs are written without loss

The value that stands for a graph holds no number of more than 64 bits if the graph does not, no
name twice in one object, and never nests deeper than its columns do.
-/

namespace SqlLineage

open Json (Shallow shallow_nat shallow_record)

/-! ## Numbers in range -/

def Node.InRange : Node → Prop
  | .table data => ∀ column ∈ data.columns, column.id < UInt64.size
  | .column _ => True

def KindCounts.InRange (counts : KindCounts) : Prop :=
  ∀ entry ∈ counts.toList, entry.2 < UInt64.size

/-- The ids and the totals of a graph fit in 64 bits. -/
structure Graph.InRange (graph : Graph) : Prop where
  nodes : ∀ node ∈ graph.nodes, node.InRange
  tables : graph.summary.totalTables < UInt64.size
  relationships : graph.summary.totalRelationships < UInt64.size
  counts : graph.summary.tableTypes.InRange

/-! ## Parts of graphs -/

theorem ColumnEntry.shallow_toJson {column : ColumnEntry} (hid : column.id < UInt64.size) :
    Shallow 1 column.toJson := by
  apply shallow_record ["id", "name", "type"] (by decide) (.refl _)
  simp [shallow_nat hid]

theorem TableNode.shallow_toJson {table : TableNode}
    (hids : ∀ column ∈ table.columns, column.id < UInt64.size) : Shallow 3 table.toJson := by
  have hcolumns : ∀ column ∈ table.columns, Shallow 1 column.toJson :=
    fun column hcolumn => ColumnEntry.shallow_toJson (hids column hcolumn)
  apply shallow_record ["id", "label", "type", "columns", "nodeType"] (by decide) (.refl _)
  simpa using hcolumns

theorem ColumnNode.shallow_toJson (column : ColumnNode) : Shallow 3 column.toJson := by
  apply shallow_record ["id", "label", "type", "parent", "nodeType"] (by decide) (.refl _)
  simp

theorem Node.shallow_toJson {node : Node} (hnode : node.InRange) : Shallow 4 node.toJson := by
  have hdata : Shallow 3 node.dataJson := by
    cases node with
    | table data => exact TableNode.shallow_toJson hnode
    | column data => exact ColumnNode.shallow_toJson data
  apply shallow_record ["data"] (by decide) (.refl _)
  simp [hdata]

theorem Edge.shallow_toJson (edge : Edge) : Shallow 4 edge.toJson := by
  apply shallow_record ["data"] (by decide) (.refl _)
  rw [Json.allValues_cons]
  refine ⟨?_, Json.allValues_nil⟩
  apply shallow_record ["id", "source", "target", "label", "type"] (by decide) (.refl _)
  simp

theorem KindCounts.kinds_sublist (counts : KindCounts) (kinds : List TableKind) :
    ((kinds.filterMap (fun kind => (counts.get kind).map (fun count => (kind, count)))).map
      Prod.fst).Sublist kinds := by
  induction kinds with
  | nil => exact .slnil
  | cons kind rest ih =>
    cases hcount : counts.get kind with
    | none =>
      rw [List.filterMap_cons_none (by rw [hcount]; rfl)]
      exact ih.cons kind
    | some count =>
      rw [List.filterMap_cons_some (by rw [hcount]; rfl)]
      exact ih.cons_cons kind

theorem KindCounts.names_sublist (counts : KindCounts) :
    ((counts.toList.map (fun entry => (entry.1.name, Json.nat entry.2))).map Prod.fst).Sublist
      (TableKind.all.map TableKind.name) := by
  have hkinds : (counts.toList.map Prod.fst).Sublist TableKind.all := counts.kinds_sublist _
  have hnames := hkinds.map TableKind.name
  rw [List.map_map] at hnames ⊢
  exact hnames

theorem KindCounts.shallow_toJson {counts : KindCounts} (hcounts : counts.InRange) :
    Shallow 4 counts.toJson := by
  apply shallow_record (TableKind.all.map TableKind.name) (by decide) counts.names_sublist
  intro field hfield
  obtain ⟨entry, hentry, rfl⟩ := List.mem_map.mp hfield
  exact shallow_nat (hcounts entry hentry)

/-- Every field of a graph is shallow. -/
theorem Graph.shallow_fields {graph : Graph} (hgraph : graph.InRange) :
    Json.AllValues (Shallow 5) graph.fields := by
  have hnodes : ∀ node ∈ graph.nodes, Shallow 4 node.toJson :=
    fun node hnode => Node.shallow_toJson (hgraph.nodes node hnode)
  have hsummary : Shallow 5 graph.summary.toJson := by
    refine shallow_record ["totalTables", "totalRelationships", "tableTypes"] (by decide)
      (.refl _) ?_
    simp [shallow_nat hgraph.tables, shallow_nat hgraph.relationships,
      KindCounts.shallow_toJson hgraph.counts]
  simpa [Graph.fields, Edge.shallow_toJson, hsummary] using hnodes

end SqlLineage
