import SqlLineage.Proofs.Graph.Outline
import SqlLineage.Report.Overview

/-!
# Looking tables up

Table nodes are looked up by label and by id, and each search stops at the first hit.  In a
well-formed graph there is never a second one, so the two searches undo each other, and what an
overview shows for the ends of an edge are the labels of two tables.
-/

namespace SqlLineage

open Registry

/-- Where keys are unique, the search for a key finds whatever has it. -/
theorem find?_key_eq_some_iff {α : Type*} {key : α → String} {elements : List α}
    (hnodup : (elements.map key).Nodup) {wanted : String} {element : α} :
    elements.find? (fun other => key other == wanted) = some element ↔
      element ∈ elements ∧ key element = wanted := by
  constructor
  · intro hfound
    exact ⟨List.mem_of_find?_eq_some hfound, by simpa using List.find?_some hfound⟩
  · rintro ⟨hmem, rfl⟩
    cases hfound : elements.find? (fun other => key other == key element) with
    | none => simpa using List.find?_eq_none.mp hfound element hmem
    | some first =>
      have hsame : key first = key element := by simpa using List.find?_some hfound
      rw [List.inj_on_of_nodup_map hnodup (List.mem_of_find?_eq_some hfound) hmem hsame]

/-! ## Well-formed graphs -/

namespace Graph.WellFormed

variable {graph : Graph} (hformed : graph.WellFormed)
include hformed

theorem ids_nodup : (graph.tables.map TableNode.id).Nodup := by
  obtain ⟨tables, edges, hnumbered⟩ := hformed.numbered
  exact hnumbered.table_ids_nodup

theorem table?_eq_some_iff {label : String} {node : TableNode} :
    graph.table? label = some node ↔ node ∈ graph.tables ∧ node.label = label :=
  find?_key_eq_some_iff hformed.labels_nodup

theorem tableLabel?_eq_some_iff {id label : String} :
    graph.tableLabel? id = some label ↔ ∃ node ∈ graph.tables, node.id = id ∧ node.label = label := by
  rw [tableLabel?, Option.map_eq_some_iff]
  simp only [find?_key_eq_some_iff hformed.ids_nodup, and_assoc]

/-- The search by label and the search by id undo each other. -/
theorem table?_iff_tableLabel? (label id : String) :
    (∃ node, graph.table? label = some node ∧ node.id = id) ↔
      graph.tableLabel? id = some label := by
  rw [hformed.tableLabel?_eq_some_iff]
  simp only [hformed.table?_eq_some_iff, and_assoc, and_comm (a := _ = label)]

theorem lookup_self {node : TableNode} (hnode : node ∈ graph.tables) :
    graph.table? node.label = some node ∧ graph.tableLabel? node.id = some node.label :=
  ⟨hformed.table?_eq_some_iff.mpr ⟨hnode, rfl⟩,
    hformed.tableLabel?_eq_some_iff.mpr ⟨node, hnode, rfl, rfl⟩⟩

/-- An id of a table node is shown as the label of that node. -/
theorem exists_label {id : String} (hid : id ∈ graph.tables.map TableNode.id) :
    ∃ node ∈ graph.tables, node.id = id ∧ graph.tableLabel? id = some node.label ∧
      Overview.nodeText graph id = node.label := by
  obtain ⟨node, hnode, rfl⟩ := List.mem_map.mp hid
  have hlabel := (hformed.lookup_self hnode).2
  exact ⟨node, hnode, rfl, hlabel, by rw [Overview.nodeText, hlabel, Option.getD_some]⟩

end Graph.WellFormed

/-! ## Overviews -/

namespace Overview

/-- The box of relationships, one row for each; nothing if there are none. -/
def relationshipBox : List (List String) → List String
  | [] => []
  | rows => titledBox "Relationships:" ["Source", "Relationship", "Target"] rows

/-- The relationships of a graph as they would be shown with the names of their tables. -/
def linkLines (links : List Link) : List String :=
  relationshipBox (links.map (fun link => [link.source, link.kind.name, link.target]))

theorem relationshipLines_eq_box (graph : Graph) :
    relationshipLines graph = relationshipBox (graph.edges.map (fun edge =>
      [nodeText graph edge.source, edge.kind.name, nodeText graph edge.target])) := by
  rw [relationshipLines]
  cases graph.edges with
  | nil => rfl
  | cons edge rest => rfl

/-- The relationships of a graph are shown with the names that they were recorded under. -/
theorem relationshipLines_graph {registry : Registry} (hformed : registry.WellFormed) :
    relationshipLines registry.graph = linkLines (registry.links.filter registry.Draws) := by
  have hgraph := Registry.graph_wellFormed hformed
  -- the row of an edge, from the labels at its ends
  let row (reading : Option String × RelationshipKind × Option String) : List String :=
    [reading.1.getD "", reading.2.1.name, reading.2.2.getD ""]
  have hrow : ∀ edge ∈ registry.graph.edges,
      [nodeText registry.graph edge.source, edge.kind.name, nodeText registry.graph edge.target] =
        row (registry.graph.tableLabel? edge.source, edge.kind,
          registry.graph.tableLabel? edge.target) := by
    intro edge hedge
    obtain ⟨hsource, htarget⟩ := hgraph.edge_endpoints edge hedge
    obtain ⟨source, _, _, hsourceLabel, hsourceText⟩ := hgraph.exists_label hsource
    obtain ⟨target, _, _, htargetLabel, htargetText⟩ := hgraph.exists_label htarget
    rw [hsourceText, htargetText, hsourceLabel, htargetLabel]
    rfl
  have hedges : registry.graph.outline.edges =
      (registry.links.filter registry.Draws).map Link.edge := by
    rw [Registry.graph_outline hformed]
  rw [relationshipLines_eq_box, linkLines, List.map_congr_left hrow]
  calc
    relationshipBox _ = relationshipBox (registry.graph.outline.edges.map row) := by
      rw [Graph.outline, List.map_map]
      rfl
    _ = _ := by
      rw [hedges, List.map_map]
      rfl

end Overview

/-- In the graph of every run, a label leads to the node with an id exactly if the id leads back to
the label, and every table node is found by either.  Both ends of an edge have labels, so an overview
shows its relationships with the names of the tables, and never an id. -/
theorem analyzeStatements_lookups (options : Options) (statements : List Statement) :
    let registry := registryOf options statements
    let graph := (analyzeStatements options statements).graph
    (∀ label id, (∃ node, graph.table? label = some node ∧ node.id = id) ↔
      graph.tableLabel? id = some label) ∧
    (∀ node ∈ graph.tables,
      graph.table? node.label = some node ∧ graph.tableLabel? node.id = some node.label) ∧
    (∀ edge ∈ graph.edges, ∀ id ∈ [edge.source, edge.target], ∃ node ∈ graph.tables,
      node.id = id ∧ graph.tableLabel? id = some node.label ∧
        Overview.nodeText graph id = node.label) ∧
    Overview.relationshipLines graph = Overview.linkLines (registry.links.filter registry.Draws) := by
  intro registry graph
  have hregistry : registry.WellFormed := registryOf_wellFormed options statements
  have hformed : graph.WellFormed := Registry.graph_wellFormed hregistry
  refine ⟨hformed.table?_iff_tableLabel?, fun node hnode => hformed.lookup_self hnode, ?_,
    Overview.relationshipLines_graph hregistry⟩
  intro edge hedge id hid
  obtain ⟨hsource, htarget⟩ := hformed.edge_endpoints edge hedge
  have hend : id = edge.source ∨ id = edge.target := by simpa using hid
  rcases hend with rfl | rfl
  · exact hformed.exists_label hsource
  · exact hformed.exists_label htarget

end SqlLineage
