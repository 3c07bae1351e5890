import SqlLineage.Graph.Build
import SqlLineage.Proofs.Analysis.Growth
import SqlLineage.Proofs.Registry.WellFormed

/-!
# Well-formed graphs

The graph of a well-formed registry is well formed: labels and ids are unique, every table node is
followed by the nodes of its columns, and every edge joins two different table nodes of the graph.
With the growth of registries this holds of the graph of every run.
-/

namespace SqlLineage

open Registry

/-- Ids are told apart by their digits. -/
theorem toString_number_inj {first second : Nat} :
    toString first = toString second ↔ first = second := by
  constructor
  · intro heq
    have hdigits : Nat.toDigits 10 first = Nat.toDigits 10 second := by
      simpa using congrArg String.toList heq
    simpa using congrArg (fun digits => Nat.ofDigitChars 10 digits 0) hdigits
  · exact congrArg toString

theorem Table.nodeId_inj {first second : Table} :
    first.nodeId = second.nodeId ↔ first.id = second.id := by
  rw [nodeId, nodeId, String.append_right_inj, toString_number_inj]

/-! ## The statement -/

/-- The numbers of the columns of a graph, in order. -/
def Graph.columnNumbers (graph : Graph) : List Nat :=
  graph.tables.flatMap (fun table => table.columns.map ColumnEntry.id)

/-- The numbers in the ids of a graph's tables and edges. -/
structure Graph.Numbered (graph : Graph) (tables edges : List Nat) : Prop where
  table_ids : graph.tables.map TableNode.id = tables.map (fun number => s!"table_{number}")
  edge_ids : graph.edges.map Edge.id = edges.map (fun number => s!"edge_{number}")
  distinct : (tables ++ graph.columnNumbers ++ edges).Nodup
  increasing : tables.Pairwise (· < ·)

theorem Graph.Numbered.table_ids_nodup {graph : Graph} {tables edges : List Nat}
    (hnumbered : graph.Numbered tables edges) : (graph.tables.map TableNode.id).Nodup := by
  have htables : tables.Nodup := hnumbered.increasing.imp Nat.ne_of_lt
  rw [hnumbered.table_ids]
  refine htables.map fun first second heq => ?_
  rwa [String.append_right_inj, toString_number_inj] at heq

/-- The node that belongs to an entry of a table node. -/
def TableNode.columnNode (table : TableNode) (entry : ColumnEntry) : ColumnNode :=
  { id := s!"column_{entry.id}"
    label := entry.name
    role := entry.role
    parent := table.id
    nodeType := .column }

/-- What holds of every graph of a run. -/
structure Graph.WellFormed (graph : Graph) : Prop where
  labels_nodup : (graph.tables.map TableNode.label).Nodup
  numbered : ∃ tables edges, graph.Numbered tables edges
  nodes_eq : graph.nodes = graph.tables.flatMap (fun table =>
    .table table :: table.columns.map (fun entry => .column (table.columnNode entry)))
  columns_younger : ∀ table ∈ graph.tables, ∀ number, table.id = s!"table_{number}" →
    ∀ entry ∈ table.columns, number < entry.id
  edge_label : ∀ edge ∈ graph.edges, edge.label = edge.kind
  edge_proper : ∀ edge ∈ graph.edges, edge.source ≠ edge.target
  edge_endpoints : ∀ edge ∈ graph.edges,
    edge.source ∈ graph.tables.map TableNode.id ∧ edge.target ∈ graph.tables.map TableNode.id
  totalTables_eq : graph.summary.totalTables = graph.tables.length
  totalRelationships_eq : graph.summary.totalRelationships = graph.edges.length
  tableTypes_iff : ∀ kind count, graph.summary.tableTypes.get kind = some count ↔
    0 < count ∧ count = (graph.tables.map TableNode.kind).count kind

/-! ## Nodes -/

@[simp]
theorem Registry.graph_tables (registry : Registry) :
    registry.graph.tables = registry.tables.map Table.node := by
  rw [Graph.tables, Registry.graph]
  induction registry.tables with
  | nil => rfl
  | cons table rest ih =>
    rw [List.flatMap_cons, List.filterMap_append, ih]
    simp [Table.nodes, List.filterMap_map]

theorem Table.nodes_eq (table : Table) :
    table.nodes = .table table.node ::
      table.node.columns.map (fun entry => .column (table.node.columnNode entry)) := by
  simp [nodes, node, List.map_map, Function.comp_def, columnNode, TableNode.columnNode,
    Column.nodeId]

theorem Registry.graph_columnNumbers (registry : Registry) :
    registry.graph.columnNumbers =
      registry.tables.flatMap (fun table => table.columns.map Column.id) := by
  simp [Graph.columnNumbers, List.flatMap_map, Table.node, Function.comp_def]

theorem KindCounts.get_ofList {kinds : List TableKind} {kind : TableKind} {count : Nat} :
    (KindCounts.ofList kinds).get kind = some count ↔
      0 < count ∧ count = kinds.count kind := by
  cases kind
  all_goals
    simp only [KindCounts.ofList, KindCounts.get]
    split
    · rename_i hnone
      rw [hnone]
      simp
      omega
    · rename_i hsome
      rw [Option.some_inj]
      have hpositive := Nat.pos_of_ne_zero hsome
      omega

/-! ## Edges -/

/-- Whether a relationship becomes an edge. -/
def Registry.emits (registry : Registry) (relationship : Relationship) : Bool :=
  registry.hasTable relationship.source && registry.hasTable relationship.target

theorem Registry.emits_iff {registry : Registry} {relationship : Relationship} :
    registry.emits relationship = true ↔
      relationship.source ∈ registry.names ∧ relationship.target ∈ registry.names := by
  rw [emits, Bool.and_eq_true, hasTable_iff, hasTable_iff]

theorem Registry.edge?_of_emits {registry : Registry} {relationship : Relationship}
    (hemits : registry.emits relationship = true) :
    ∃ source ∈ registry.tables, ∃ target ∈ registry.tables,
      source.name = relationship.source ∧ target.name = relationship.target ∧
      registry.edge? relationship =
        some ⟨relationship.edgeId, source.nodeId, target.nodeId, relationship.kind,
          relationship.kind⟩ := by
  obtain ⟨hsource, htarget⟩ := emits_iff.mp hemits
  obtain ⟨source, hsourceFound⟩ := exists_table?_of_mem_names hsource
  obtain ⟨target, htargetFound⟩ := exists_table?_of_mem_names htarget
  obtain ⟨hsourceMem, hsourceName⟩ := mem_of_table?_eq_some hsourceFound
  obtain ⟨htargetMem, htargetName⟩ := mem_of_table?_eq_some htargetFound
  refine ⟨source, hsourceMem, target, htargetMem, hsourceName, htargetName, ?_⟩
  simp [edge?, hsourceFound, htargetFound]

theorem Registry.edge?_eq_none {registry : Registry} {relationship : Relationship}
    (hemits : ¬ registry.emits relationship = true) :
    registry.edge? relationship = none := by
  rw [emits_iff, not_and_or, ← table?_eq_none_iff, ← table?_eq_none_iff] at hemits
  rcases hemits with hnone | hnone
  · simp [edge?, hnone]
  · simp [edge?, hnone]

/-- The edges are those of the relationships between registered tables, one for each, in order: any
reading of edges that agrees with one of relationships goes through. -/
theorem Registry.map_graph_edges {α : Type*} {registry : Registry} {ofEdge : Edge → α}
    {ofRelationship : Relationship → α}
    (hagree : ∀ relationship ∈ registry.relationships, ∀ edge,
      registry.edge? relationship = some edge → ofEdge edge = ofRelationship relationship) :
    registry.graph.edges.map ofEdge =
      (registry.relationships.filter registry.emits).map ofRelationship := by
  change (registry.relationships.filterMap registry.edge?).map ofEdge = _
  generalize registry.relationships = relationships at hagree
  induction relationships with
  | nil => rfl
  | cons relationship rest ih =>
    have hrest := ih fun other hother => hagree other (List.mem_cons_of_mem _ hother)
    by_cases hemits : registry.emits relationship = true
    · obtain ⟨source, _, target, _, _, _, hedge⟩ := edge?_of_emits hemits
      rw [List.filterMap_cons_some hedge, List.filter_cons_of_pos hemits, List.map_cons,
        List.map_cons, hrest, hagree relationship List.mem_cons_self _ hedge]
    · rw [List.filterMap_cons_none (edge?_eq_none hemits), List.filter_cons_of_neg hemits, hrest]

/-- Where an edge comes from. -/
theorem Registry.mem_graph_edges {registry : Registry} {edge : Edge}
    (hedge : edge ∈ registry.graph.edges) :
    ∃ relationship ∈ registry.relationships, ∃ source ∈ registry.tables,
      ∃ target ∈ registry.tables,
      source.name = relationship.source ∧ target.name = relationship.target ∧
      edge = ⟨relationship.edgeId, source.nodeId, target.nodeId, relationship.kind,
        relationship.kind⟩ := by
  obtain ⟨relationship, hrelationship, hsome⟩ := List.mem_filterMap.mp hedge
  by_cases hemits : registry.emits relationship = true
  · obtain ⟨source, hsource, target, htarget, hsourceName, htargetName, heq⟩ :=
      edge?_of_emits hemits
    exact ⟨relationship, hrelationship, source, hsource, target, htarget, hsourceName,
      htargetName, Option.some.inj (hsome.symm.trans heq)⟩
  · rw [edge?_eq_none hemits] at hsome
    cases hsome

/-! ## Graphs of runs -/

theorem Registry.graph_numbered {registry : Registry} (hformed : registry.WellFormed) :
    registry.graph.Numbered (registry.tables.map Table.id)
      ((registry.relationships.filter registry.emits).map Relationship.id) where
  table_ids := by
    rw [graph_tables, List.map_map, List.map_map]
    rfl
  edge_ids := by
    rw [List.map_map]
    apply map_graph_edges
    intro relationship _ edge hedge
    by_cases hemits : registry.emits relationship = true
    · obtain ⟨_, _, _, _, _, _, heq⟩ := edge?_of_emits hemits
      rw [← Option.some.inj (heq.symm.trans hedge)]
      rfl
    · rw [edge?_eq_none hemits] at hedge
      cases hedge
  distinct := by
    rw [graph_columnNumbers]
    have htables : (registry.tables.flatMap Table.ids).Perm
        (registry.tables.map Table.id ++
          registry.tables.flatMap (fun table => table.columns.map Column.id)) := by
      induction registry.tables with
      | nil => exact .refl _
      | cons table rest ih =>
        rw [List.flatMap_cons, List.map_cons, List.flatMap_cons, Table.ids, List.cons_append,
          List.cons_append]
        refine List.Perm.cons _ ((ih.append_left _).trans ?_)
        rw [← List.append_assoc, ← List.append_assoc]
        exact List.perm_append_comm.append_right _
    have hsublist : ((registry.relationships.filter registry.emits).map Relationship.id).Sublist
        (registry.relationships.map Relationship.id) := List.filter_sublist.map _
    exact ((htables.append_right _).nodup_iff.mp hformed.ids_nodup).sublist
      (hsublist.append_left _)
  increasing := hformed.tables_increasing

theorem Registry.graph_wellFormed {registry : Registry} (hformed : registry.WellFormed) :
    registry.graph.WellFormed where
  labels_nodup := by
    rw [graph_tables, List.map_map]
    exact hformed.names_nodup
  numbered := ⟨_, _, graph_numbered hformed⟩
  nodes_eq := by
    rw [graph_tables, List.flatMap_map]
    change registry.tables.flatMap Table.nodes = _
    congr 1
    funext table
    exact table.nodes_eq
  columns_younger := by
    intro node hnode number hid entry hentry
    rw [graph_tables] at hnode
    obtain ⟨table, htable, rfl⟩ := List.mem_map.mp hnode
    obtain ⟨column, hcolumn, rfl⟩ := List.mem_map.mp hentry
    have hnumber : table.id = number := by
      rwa [Table.node, Table.nodeId, String.append_right_inj, toString_number_inj] at hid
    rw [← hnumber]
    exact hformed.columns_younger table htable column hcolumn
  edge_label := by
    intro edge hedge
    obtain ⟨_, _, _, _, _, _, _, _, rfl⟩ := mem_graph_edges hedge
    rfl
  edge_proper := by
    intro edge hedge
    obtain ⟨relationship, hrelationship, source, hsource, target, htarget, hsourceName,
      htargetName, rfl⟩ := mem_graph_edges hedge
    intro heq
    have hid : source.id = target.id := Table.nodeId_inj.mp heq
    have hsame : source = target :=
      List.inj_on_of_nodup_map (hformed.tables_increasing.imp Nat.ne_of_lt) hsource htarget hid
    apply hformed.relationships_proper relationship hrelationship
    rw [← hsourceName, ← htargetName, hsame]
  edge_endpoints := by
    intro edge hedge
    obtain ⟨relationship, _, source, hsource, target, htarget, _, _, rfl⟩ :=
      mem_graph_edges hedge
    rw [graph_tables, List.map_map]
    exact ⟨List.mem_map.mpr ⟨source, hsource, rfl⟩, List.mem_map.mpr ⟨target, htarget, rfl⟩⟩
  totalTables_eq := by
    rw [graph_tables, List.length_map]
    rfl
  totalRelationships_eq := rfl
  tableTypes_iff := by
    intro kind count
    rw [graph_tables, List.map_map]
    exact KindCounts.get_ofList

/-- The registry at the end of a run over statements. -/
def registryOf (options : Options) (statements : List Statement) : Registry :=
  analyzeAll options (statements.map (fun statement => ⟨statement, none⟩)) {}

theorem analyzeStatements_graph (options : Options) (statements : List Statement) :
    (analyzeStatements options statements).graph = (registryOf options statements).graph := rfl

theorem registryOf_grows (options : Options) (statements : List Statement) :
    Grows {} (registryOf options statements) :=
  analyzeAll_grows options _ {}

theorem registryOf_wellFormed (options : Options) (statements : List Statement) :
    (registryOf options statements).WellFormed :=
  wellFormed_empty.grows (registryOf_grows options statements)

/-- The graph of every run is well formed, whatever the statements and the options. -/
theorem analyzeStatements_graph_wellFormed (options : Options) (statements : List Statement) :
    (analyzeStatements options statements).graph.WellFormed :=
  Registry.graph_wellFormed (registryOf_wellFormed options statements)

end SqlLineage
