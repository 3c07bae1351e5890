import SqlLineage.Proofs.Graph.WellFormed

/-!
# Relationships become edges

A relationship of a run ends at registered tables or at the name for unknown owners, so a
relationship between two other names is always drawn: as one edge, in the order of recording, under
its own number.
-/

namespace SqlLineage

open Registry

/-- Both ends of every relationship are registered, or unknown. -/
def Registry.EndpointsKnown (registry : Registry) : Prop :=
  ∀ relationship ∈ registry.relationships,
    registry.Known relationship.source ∧ registry.Known relationship.target

theorem Registry.EndpointsKnown.step {registry next : Registry}
    (hknown : registry.EndpointsKnown) (hstep : Step registry next) : next.EndpointsKnown := by
  have hgrows : Grows registry next := .single hstep
  have hold : ∀ relationship ∈ registry.relationships,
      next.Known relationship.source ∧ next.Known relationship.target :=
    fun relationship hrelationship =>
      ⟨(hknown relationship hrelationship).1.mono hgrows,
        (hknown relationship hrelationship).2.mono hgrows⟩
  cases hstep with
  | table name kind hnew => exact hold
  | column owner name role howner hunknown hnew => exact hold
  | relationship source target kind hne hsource htarget =>
    intro relationship hrelationship
    rcases List.mem_append.mp hrelationship with hbefore | hlast
    · exact hold relationship hbefore
    · rw [List.mem_singleton.mp hlast]
      exact ⟨hsource.mono hgrows, htarget.mono hgrows⟩

theorem registryOf_endpointsKnown (options : Options) (statements : List Statement) :
    (registryOf options statements).EndpointsKnown :=
  (registryOf_grows options statements).keeps (fun _ _ hknown hstep => hknown.step hstep)
    (by simp [EndpointsKnown])

theorem Registry.EndpointsKnown.emits {registry : Registry} (hknown : registry.EndpointsKnown)
    {relationship : Relationship} (hrelationship : relationship ∈ registry.relationships)
    (hsource : relationship.source ≠ unknownTable)
    (htarget : relationship.target ≠ unknownTable) : registry.emits relationship = true := by
  obtain ⟨hsourceKnown, htargetKnown⟩ := hknown relationship hrelationship
  exact emits_iff.mpr ⟨hsourceKnown.resolve_left hsource, htargetKnown.resolve_left htarget⟩

/-- Looking an id up finds the table that has it. -/
theorem Registry.graph_tableLabel? {registry : Registry} (hformed : registry.WellFormed)
    {table : Table} (htable : table ∈ registry.tables) :
    registry.graph.tableLabel? table.nodeId = some table.name := by
  rw [Graph.tableLabel?, graph_tables]
  cases hfound : (registry.tables.map Table.node).find? (fun node => node.id == table.nodeId) with
  | none =>
    have habsent := List.find?_eq_none.mp hfound table.node (List.mem_map_of_mem htable)
    simp [Table.node] at habsent
  | some node =>
    obtain ⟨other, hother, rfl⟩ := List.mem_map.mp (List.mem_of_find?_eq_some hfound)
    have hid : other.id = table.id := by
      simpa [Table.node, Table.nodeId_inj] using List.find?_some hfound
    obtain rfl : other = table :=
      List.inj_on_of_nodup_map (hformed.tables_increasing.imp Nat.ne_of_lt) hother htable hid
    rfl

/-- An edge with its ends read as labels. -/
def Graph.reading (graph : Graph) (edge : Edge) :
    String × Option String × RelationshipKind × Option String :=
  (edge.id, graph.tableLabel? edge.source, edge.kind, graph.tableLabel? edge.target)

theorem Registry.graph_reading {registry : Registry} (hformed : registry.WellFormed)
    {relationship : Relationship} {edge : Edge}
    (hedge : registry.edge? relationship = some edge) :
    registry.graph.reading edge =
      (s!"edge_{relationship.id}", some relationship.source, relationship.kind,
        some relationship.target) := by
  by_cases hemits : registry.emits relationship = true
  · obtain ⟨source, hsource, target, htarget, hsourceName, htargetName, heq⟩ :=
      edge?_of_emits hemits
    rw [← Option.some.inj (heq.symm.trans hedge), Graph.reading,
      graph_tableLabel? hformed hsource, graph_tableLabel? hformed htarget, hsourceName,
      htargetName]
    rfl
  · rw [edge?_eq_none hemits] at hedge
    cases hedge

/-- No relationship between two names other than the unknown one is lost: both are registered at the
end of the run.  The edges are, one for each and in order, the relationships between registered
names, each with its own number and kind. -/
theorem analyzeStatements_edges (options : Options) (statements : List Statement) :
    let registry := registryOf options statements
    let graph := (analyzeStatements options statements).graph
    (∀ relationship ∈ registry.relationships,
      relationship.source ≠ unknownTable → relationship.target ≠ unknownTable →
        registry.hasTable relationship.source = true ∧
          registry.hasTable relationship.target = true) ∧
    (registry.relationships.map Relationship.id).Nodup ∧
    graph.edges.map graph.reading =
      (registry.relationships.filter (fun relationship =>
        registry.hasTable relationship.source && registry.hasTable relationship.target)).map
        (fun relationship =>
          (s!"edge_{relationship.id}", some relationship.source, relationship.kind,
            some relationship.target)) := by
  intro registry graph
  have hformed := registryOf_wellFormed options statements
  refine ⟨fun relationship hrelationship hsource htarget => ?_, ?_, ?_⟩
  · have hemits :=
      (registryOf_endpointsKnown options statements).emits hrelationship hsource htarget
    simpa [emits] using hemits
  · exact hformed.ids_nodup.sublist (List.sublist_append_right _ _)
  · exact map_graph_edges fun relationship _ edge hedge => graph_reading hformed hedge

end SqlLineage
