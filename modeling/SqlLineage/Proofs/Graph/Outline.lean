import SqlLineage.Proofs.Analysis.Events
import SqlLineage.Proofs.Graph.Relationships
import SqlLineage.Proofs.Registry.Outline

/-!
# Graphs without their numbers

The outline of a graph has its table nodes and its edges without ids; an edge is given by the labels
at its ends.  It is told by the outline and the links of the registry alone, and both follow the
events of a run.
-/

namespace SqlLineage

open Registry

/-! ## Outlines follow events -/

section Record

variable {first second : Registry}

theorem linkedSources_congr (hsame : first.outline = second.outline) (linking : SourceLinking)
    (reads : List String) :
    linkedSources linking reads first = linkedSources linking reads second := by
  cases linking with
  | allKnownSources =>
    rw [linkedSources, linkedSources, namesOfKind_eq_outline, namesOfKind_eq_outline, hsame]
  | statementSources => rfl

/-- What an event does to the outline does not depend on how sources are linked. -/
theorem outline_record_congr (hsame : first.outline = second.outline)
    (linking other : SourceLinking) (event : Event) :
    (first.record linking event).outline = (second.record other event).outline := by
  cases event with
  | table name kind => exact outline_ensureTable_congr hsame name kind
  | column table name role => exact outline_ensureColumn_congr hsame table name role
  | relationship source target kind => simpa [record] using hsame
  | link reads target kind => simpa [record] using hsame

/-- The links that an event adds. -/
def Registry.added (linking : SourceLinking) (registry : Registry) : Event → List Link
  | .relationship source target kind => if source = target then [] else [⟨source, kind, target⟩]
  | .link reads target kind =>
    ((linkedSources linking reads registry).filter (· ≠ target)).map
      (fun source => ⟨source, kind, target⟩)
  | _ => []

theorem links_record (linking : SourceLinking) (registry : Registry) (event : Event) :
    (registry.record linking event).links = registry.links ++ registry.added linking event := by
  cases event with
  | table name kind => simp [record, added]
  | column table name role => simp [record, added]
  | relationship source target kind => exact links_addRelationship registry source target kind
  | link reads target kind => exact links_addRelationships registry _ target kind

theorem added_congr (hsame : first.outline = second.outline) (linking : SourceLinking)
    (event : Event) : first.added linking event = second.added linking event := by
  cases event with
  | link reads target kind => rw [added, added, linkedSources_congr hsame]
  | table _ _ | column _ _ _ | relationship _ _ _ => rfl

end Record

/-! ## Outlines of graphs -/

/-- A graph without ids.  The ends of its edges are given by their labels. -/
structure GraphOutline where
  tables : List TableOutline
  edges : List (Option String × RelationshipKind × Option String)
  deriving DecidableEq, Repr

def TableNode.outline (table : TableNode) : TableOutline :=
  ⟨table.label, table.kind, table.columns.map (fun entry => (entry.name, entry.role))⟩

def Graph.outline (graph : Graph) : GraphOutline where
  tables := graph.tables.map TableNode.outline
  edges := graph.edges.map (fun edge =>
    (graph.tableLabel? edge.source, edge.kind, graph.tableLabel? edge.target))

/-- Both ends of a link are registered. -/
def Registry.Draws (registry : Registry) (link : Link) : Prop :=
  link.source ∈ registry.names ∧ link.target ∈ registry.names

instance (registry : Registry) : DecidablePred registry.Draws :=
  fun _ => inferInstanceAs (Decidable (_ ∧ _))

/-- Which links are drawn is told by the names that are registered. -/
theorem Registry.draws_congr {first second : Registry}
    (hnames : ∀ name, name ∈ first.names ↔ name ∈ second.names) (link : Link) :
    first.Draws link ↔ second.Draws link :=
  and_congr (hnames link.source) (hnames link.target)

/-- An edge between tables of those labels. -/
def Link.edge (link : Link) : Option String × RelationshipKind × Option String :=
  (some link.source, link.kind, some link.target)

theorem Link.edge_injective : Function.Injective Link.edge := by
  rintro ⟨source, kind, target⟩ ⟨otherSource, otherKind, otherTarget⟩ heq
  simpa [edge] using heq

/-- The outline of a graph has the tables of the registry, and the links that can be drawn. -/
theorem Registry.graph_outline {registry : Registry} (hformed : registry.WellFormed) :
    registry.graph.outline =
      ⟨registry.outline, (registry.links.filter registry.Draws).map Link.edge⟩ := by
  have htables : registry.graph.tables.map TableNode.outline = registry.outline := by
    rw [graph_tables, List.map_map, outline]
    apply List.map_congr_left
    intro table _
    simp [Table.node, TableNode.outline, Table.outline]
  have hedges : registry.graph.edges.map (fun edge => (registry.graph.reading edge).2) =
      (registry.relationships.filter registry.emits).map
        (fun relationship => relationship.link.edge) :=
    map_graph_edges fun relationship _ edge hedge =>
      congrArg Prod.snd (graph_reading hformed hedge)
  have hdraws : ∀ relationship : Relationship,
      registry.emits relationship = decide (registry.Draws relationship.link) := by
    intro relationship
    rw [Bool.eq_iff_iff, emits_iff, decide_eq_true_iff]
    rfl
  have hlinks : (registry.links.filter registry.Draws).map Link.edge =
      (registry.relationships.filter registry.emits).map
        (fun relationship => relationship.link.edge) := by
    rw [links, List.filter_map, List.map_map]
    exact congrArg (List.map _) (List.filter_congr fun relationship _ =>
      (hdraws relationship).symm)
  rw [Graph.outline, htables, hlinks, ← hedges]
  rfl

theorem analyzeStatements_outline (options : Options) (statements : List Statement) :
    (analyzeStatements options statements).graph.outline =
      ⟨(registryOf options statements).outline,
        ((registryOf options statements).links.filter
          (registryOf options statements).Draws).map Link.edge⟩ :=
  graph_outline (registryOf_wellFormed options statements)

end SqlLineage
