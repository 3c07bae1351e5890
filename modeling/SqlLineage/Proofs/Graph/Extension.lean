import SqlLineage.Proofs.Graph.WellFormed
import SqlLineage.Proofs.Registry.Extension

/-!
# Longer runs

A run over more statements only adds to the result.  Table nodes keep their places, ids, labels and
kinds, and their columns come first among those of the longer run.  An edge stays as it is; between
two edges new ones may appear, for a relationship whose end was not registered before can be drawn
once a later statement registers it.
-/

namespace SqlLineage

open Registry

/-- A table node in the graph of a longer run. -/
structure TableNode.Extends (before after : TableNode) : Prop where
  id_eq : after.id = before.id
  label_eq : after.label = before.label
  kind_eq : after.kind = before.kind
  columns_prefix : before.columns <+: after.columns

/-- The result of a longer run. -/
structure Result.Extends (before after : Result) : Prop where
  tables : ∀ (position : Nat) (table : TableNode),
    before.graph.tables[position]? = some table →
      ∃ later, after.graph.tables[position]? = some later ∧ table.Extends later
  edges : before.graph.edges.Sublist after.graph.edges
  issues : before.issues <+: after.issues

theorem Table.Extends.node {before after : Table} (hextends : before.Extends after) :
    before.node.Extends after.node where
  id_eq := by rw [Table.node, Table.node, Table.nodeId, Table.nodeId, hextends.id_eq]
  label_eq := hextends.name_eq
  kind_eq := hextends.kind_eq
  columns_prefix := hextends.columns_prefix.map _

/-- What a more generous choice keeps of a list. -/
theorem filterMap_sublist_filterMap {α β : Type*} {first second : α → Option β}
    (hmore : ∀ element kept, first element = some kept → second element = some kept)
    (elements : List α) :
    (elements.filterMap first).Sublist (elements.filterMap second) := by
  induction elements with
  | nil => exact List.Sublist.refl []
  | cons element rest ih =>
    cases hfirst : first element with
    | none =>
      rw [List.filterMap_cons_none hfirst]
      cases hsecond : second element with
      | none => rwa [List.filterMap_cons_none hsecond]
      | some added =>
        rw [List.filterMap_cons_some hsecond]
        exact ih.cons added
    | some kept =>
      rw [List.filterMap_cons_some hfirst, List.filterMap_cons_some (hmore element kept hfirst)]
      exact ih.cons_cons kept

/-- An edge is drawn between the same nodes later on. -/
theorem Registry.Extends.edge?_eq_some {before after : Registry}
    (hextends : before.Extends after) (hformed : after.WellFormed)
    {relationship : Relationship} {edge : Edge} (hedge : before.edge? relationship = some edge) :
    after.edge? relationship = some edge := by
  rw [edge?] at hedge
  split at hedge
  · rename_i source target hsource htarget
    obtain ⟨laterSource, hlaterSource, hsourceGrown⟩ :=
      hextends.table?_eq_some hformed hsource
    obtain ⟨laterTarget, hlaterTarget, htargetGrown⟩ :=
      hextends.table?_eq_some hformed htarget
    rw [edge?, hlaterSource, hlaterTarget, ← hedge]
    simp only [Table.nodeId, hsourceGrown.id_eq, htargetGrown.id_eq]
  · cases hedge

theorem Registry.Extends.graph_edges_sublist {before after : Registry}
    (hextends : before.Extends after) (hformed : after.WellFormed) :
    before.graph.edges.Sublist after.graph.edges := by
  have hsame : (before.relationships.filterMap before.edge?).Sublist
      (before.relationships.filterMap after.edge?) :=
    filterMap_sublist_filterMap (fun _ _ hedge => hextends.edge?_eq_some hformed hedge) _
  have hmore : (before.relationships.filterMap after.edge?).Sublist
      (after.relationships.filterMap after.edge?) :=
    hextends.relationships.sublist.filterMap _
  exact hsame.trans hmore

theorem Registry.Extends.graph_tables_getElem? {before after : Registry}
    (hextends : before.Extends after) {position : Nat} {node : TableNode}
    (hfound : before.graph.tables[position]? = some node) :
    ∃ later, after.graph.tables[position]? = some later ∧ node.Extends later := by
  rw [graph_tables, List.getElem?_map, Option.map_eq_some_iff] at hfound
  obtain ⟨table, htable, rfl⟩ := hfound
  obtain ⟨later, hlater, hgrown⟩ := hextends.tables position table htable
  refine ⟨later.node, ?_, hgrown.node⟩
  rw [graph_tables, List.getElem?_map, hlater, Option.map_some]

/-- The warnings for a list of statements come before those for the statements behind it. -/
theorem issuesFrom_append (index : Nat) (first second : List SourcedStatement) :
    issuesFrom index (first ++ second) =
      issuesFrom index first ++ issuesFrom (index + first.length) second := by
  induction first generalizing index with
  | nil => rfl
  | cons input rest ih =>
    obtain ⟨statement, sourceName⟩ := input
    have hrest := ih (index + 1)
    rw [Nat.add_assoc, Nat.add_comm 1] at hrest
    cases statement with
    | unsupported kind =>
      rw [List.cons_append, issuesFrom, issuesFrom, List.cons_append, hrest, List.length_cons]
    | select _ | insert _ | update _ | delete _ | createTable _ | createView _ | alterTable _ =>
      exact hrest

theorem registryOf_append (options : Options) (statements later : List Statement) :
    registryOf options (statements ++ later) =
      analyzeAll options (later.map (fun statement => ⟨statement, none⟩))
        (registryOf options statements) := by
  rw [registryOf, registryOf, List.map_append]
  exact List.foldl_append

/-- Runs only extend: whatever statements come later, the result for the earlier ones is found again
in the longer result. -/
theorem analyzeStatements_append_extends (options : Options)
    (statements later : List Statement) :
    (analyzeStatements options statements).Extends
      (analyzeStatements options (statements ++ later)) := by
  have hgrows : Grows (registryOf options statements)
      (registryOf options (statements ++ later)) := by
    rw [registryOf_append]
    exact analyzeAll_grows options _ _
  have hformed := registryOf_wellFormed options (statements ++ later)
  constructor
  · intro position table hfound
    exact hgrows.extends.graph_tables_getElem? hfound
  · exact hgrows.extends.graph_edges_sublist hformed
  · rw [analyzeStatements, analyzeStatements, List.map_append, analyzeSourced, analyzeSourced,
      issuesFrom_append]
    exact List.prefix_append _ _

end SqlLineage
