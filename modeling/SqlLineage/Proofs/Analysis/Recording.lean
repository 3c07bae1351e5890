import SqlLineage.Proofs.Graph.Outline
import SqlLineage.Proofs.Registry.Inventory

/-!
# What events register

An event says by itself which tables and columns are registered after it, and, if targets are linked
to the sources of their own statement, which links it adds.  So the names that a run registers are
those of its events, in whatever order they come, and an event whose names are registered already
leaves all tables as they are.
-/

namespace SqlLineage

open Registry

/-- The tables that an event registers, with the kinds that they get if they are new. -/
def Event.tables : Event → List (String × TableKind)
  | .table name kind => [(name, kind)]
  | .column owner _ _ => if owner = unknownTable then [] else [(owner, .source)]
  | _ => []

/-- The names of the tables that events register. -/
def Event.names (events : List Event) : List String :=
  (events.flatMap Event.tables).map Prod.fst

/-- The columns that an event registers, each behind the name of its table. -/
def Event.columns : Event → List (String × String)
  | .column owner name _ => if owner = unknownTable then [] else [(owner, name)]
  | _ => []

/-- The links that an event adds where targets are linked to what their own statement reads. -/
def Event.links : Event → List Link
  | .relationship source target kind => if source = target then [] else [⟨source, kind, target⟩]
  | .link reads target kind =>
    ((firstOccurrences reads).filter (· ≠ target)).map (fun source => ⟨source, kind, target⟩)
  | _ => []

theorem Link.injective_source (target : String) (kind : RelationshipKind) :
    Function.Injective (fun source => (⟨source, kind, target⟩ : Link)) :=
  fun _ _ heq => congrArg Link.source heq

/-- A table that is read by events is registered by them. -/
theorem Event.mem_names_of_mem_reads {events : List Event} {name : String}
    (hname : name ∈ Event.reads events) : name ∈ Event.names events := by
  obtain ⟨event, hevent, hread⟩ := List.mem_filterMap.mp hname
  have htable : event = .table name .source := by
    cases event with
    | table read kind =>
      cases kind with
      | source => rw [Option.some.inj hread]
      | table | view | target => cases hread
    | column _ _ _ | relationship _ _ _ | link _ _ _ => cases hread
  subst htable
  have hmem : (name, TableKind.source) ∈ events.flatMap Event.tables :=
    List.mem_flatMap_of_mem hevent List.mem_cons_self
  exact List.mem_map_of_mem hmem

/-! ## One event -/

section Record

variable {linking : SourceLinking} {registry : Registry} {event : Event}

theorem mem_names_record {name : String} :
    name ∈ (registry.record linking event).names ↔
      name ∈ event.tables.map Prod.fst ∨ name ∈ registry.names := by
  cases event with
  | table other kind => simp [record, Event.tables]
  | column table column role =>
    rw [record, mem_names_ensureColumn, Event.tables]
    by_cases hknown : table = unknownTable
    · simp [hknown]
    · simp [hknown]
  | relationship source target kind => simp [record, Event.tables]
  | link reads target kind => simp [record, Event.tables]

/-- An event gives a kind to a table that is new. -/
theorem mem_namesOfKind_record {name : String} {kind : TableKind} :
    name ∈ (registry.record linking event).namesOfKind kind ↔
      ((name, kind) ∈ event.tables ∧ name ∉ registry.names) ∨
        name ∈ registry.namesOfKind kind := by
  cases event with
  | table other otherKind =>
    rw [record, mem_namesOfKind_ensureTable, Event.tables, List.mem_singleton]
  | column table column role =>
    by_cases hknown : table = unknownTable
    · simp [record, hknown, Event.tables]
    · rw [record, namesOfKind_ensureColumn kind hknown, mem_namesOfKind_ensureTable,
        Event.tables, if_neg hknown, List.mem_singleton]
  | relationship source target kind => simp [record, Event.tables, namesOfKind]
  | link reads target kind => simp [record, Event.tables, namesOfKind]

theorem mem_columnNames_record {entry : String × String} :
    entry ∈ (registry.record linking event).columnNames ↔
      entry ∈ event.columns ∨ entry ∈ registry.columnNames := by
  cases event with
  | table other kind => simp [record, Event.columns]
  | column table column role =>
    rw [record, mem_columnNames_ensureColumn, Event.columns]
    by_cases hknown : table = unknownTable
    · simp [hknown]
    · simp [hknown]
  | relationship source target kind => simp [record, Event.columns, columnNames]
  | link reads target kind => simp [record, Event.columns, columnNames]

theorem names_nodup_record (hnodup : registry.names.Nodup) :
    (registry.record linking event).names.Nodup := by
  cases event with
  | table name kind => exact names_nodup_ensureTable hnodup
  | column table name role => exact names_nodup_ensureColumn hnodup
  | relationship source target kind => simpa [record] using hnodup
  | link reads target kind => simpa [record] using hnodup

theorem added_statementSources (registry : Registry) (event : Event) :
    registry.added .statementSources event = event.links := by
  cases event <;> rfl

end Record

/-! ## Lists of events -/

section RecordAll

variable {linking : SourceLinking} {registry : Registry} {events : List Event}

/-- The tables of a registry after events are those from before and those of the events. -/
theorem mem_names_recordAll {name : String} :
    name ∈ (registry.recordAll linking events).names ↔
      name ∈ Event.names events ∨ name ∈ registry.names := by
  induction events generalizing registry with
  | nil => simp [Event.names]
  | cons event rest ih =>
    rw [recordAll_cons, ih, mem_names_record, Event.names, Event.names, List.flatMap_cons,
      List.map_append, List.mem_append, or_left_comm, or_assoc]

theorem mem_columnNames_recordAll {entry : String × String} :
    entry ∈ (registry.recordAll linking events).columnNames ↔
      entry ∈ events.flatMap Event.columns ∨ entry ∈ registry.columnNames := by
  induction events generalizing registry with
  | nil => simp
  | cons event rest ih =>
    rw [recordAll_cons, ih, mem_columnNames_record, List.flatMap_cons, List.mem_append,
      or_left_comm, or_assoc]

/-- Links to the sources of the own statement do not depend on the registry. -/
theorem links_recordAll_statementSources (registry : Registry) (events : List Event) :
    (registry.recordAll .statementSources events).links =
      registry.links ++ events.flatMap Event.links := by
  induction events generalizing registry with
  | nil => simp
  | cons event rest ih =>
    rw [recordAll_cons, ih, links_record, added_statementSources, List.flatMap_cons,
      List.append_assoc]

end RecordAll

/-! ## Events that register nothing new -/

/-- Every name of an event is registered. -/
structure Registry.Holds (registry : Registry) (event : Event) : Prop where
  tables : ∀ name ∈ event.tables.map Prod.fst, name ∈ registry.names
  columns : ∀ entry ∈ event.columns, entry ∈ registry.columnNames

/-- Whether an event is held is told by the tables alone. -/
theorem Registry.Holds.congr {first second : Registry} (htables : first.tables = second.tables)
    {event : Event} (hholds : first.Holds event) : second.Holds event where
  tables := by
    rw [names, ← htables]
    exact hholds.tables
  columns := by
    rw [columnNames, ← htables]
    exact hholds.columns

/-- What was recorded is held. -/
theorem holds_recordAll (linking : SourceLinking) (registry : Registry) {events : List Event}
    {event : Event} (hevent : event ∈ events) :
    (registry.recordAll linking events).Holds event where
  tables := by
    intro name hname
    obtain ⟨entry, hentry, rfl⟩ := List.mem_map.mp hname
    have hmem : entry ∈ events.flatMap Event.tables := List.mem_flatMap_of_mem hevent hentry
    exact mem_names_recordAll.mpr (Or.inl (List.mem_map_of_mem hmem))
  columns := by
    intro entry hentry
    exact mem_columnNames_recordAll.mpr (Or.inl (List.mem_flatMap_of_mem hevent hentry))

theorem tables_record_of_holds {registry : Registry} (hnodup : registry.names.Nodup)
    {event : Event} (hholds : registry.Holds event) (linking : SourceLinking) :
    (registry.record linking event).tables = registry.tables := by
  cases event with
  | table name kind =>
    have hname : name ∈ registry.names := hholds.tables name (by simp [Event.tables])
    rw [record, ensureTable_of_mem hname]
  | column table name role =>
    by_cases hknown : table = unknownTable
    · rw [record, hknown, ensureColumn_unknown]
    · have hcolumn : (table, name) ∈ registry.columnNames :=
        hholds.columns (table, name) (by simp [Event.columns, hknown])
      rw [record, ensureColumn_of_mem hnodup hcolumn]
  | relationship source target kind => exact tables_addRelationship registry source target kind
  | link reads target kind => exact tables_addRelationships registry _ target kind

/-- Recording what is held leaves the tables as they are, with their numbers. -/
theorem tables_recordAll_of_holds {registry : Registry} (hnodup : registry.names.Nodup)
    {events : List Event} (hholds : ∀ event ∈ events, registry.Holds event)
    (linking : SourceLinking) :
    (registry.recordAll linking events).tables = registry.tables := by
  induction events generalizing registry with
  | nil => rfl
  | cons event rest ih =>
    have hfirst : (registry.record linking event).tables = registry.tables :=
      tables_record_of_holds hnodup (hholds event List.mem_cons_self) linking
    have hnames : (registry.record linking event).names.Nodup := names_nodup_record hnodup
    have hrest : ∀ other ∈ rest, (registry.record linking event).Holds other := by
      intro other hother
      exact (hholds other (List.mem_cons_of_mem _ hother)).congr hfirst.symm
    rw [recordAll_cons, ih hnames hrest, hfirst]

/-! ## Labels -/

/-- The columns of a graph: the label of the table, then the name of the column. -/
def Graph.columnLabels (graph : Graph) : List (String × String) :=
  graph.tables.flatMap (fun table => table.columns.map (fun entry => (table.label, entry.name)))

theorem Registry.graph_labels (registry : Registry) :
    registry.graph.tables.map TableNode.label = registry.names := by
  rw [graph_tables, List.map_map]
  rfl

theorem Registry.graph_columnLabels (registry : Registry) :
    registry.graph.columnLabels = registry.columnNames := by
  rw [Graph.columnLabels, graph_tables, List.flatMap_map, columnNames]
  congr 1
  funext table
  simp [Table.node, Table.columnNames]

end SqlLineage
