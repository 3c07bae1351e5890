import Mathlib.Data.List.Nodup
import SqlLineage.Proofs.Registry.Steps

/-!
# Well-formed registries

Names of tables are unique, the numbers from one to the counter are each given to one entity, tables
stand in the order of their numbers, and a column is younger than its table.  Every step keeps this,
so every registry that grows from the empty one is well formed.
-/

namespace SqlLineage

/-- The numbers of a table and of its columns. -/
def Table.ids (table : Table) : List Nat :=
  table.id :: table.columns.map Column.id

namespace Registry

/-- The numbers of all entities. -/
def ids (registry : Registry) : List Nat :=
  registry.tables.flatMap Table.ids ++ registry.relationships.map Relationship.id

/-- What holds of every registry of a run. -/
structure WellFormed (registry : Registry) : Prop where
  names_nodup : registry.names.Nodup
  nextId_pos : 0 < registry.nextId
  ids_perm : registry.ids.Perm (List.range' 1 (registry.nextId - 1))
  tables_increasing : (registry.tables.map Table.id).Pairwise (· < ·)
  columns_younger : ∀ table ∈ registry.tables, ∀ column ∈ table.columns, table.id < column.id
  columns_nodup : ∀ table ∈ registry.tables, (table.columns.map Column.name).Nodup
  unknown_bare : ∀ table ∈ registry.tables, table.name = unknownTable → table.columns = []
  relationships_proper : ∀ relationship ∈ registry.relationships,
    relationship.source ≠ relationship.target

theorem wellFormed_empty : WellFormed {} where
  names_nodup := List.nodup_nil
  nextId_pos := by decide
  ids_perm := List.Perm.refl _
  tables_increasing := List.Pairwise.nil
  columns_younger := by simp
  columns_nodup := by simp
  unknown_bare := by simp
  relationships_proper := by simp

theorem WellFormed.ids_nodup {registry : Registry} (hformed : registry.WellFormed) :
    registry.ids.Nodup :=
  hformed.ids_perm.nodup_iff.mpr List.nodup_range'

theorem WellFormed.id_lt_nextId {registry : Registry} (hformed : registry.WellFormed) {id : Nat}
    (hid : id ∈ registry.ids) : id < registry.nextId := by
  have hrange := hformed.ids_perm.mem_iff.mp hid
  have hpos := hformed.nextId_pos
  simp only [List.mem_range'_1] at hrange
  omega

theorem WellFormed.table_id_lt_nextId {registry : Registry} (hformed : registry.WellFormed)
    {table : Table} (htable : table ∈ registry.tables) : table.id < registry.nextId := by
  refine hformed.id_lt_nextId (List.mem_append_left _ (List.mem_flatMap.mpr ⟨table, htable, ?_⟩))
  exact List.mem_cons_self

/-- A new entity takes the number of the counter. -/
theorem WellFormed.perm_nextId {registry : Registry} (hformed : registry.WellFormed)
    {ids : List Nat} (hids : ids.Perm (registry.nextId :: registry.ids)) :
    ids.Perm (List.range' 1 (registry.nextId + 1 - 1)) := by
  have hpos := hformed.nextId_pos
  have hrange : List.range' 1 (registry.nextId + 1 - 1) =
      List.range' 1 (registry.nextId - 1) ++ [registry.nextId] := by
    rw [show registry.nextId + 1 - 1 = registry.nextId - 1 + 1 by omega, List.range'_1_concat]
    congr 2
    omega
  rw [hrange]
  calc
    ids.Perm (registry.nextId :: registry.ids) := hids
    _ |>.Perm (registry.nextId :: List.range' 1 (registry.nextId - 1)) :=
      hformed.ids_perm.cons _
    _ |>.Perm (List.range' 1 (registry.nextId - 1) ++ [registry.nextId]) :=
      (List.perm_append_singleton _ _).symm

/-- The numbers after a column was recorded: those from before and its own. -/
theorem flatMap_ids_appendColumn (column : Column) {name : String} {tables : List Table}
    (hnodup : (tables.map Table.name).Nodup) (hname : name ∈ tables.map Table.name) :
    ((appendColumn column name tables).flatMap Table.ids).Perm
      (column.id :: tables.flatMap Table.ids) := by
  induction tables with
  | nil => simp at hname
  | cons table rest ih =>
    rw [List.map_cons, List.nodup_cons] at hnodup
    by_cases htable : table.name = name
    · have habsent : name ∉ rest.map Table.name := htable ▸ hnodup.1
      have hrest := appendColumn_of_not_mem column habsent
      rw [appendColumn] at hrest
      simp only [appendColumn, List.map_cons, hrest, htable, beq_self_eq_true, if_true,
        List.flatMap_cons, Table.ids, List.map_append, List.map_nil]
      rw [← List.cons_append, List.append_assoc, List.singleton_append]
      exact List.perm_middle
    · have hmore : name ∈ rest.map Table.name := by
        simpa [Ne.symm htable] using hname
      have hrest := ih hnodup.2 hmore
      have htableEq : appendColumn column name (table :: rest) =
          table :: appendColumn column name rest := by
        simp [appendColumn, htable]
      rw [htableEq, List.flatMap_cons, List.flatMap_cons]
      exact (hrest.append_left table.ids).trans List.perm_middle

theorem WellFormed.step_table {registry : Registry} (hformed : registry.WellFormed)
    (name : String) (kind : TableKind) (hnew : name ∉ registry.names) :
    (registry.pushTable name kind hnew).WellFormed where
  names_nodup := by
    rw [names_pushTable, List.nodup_append]
    refine ⟨hformed.names_nodup, List.nodup_singleton _, ?_⟩
    intro known hknown other hother heq
    rw [heq, List.mem_singleton.mp hother] at hknown
    exact hnew hknown
  nextId_pos := Nat.succ_pos _
  ids_perm := by
    apply hformed.perm_nextId
    simp only [ids, tables_pushTable, relationships_pushTable, List.flatMap_append,
      List.flatMap_singleton, Table.ids, List.map_nil, List.append_assoc, List.singleton_append]
    exact List.perm_middle
  tables_increasing := by
    rw [tables_pushTable, List.map_append, List.pairwise_append]
    refine ⟨hformed.tables_increasing, List.pairwise_singleton _ _, ?_⟩
    intro id hid other hother
    obtain ⟨table, htable, rfl⟩ := List.mem_map.mp hid
    obtain rfl := List.mem_singleton.mp hother
    exact hformed.table_id_lt_nextId htable
  columns_younger := by
    intro table htable
    rcases List.mem_append.mp htable with hold | hlast
    · exact hformed.columns_younger table hold
    · simp [List.mem_singleton.mp hlast]
  columns_nodup := by
    intro table htable
    rcases List.mem_append.mp htable with hold | hlast
    · exact hformed.columns_nodup table hold
    · simp [List.mem_singleton.mp hlast]
  unknown_bare := by
    intro table htable
    rcases List.mem_append.mp htable with hold | hlast
    · exact hformed.unknown_bare table hold
    · simp [List.mem_singleton.mp hlast]
  relationships_proper := hformed.relationships_proper

theorem WellFormed.step_column {registry : Registry} (hformed : registry.WellFormed)
    {owner : Table} {name : String} (role : ColumnRole) (howner : owner ∈ registry.tables)
    (hknown : owner.name ≠ unknownTable) (hnew : name ∉ owner.columns.map Column.name) :
    (registry.pushColumn owner.name name role).WellFormed where
  names_nodup := by simpa using hformed.names_nodup
  nextId_pos := Nat.succ_pos _
  ids_perm := by
    apply hformed.perm_nextId
    exact (flatMap_ids_appendColumn _ hformed.names_nodup
      (List.mem_map_of_mem howner)).append_right _
  tables_increasing := by simpa using hformed.tables_increasing
  columns_younger := by
    intro table htable
    rcases mem_appendColumn htable with hold | ⟨changed, hchanged, _, rfl⟩
    · exact hformed.columns_younger table hold
    · intro column hcolumn
      rcases List.mem_append.mp hcolumn with hold | hlast
      · exact hformed.columns_younger changed hchanged column hold
      · simpa [List.mem_singleton.mp hlast] using hformed.table_id_lt_nextId hchanged
  columns_nodup := by
    intro table htable
    rcases mem_appendColumn htable with hold | ⟨changed, hchanged, hname, rfl⟩
    · exact hformed.columns_nodup table hold
    · obtain rfl : changed = owner :=
        List.inj_on_of_nodup_map hformed.names_nodup hchanged howner hname
      rw [List.map_append, List.nodup_append]
      refine ⟨hformed.columns_nodup changed hchanged, List.nodup_singleton _, ?_⟩
      intro known hold other hlast heq
      rw [heq, List.mem_singleton.mp hlast] at hold
      exact hnew hold
  unknown_bare := by
    intro table htable hunknown
    rcases mem_appendColumn htable with hold | ⟨changed, _, hname, rfl⟩
    · exact hformed.unknown_bare table hold hunknown
    · exact absurd (hname.symm.trans hunknown) hknown
  relationships_proper := hformed.relationships_proper

theorem WellFormed.step_relationship {registry : Registry} (hformed : registry.WellFormed)
    {source target : String} (kind : RelationshipKind) (hne : source ≠ target) :
    WellFormed
      { registry with
        relationships := registry.relationships ++ [⟨registry.nextId, source, target, kind⟩]
        nextId := registry.nextId + 1 } where
  names_nodup := hformed.names_nodup
  nextId_pos := Nat.succ_pos _
  ids_perm := by
    apply hformed.perm_nextId
    rw [ids, List.map_append, ← List.append_assoc]
    exact List.perm_append_singleton _ _
  tables_increasing := hformed.tables_increasing
  columns_younger := hformed.columns_younger
  columns_nodup := hformed.columns_nodup
  unknown_bare := hformed.unknown_bare
  relationships_proper := by
    intro relationship hrelationship
    rcases List.mem_append.mp hrelationship with hold | hlast
    · exact hformed.relationships_proper relationship hold
    · simpa [List.mem_singleton.mp hlast] using hne

theorem WellFormed.step {registry next : Registry} (hformed : registry.WellFormed)
    (hstep : Step registry next) : next.WellFormed := by
  cases hstep with
  | table name kind hnew => exact hformed.step_table name kind hnew
  | column owner name role howner hknown hnew =>
    exact hformed.step_column role howner hknown hnew
  | relationship source target kind hne hsource htarget =>
    exact hformed.step_relationship kind hne

/-- Every registry that grows from a well-formed one is well formed. -/
theorem WellFormed.grows {before after : Registry} (hformed : before.WellFormed)
    (hgrows : Grows before after) : after.WellFormed :=
  hgrows.keeps (fun _ _ hregistry hstep => hregistry.step hstep) hformed

end Registry

end SqlLineage
