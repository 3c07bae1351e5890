import Mathlib.Logic.Relation
import SqlLineage.Registry

/-!
# Steps of a registry

A registry only grows, by one table, one column or one relationship at a time.  This file names
these steps and proves that every operation of a registry is made of them.  A relationship is
recorded only between names that are registered or stand for an unknown owner.
-/

namespace SqlLineage

theorem Table.hasColumn_iff {table : Table} {column : String} :
    table.hasColumn column = true ↔ column ∈ table.columns.map Column.name := by
  simp [Table.hasColumn]

namespace Registry

/-- A table is found exactly under its own name. -/
theorem table?_eq_some_iff {registry : Registry} {name : String} {table : Table} :
    registry.table? name = some table ↔ table ∈ registry.tables ∧ table.name = name := by
  rw [table?, Option.bind_eq_some_iff]
  constructor
  · rintro ⟨position, hposition, hfound⟩
    rw [position?_eq_some_iff, names, List.getElem?_map, hfound] at hposition
    exact ⟨List.mem_of_getElem? hfound, Option.some.inj hposition⟩
  · rintro ⟨htable, rfl⟩
    obtain ⟨position, hfound⟩ := List.mem_iff_getElem?.mp htable
    refine ⟨position, position?_eq_some_iff.mpr ?_, hfound⟩
    rw [names, List.getElem?_map, hfound, Option.map_some]

theorem table?_eq_none_iff {registry : Registry} {name : String} :
    registry.table? name = none ↔ name ∉ registry.names := by
  simp only [Option.eq_none_iff_forall_ne_some, ne_eq, table?_eq_some_iff, names, List.mem_map,
    not_exists]

theorem mem_of_table?_eq_some {registry : Registry} {name : String} {table : Table}
    (hfound : registry.table? name = some table) :
    table ∈ registry.tables ∧ table.name = name :=
  table?_eq_some_iff.mp hfound

/-- The index answers what going through the tables would. -/
theorem table?_eq_find? (registry : Registry) (name : String) :
    registry.table? name = registry.tables.find? (fun table => table.name == name) := by
  cases hfind : registry.tables.find? (fun table => table.name == name) with
  | none =>
    rw [table?_eq_none_iff]
    simpa [names] using hfind
  | some table =>
    exact table?_eq_some_iff.mpr
      ⟨List.mem_of_find?_eq_some hfind, by simpa using List.find?_some hfind⟩

theorem exists_table?_of_mem_names {registry : Registry} {name : String}
    (hname : name ∈ registry.names) : ∃ table, registry.table? name = some table := by
  rw [← Option.isSome_iff_exists, Option.isSome_iff_ne_none]
  exact fun hnone => table?_eq_none_iff.mp hnone hname

/-! ## A column changes nothing but the columns of its table -/

@[simp]
theorem map_id_appendColumn (column : Column) (name : String) (tables : List Table) :
    (appendColumn column name tables).map Table.id = tables.map Table.id :=
  map_appendColumn column name tables Table.id (fun _ _ => rfl)

theorem appendColumn_of_not_mem (column : Column) {name : String} {tables : List Table}
    (habsent : name ∉ tables.map Table.name) : appendColumn column name tables = tables := by
  rw [appendColumn]
  refine (List.map_congr_left fun table htable => ?_).trans (List.map_id tables)
  have hne : table.name ≠ name := fun heq => habsent (heq ▸ List.mem_map_of_mem htable)
  simp [hne]

/-- A table after a column was recorded is one from before, or the owner with that column behind
its others. -/
theorem mem_appendColumn {column : Column} {name : String} {tables : List Table} {table : Table}
    (htable : table ∈ appendColumn column name tables) :
    table ∈ tables ∨ ∃ owner ∈ tables, owner.name = name ∧
      table = { owner with columns := owner.columns ++ [column] } := by
  obtain ⟨owner, howner, rfl⟩ := List.mem_map.mp htable
  by_cases hname : owner.name = name
  · exact Or.inr ⟨owner, howner, hname, by simp [hname]⟩
  · exact Or.inl (by simpa [hname] using howner)

/-! ## Pushing -/

section Pushing

variable (registry : Registry) (name column : String) (kind : TableKind) (role : ColumnRole)
  (hnew : name ∉ registry.names)

@[simp]
theorem tables_pushTable :
    (registry.pushTable name kind hnew).tables =
      registry.tables ++ [⟨registry.nextId, name, kind, []⟩] := rfl

@[simp]
theorem relationships_pushTable :
    (registry.pushTable name kind hnew).relationships = registry.relationships := rfl

@[simp]
theorem nextId_pushTable :
    (registry.pushTable name kind hnew).nextId = registry.nextId + 1 := rfl

@[simp]
theorem names_pushTable :
    (registry.pushTable name kind hnew).names = registry.names ++ [name] := by
  simp [names]

@[simp]
theorem tables_pushColumn :
    (registry.pushColumn name column role).tables =
      appendColumn ⟨registry.nextId, column, role⟩ name registry.tables := rfl

@[simp]
theorem relationships_pushColumn :
    (registry.pushColumn name column role).relationships = registry.relationships := rfl

@[simp]
theorem nextId_pushColumn :
    (registry.pushColumn name column role).nextId = registry.nextId + 1 := rfl

@[simp]
theorem names_pushColumn : (registry.pushColumn name column role).names = registry.names := by
  simp [names]

end Pushing

/-! ## Steps -/

/-- A name that a relationship may end at. -/
def Known (registry : Registry) (name : String) : Prop :=
  name = unknownTable ∨ name ∈ registry.names

/-- One entity more. -/
inductive Step : Registry → Registry → Prop where
  | table (registry : Registry) (name : String) (kind : TableKind)
      (hnew : name ∉ registry.names) :
      Step registry (registry.pushTable name kind hnew)
  | column (registry : Registry) (owner : Table) (name : String) (role : ColumnRole)
      (howner : owner ∈ registry.tables) (hknown : owner.name ≠ unknownTable)
      (hnew : name ∉ owner.columns.map Column.name) :
      Step registry (registry.pushColumn owner.name name role)
  | relationship (registry : Registry) (source target : String) (kind : RelationshipKind)
      (hne : source ≠ target) (hsource : registry.Known source)
      (htarget : registry.Known target) :
      Step registry
        { registry with
          relationships :=
            registry.relationships ++ [⟨registry.nextId, source, target, kind⟩]
          nextId := registry.nextId + 1 }

/-- Any number of entities more. -/
abbrev Grows : Registry → Registry → Prop :=
  Relation.ReflTransGen Step

theorem Step.names_subset {before after : Registry} (hstep : Step before after) :
    before.names ⊆ after.names := by
  cases hstep with
  | table name kind hnew => simp [names]
  | column owner name role howner hknown hnew => simp [names]
  | relationship source target kind hne hsource htarget => exact List.Subset.refl _

theorem Grows.names_subset {before after : Registry} (hgrows : Grows before after) :
    before.names ⊆ after.names := by
  induction hgrows with
  | refl => exact List.Subset.refl _
  | tail _ hstep ih => exact List.Subset.trans ih hstep.names_subset

theorem Known.mono {before after : Registry} {name : String} (hknown : before.Known name)
    (hgrows : Grows before after) : after.Known name :=
  hknown.imp_right fun hname => hgrows.names_subset hname

/-- What every step keeps, growth keeps. -/
theorem Grows.keeps {property : Registry → Prop} {before after : Registry}
    (hgrows : Grows before after)
    (hstep : ∀ registry next, property registry → Step registry next → property next)
    (hbefore : property before) : property after := by
  induction hgrows with
  | refl => exact hbefore
  | tail _ hlast ih => exact hstep _ _ ih hlast

/-! ## Operations are made of steps -/

theorem ensureTable_grows (registry : Registry) (name : String) (kind : TableKind) :
    Grows registry (registry.ensureTable name kind) := by
  rw [ensureTable]
  split
  · exact .refl
  · rename_i hnew
    exact .single (.table registry name kind (fun hname => hnew (hasTable_iff.mpr hname)))

@[simp]
theorem mem_names_ensureTable {registry : Registry} {name other : String} {kind : TableKind} :
    other ∈ (registry.ensureTable name kind).names ↔ other = name ∨ other ∈ registry.names := by
  rw [ensureTable]
  split
  · rename_i hold
    have hname := hasTable_iff.mp hold
    exact ⟨Or.inr, fun h => h.elim (fun heq => heq ▸ hname) id⟩
  · simp [names, or_comm]

/-- The registry after an `ensureColumn` whose table is registered by now. -/
theorem ensureColumn_eq (registry : Registry) {table : String} (column : String)
    (role : ColumnRole) (hknown : table ≠ unknownTable) :
    ∃ owner ∈ (registry.ensureTable table .source).tables, owner.name = table ∧
      registry.ensureColumn table column role =
        if owner.hasColumn column then registry.ensureTable table .source
        else (registry.ensureTable table .source).pushColumn table column role := by
  have hname : table ∈ (registry.ensureTable table .source).names := by simp
  obtain ⟨owner, hfound⟩ := exists_table?_of_mem_names hname
  obtain ⟨howner, hownerName⟩ := mem_of_table?_eq_some hfound
  exact ⟨owner, howner, hownerName, by simp [ensureColumn, hknown, hfound]⟩

/-- A column registers its table and changes nothing of any table but the columns. -/
theorem map_tables_ensureColumn {α : Type*} (registry : Registry) {table : String}
    (column : String) (role : ColumnRole) (hknown : table ≠ unknownTable) (property : Table → α)
    (hproperty : ∀ table columns, property { table with columns := columns } = property table) :
    (registry.ensureColumn table column role).tables.map property =
      (registry.ensureTable table .source).tables.map property := by
  obtain ⟨owner, _, _, heq⟩ := ensureColumn_eq registry column role hknown
  rw [heq]
  split
  · rfl
  · exact map_appendColumn _ _ _ property hproperty

theorem names_ensureColumn (registry : Registry) {table : String} (column : String)
    (role : ColumnRole) (hknown : table ≠ unknownTable) :
    (registry.ensureColumn table column role).names =
      (registry.ensureTable table .source).names :=
  map_tables_ensureColumn registry column role hknown Table.name (fun _ _ => rfl)

@[simp]
theorem ensureColumn_unknown (registry : Registry) (column : String) (role : ColumnRole) :
    registry.ensureColumn unknownTable column role = registry := by
  simp [ensureColumn]

theorem ensureColumn_grows (registry : Registry) (table column : String) (role : ColumnRole) :
    Grows registry (registry.ensureColumn table column role) := by
  by_cases hknown : table = unknownTable
  · subst hknown
    simpa using Relation.ReflTransGen.refl
  · obtain ⟨owner, howner, rfl, heq⟩ := ensureColumn_eq registry column role hknown
    have htable := ensureTable_grows registry owner.name .source
    rw [heq]
    split
    · exact htable
    · rename_i hnew
      exact htable.tail (.column _ owner column role howner hknown
        (fun hcolumn => hnew (Table.hasColumn_iff.mpr hcolumn)))

@[simp]
theorem mem_names_ensureColumn {registry : Registry} {table column other : String}
    {role : ColumnRole} :
    other ∈ (registry.ensureColumn table column role).names ↔
      (other = table ∧ table ≠ unknownTable) ∨ other ∈ registry.names := by
  by_cases hknown : table = unknownTable
  · subst hknown
    simp
  · rw [names_ensureColumn registry column role hknown, mem_names_ensureTable]
    simp [hknown]

@[simp]
theorem tables_addRelationship (registry : Registry) (source target : String)
    (kind : RelationshipKind) :
    (registry.addRelationship source target kind).tables = registry.tables := by
  rw [addRelationship]
  split <;> rfl

@[simp]
theorem tables_addRelationships (registry : Registry) (sources : List String) (target : String)
    (kind : RelationshipKind) :
    (registry.addRelationships sources target kind).tables = registry.tables := by
  rw [addRelationships]
  induction sources generalizing registry with
  | nil => rfl
  | cons source rest ih => rw [List.foldl_cons, ih, tables_addRelationship]

@[simp]
theorem names_addRelationship (registry : Registry) (source target : String)
    (kind : RelationshipKind) :
    (registry.addRelationship source target kind).names = registry.names :=
  congrArg (List.map Table.name) (tables_addRelationship registry source target kind)

@[simp]
theorem names_addRelationships (registry : Registry) (sources : List String) (target : String)
    (kind : RelationshipKind) :
    (registry.addRelationships sources target kind).names = registry.names :=
  congrArg (List.map Table.name) (tables_addRelationships registry sources target kind)

theorem addRelationship_grows {registry : Registry} {source target : String}
    (kind : RelationshipKind) (hsource : registry.Known source)
    (htarget : registry.Known target) :
    Grows registry (registry.addRelationship source target kind) := by
  rw [addRelationship]
  split
  · exact .refl
  · rename_i hne
    exact .single (.relationship registry source target kind
      (fun heq => hne (beq_iff_eq.mpr heq)) hsource htarget)

/-- Going through a list grows a registry if each element does. -/
theorem foldl_grows {α : Type*} {record : Registry → α → Registry} {elements : List α}
    (hrecord : ∀ registry, ∀ element ∈ elements, Grows registry (record registry element))
    (registry : Registry) : Grows registry (elements.foldl record registry) := by
  induction elements generalizing registry with
  | nil => exact .refl
  | cons element rest ih =>
    have hfirst := hrecord registry element List.mem_cons_self
    have hrest := ih (fun next other hother =>
      hrecord next other (List.mem_cons_of_mem _ hother)) (record registry element)
    exact hfirst.trans hrest

theorem addRelationships_grows {sources : List String} {target : String}
    (kind : RelationshipKind) {registry : Registry}
    (hsources : ∀ source ∈ sources, registry.Known source) (htarget : registry.Known target) :
    Grows registry (registry.addRelationships sources target kind) := by
  rw [addRelationships]
  induction sources generalizing registry with
  | nil => exact .refl
  | cons source rest ih =>
    have hfirst := addRelationship_grows kind (hsources source List.mem_cons_self) htarget
    refine hfirst.trans (ih ?_ (htarget.mono hfirst))
    intro other hother
    exact (hsources other (List.mem_cons_of_mem _ hother)).mono hfirst

theorem mem_names_of_mem_namesOfKind {registry : Registry} {kind : TableKind} {name : String}
    (hname : name ∈ registry.namesOfKind kind) : name ∈ registry.names := by
  obtain ⟨table, htable, rfl⟩ := List.mem_map.mp hname
  exact List.mem_map_of_mem (List.mem_filter.mp htable).1

end Registry

end SqlLineage
