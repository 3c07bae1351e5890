import SqlLineage.Graph.Basic

/-!
# The registry of a run

Tables, columns and relationships in the order they were discovered.  All three draw their numbers
from one counter that starts at 1.  A table keeps the kind, and a column the role, that it was
discovered with; columns of unknown owner are not recorded, nor is a relationship of a table with
itself.  Tables are found by name through an index of their places, and a registry carries the proof
that the two are in step.
-/

namespace SqlLineage

/-- The owner of columns whose table cannot be told. -/
def unknownTable : String := "unknown"

/-- A column of a registered table. -/
structure Column where
  id : Nat
  name : String
  role : ColumnRole
  deriving DecidableEq, Repr

/-- A registered table. -/
structure Table where
  id : Nat
  name : String
  kind : TableKind
  columns : List Column
  deriving DecidableEq, Repr

/-- A recorded relationship between two tables, given by their names. -/
structure Relationship where
  id : Nat
  source : String
  target : String
  kind : RelationshipKind
  deriving DecidableEq, Repr

/-- An index without entries goes with no tables. -/
theorem lookup_nil_iff (name : String) (position : Nat) :
    ([] : List (String × Nat)).lookup name = some position ↔
      (([] : List Table).map Table.name)[position]? = some name := by
  simp

/-- Everything discovered so far.  The index says where the table of a name stands. -/
structure Registry where
  tables : List Table := []
  index : List (String × Nat) := []
  relationships : List Relationship := []
  nextId : Nat := 1
  index_iff : ∀ name position, index.lookup name = some position ↔
    (tables.map Table.name)[position]? = some name := by exact lookup_nil_iff
  deriving DecidableEq, Repr

namespace Registry

/-- The names of the registered tables, in order of discovery. -/
def names (registry : Registry) : List String :=
  registry.tables.map Table.name

/-- Where the table of that name stands. -/
def position? (registry : Registry) (name : String) : Option Nat :=
  registry.index.lookup name

/-- The table of that name. -/
def table? (registry : Registry) (name : String) : Option Table :=
  (registry.position? name).bind (fun position => registry.tables[position]?)

/-- Whether a table of that name is registered. -/
def hasTable (registry : Registry) (name : String) : Bool :=
  (registry.position? name).isSome

theorem position?_eq_some_iff {registry : Registry} {name : String} {position : Nat} :
    registry.position? name = some position ↔ registry.names[position]? = some name :=
  registry.index_iff name position

theorem hasTable_iff {registry : Registry} {name : String} :
    registry.hasTable name = true ↔ name ∈ registry.names := by
  rw [hasTable, Option.isSome_iff_exists, List.mem_iff_getElem?]
  exact exists_congr fun _ => position?_eq_some_iff

end Registry

/-- Whether the table has a column of that name. -/
def Table.hasColumn (table : Table) (column : String) : Bool :=
  table.columns.any (fun known => known.name == column)

namespace Registry

/-- An index is kept up by an entry for the new name in front of the others. -/
theorem lookup_cons_iff {names : List String} {index : List (String × Nat)}
    (hindex : ∀ name position, index.lookup name = some position ↔ names[position]? = some name)
    {new : String} (hnew : new ∉ names) (name : String) (position : Nat) :
    ((new, names.length) :: index).lookup name = some position ↔
      (names ++ [new])[position]? = some name := by
  by_cases hname : name = new
  · subst hname
    have hbefore : names[position]? ≠ some name :=
      fun hfound => hnew (List.mem_of_getElem? hfound)
    simp only [List.lookup_cons, beq_self_eq_true, Option.some_inj, List.getElem?_append]
    split
    · exact iff_of_false (by omega) hbefore
    · rw [List.getElem?_singleton]
      split
      · exact iff_of_true (by omega) rfl
      · exact iff_of_false (by omega) (by simp)
  · have hbehind : [new][position - names.length]? ≠ some name :=
      fun hfound => hname (List.mem_singleton.mp (List.mem_of_getElem? hfound))
    simp only [List.lookup_cons, beq_eq_false_iff_ne.mpr hname, hindex, List.getElem?_append]
    split
    · rfl
    · rename_i hposition
      exact iff_of_false (by simp [List.getElem?_eq_none (Nat.le_of_not_lt hposition)]) hbehind

/-- Appends a table whose name is new. -/
def pushTable (registry : Registry) (name : String) (kind : TableKind)
    (hnew : name ∉ registry.names) : Registry :=
  { registry with
    tables := registry.tables ++ [⟨registry.nextId, name, kind, []⟩]
    index := (name, registry.tables.length) :: registry.index
    nextId := registry.nextId + 1
    index_iff := by
      simpa [names] using lookup_cons_iff registry.index_iff hnew }

/-- Registers a table of that kind, unless there is one of that name already. -/
def ensureTable (registry : Registry) (name : String) (kind : TableKind) : Registry :=
  if hknown : registry.hasTable name then registry
  else registry.pushTable name kind (mt hasTable_iff.mpr hknown)

/-- Appends a column to the table of that name. -/
def appendColumn (column : Column) (name : String) (tables : List Table) : List Table :=
  tables.map (fun table =>
    if table.name == name then { table with columns := table.columns ++ [column] } else table)

/-- Appending a column changes nothing of a table but its columns. -/
theorem map_appendColumn {α : Type _} (column : Column) (name : String) (tables : List Table)
    (property : Table → α)
    (hproperty : ∀ table columns, property { table with columns := columns } = property table) :
    (appendColumn column name tables).map property = tables.map property := by
  rw [appendColumn, List.map_map]
  apply List.map_congr_left
  intro table _
  rw [Function.comp_apply]
  split
  · exact hproperty table _
  · rfl

@[simp]
theorem map_name_appendColumn (column : Column) (name : String) (tables : List Table) :
    (appendColumn column name tables).map Table.name = tables.map Table.name :=
  map_appendColumn column name tables Table.name (fun _ _ => rfl)

/-- Appends a new column to the table of that name. -/
def pushColumn (registry : Registry) (table column : String) (role : ColumnRole) : Registry :=
  { registry with
    tables := appendColumn ⟨registry.nextId, column, role⟩ table registry.tables
    nextId := registry.nextId + 1
    index_iff := by
      rw [map_name_appendColumn]
      exact registry.index_iff }

/-- Records a column of a table, which is registered as a source when it is new.  Nothing happens
for a column of unknown owner or one that is there already. -/
def ensureColumn (registry : Registry) (table column : String) (role : ColumnRole) : Registry :=
  if table == unknownTable then registry
  else
    let registry := registry.ensureTable table .source
    match registry.table? table with
    | none => registry
    | some owner =>
      if owner.hasColumn column then registry else registry.pushColumn table column role

/-- Records a relationship between two different tables. -/
def addRelationship (registry : Registry) (source target : String) (kind : RelationshipKind) :
    Registry :=
  if source == target then registry
  else
    { registry with
      relationships := registry.relationships ++ [⟨registry.nextId, source, target, kind⟩]
      nextId := registry.nextId + 1 }

/-- Records a relationship from each of the sources. -/
def addRelationships (registry : Registry) (sources : List String) (target : String)
    (kind : RelationshipKind) : Registry :=
  sources.foldl (fun registry source => registry.addRelationship source target kind) registry

/-- The names of the tables of a kind, in order of discovery. -/
def namesOfKind (registry : Registry) (kind : TableKind) : List String :=
  (registry.tables.filter (fun table => table.kind == kind)).map Table.name

end Registry

end SqlLineage
