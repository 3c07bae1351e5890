import Mathlib.Data.List.Induction
import SqlLineage.Proofs.Registry.Inventory
import SqlLineage.Proofs.Registry.Outline

/-!
# What a registry holds of the registrations that made it

Tables, columns and relationships can be registered in any order and with any arguments.  What the
registry holds in the end is told by the list of registrations alone: each table and each column as
the first registration of its name has it, every relationship of two different tables, all in the
order of these registrations and under numbers that leave no gap.
-/

namespace SqlLineage

/-- What an operation of a registry is asked to register. -/
inductive Registration where
  | table (name : String) (kind : TableKind)
  | column (table name : String) (role : ColumnRole)
  | relationship (source target : String) (kind : RelationshipKind)
  deriving DecidableEq, Repr

/-- The table that a registration needs.  A column needs its table, as a source. -/
def Registration.table? : Registration → Option (String × TableKind)
  | .table name kind => some (name, kind)
  | .column owner _ _ => if owner = unknownTable then none else some (owner, .source)
  | .relationship _ _ _ => none

/-- The column of a table that is registered. -/
def Registration.column? (table : String) : Registration → Option (String × ColumnRole)
  | .column owner name role =>
    if owner = table ∧ owner ≠ unknownTable then some (name, role) else none
  | _ => none

/-- The link that is registered. -/
def Registration.link? : Registration → Option Link
  | .relationship source target kind =>
    if source = target then none else some ⟨source, kind, target⟩
  | _ => none

namespace Registry

def register (registry : Registry) : Registration → Registry
  | .table name kind => registry.ensureTable name kind
  | .column table name role => registry.ensureColumn table name role
  | .relationship source target kind => registry.addRelationship source target kind

/-- The registry after registrations in order. -/
def ofRegistrations (registrations : List Registration) : Registry :=
  registrations.foldl register {}

theorem ofRegistrations_concat (registrations : List Registration) (last : Registration) :
    ofRegistrations (registrations ++ [last]) = (ofRegistrations registrations).register last :=
  List.foldl_concat ..

end Registry

/-! ## First entries -/

section Entries

variable {α : Type}

/-- Of several entries under one name the first. -/
def firstEntries (entries : List (String × α)) : List (String × α) :=
  entries.eraseDupsBy (fun first second => first.1 == second.1)

/-- Entries with one more behind them, if its name is new. -/
def withEntry (entries : List (String × α)) : Option (String × α) → List (String × α)
  | none => entries
  | some entry => if entry.1 ∈ entries.map Prod.fst then entries else entries ++ [entry]

theorem firstEntries_cons (first : String × α) (rest : List (String × α)) :
    firstEntries (first :: rest) = first :: firstEntries (rest.filter (fun entry =>
      (entry.1 == first.1) = false)) :=
  List.eraseDupsBy_cons

/-- The last entry counts if no other has its name. -/
theorem firstEntries_concat (entries : List (String × α)) (last : String × α) :
    firstEntries (entries ++ [last]) = withEntry (firstEntries entries) (some last) := by
  match entries with
  | [] => rfl
  | first :: rest =>
    rw [List.cons_append, firstEntries_cons, firstEntries_cons, List.filter_append]
    by_cases hname : last.1 = first.1
    · simp [hname, withEntry]
    · have hkept : [last].filter (fun entry => (entry.1 == first.1) = false) = [last] := by
        simp [hname]
      rw [hkept, firstEntries_concat, withEntry, withEntry, List.map_cons]
      simp only [List.mem_cons, hname, false_or]
      split
      · rfl
      · rfl
termination_by entries.length
decreasing_by exact Nat.lt_succ_of_le (List.length_filter_le ..)

end Entries

namespace Registry

/-- What grows by the first entry of each name holds the first entries in the end. -/
theorem ofRegistrations_firstEntries {α : Type} {view : Registry → List (String × α)}
    {addition? : Registration → Option (String × α)} (hempty : view {} = [])
    (hregister : ∀ registry registration,
      view (register registry registration) = withEntry (view registry) (addition? registration))
    (registrations : List Registration) :
    view (ofRegistrations registrations) = firstEntries (registrations.filterMap addition?) := by
  induction registrations using List.reverseRecOn with
  | nil => exact hempty
  | append_singleton registrations last ih =>
    rw [ofRegistrations_concat, hregister, ih, List.filterMap_append]
    cases haddition : addition? last with
    | none => simp [haddition, withEntry]
    | some entry => rw [List.filterMap_cons_some haddition, List.filterMap_nil, firstEntries_concat]

/-! ## Tables -/

/-- The names of the tables with their kinds. -/
def tableEntries (registry : Registry) : List (String × TableKind) :=
  registry.tables.map (fun table => (table.name, table.kind))

theorem map_fst_tableEntries (registry : Registry) :
    registry.tableEntries.map Prod.fst = registry.names := by
  rw [tableEntries, List.map_map]
  rfl

theorem tableEntries_ensureTable (registry : Registry) (name : String) (kind : TableKind) :
    (registry.ensureTable name kind).tableEntries =
      withEntry registry.tableEntries (some (name, kind)) := by
  rw [withEntry, map_fst_tableEntries]
  split
  · rename_i hknown
    rw [ensureTable_of_mem hknown]
  · rename_i hnew
    rw [tableEntries, tables_ensureTable_of_not_mem hnew, List.map_append, tableEntries]
    rfl

theorem tableEntries_register (registry : Registry) (registration : Registration) :
    (registry.register registration).tableEntries =
      withEntry registry.tableEntries registration.table? := by
  cases registration with
  | table name kind => exact tableEntries_ensureTable registry name kind
  | column table name role =>
    rw [register, Registration.table?]
    split
    · rename_i hunknown
      rw [hunknown, ensureColumn_unknown]
      rfl
    · rename_i hknown
      rw [← tableEntries_ensureTable]
      exact map_tables_ensureColumn registry name role hknown _ (fun _ _ => rfl)
  | relationship source target kind =>
    rw [register, tableEntries, tables_addRelationship]
    rfl

/-! ## Columns -/

end Registry

def Table.columnEntries (table : Table) : List (String × ColumnRole) :=
  table.columns.map (fun column => (column.name, column.role))

namespace Registry

/-- The names of the columns of a table with their roles; none if it is not registered. -/
def columnEntries (table : String) (registry : Registry) : List (String × ColumnRole) :=
  ((registry.table? table).map Table.columnEntries).getD []

theorem columnEntries_of_mem {registry : Registry} {table : Table}
    (htable : table ∈ registry.tables) :
    registry.columnEntries table.name = table.columnEntries := by
  rw [columnEntries, table?_eq_some_iff.mpr ⟨htable, rfl⟩]
  rfl

theorem hasColumn_iff_columnEntries {table : Table} {column : String} :
    table.hasColumn column = true ↔ column ∈ table.columnEntries.map Prod.fst := by
  rw [Table.hasColumn_iff, Table.columnEntries, List.map_map]
  rfl

/-- A new table has no columns yet. -/
theorem columnEntries_ensureTable (registry : Registry) (name table : String) (kind : TableKind) :
    (registry.ensureTable name kind).columnEntries table = registry.columnEntries table := by
  by_cases hknown : name ∈ registry.names
  · rw [ensureTable_of_mem hknown]
  · rw [columnEntries, columnEntries, table?_eq_find?, table?_eq_find?,
      tables_ensureTable_of_not_mem hknown, List.find?_append]
    cases registry.tables.find? (fun known => known.name == table) with
    | some owner => rfl
    | none =>
      rw [Option.none_or, List.find?_singleton]
      split
      · rfl
      · rfl

theorem columnEntries_pushColumn (registry : Registry) {owner : Table} (column : String)
    (role : ColumnRole) (howner : owner ∈ registry.tables) (table : String) :
    (registry.pushColumn owner.name column role).columnEntries table =
      if table = owner.name then registry.columnEntries table ++ [(column, role)]
      else registry.columnEntries table := by
  have hsame : ∀ known : Table, (if known.name == owner.name then
      { known with columns := known.columns ++ [⟨registry.nextId, column, role⟩] }
      else known).name = known.name := by
    intro known
    split
    · rfl
    · rfl
  have hfind : (registry.pushColumn owner.name column role).table? table =
      (registry.table? table).map (fun known => if known.name == owner.name then
        { known with columns := known.columns ++ [⟨registry.nextId, column, role⟩] }
        else known) := by
    rw [table?_eq_find?, table?_eq_find?, tables_pushColumn, appendColumn, List.find?_map]
    simp only [Function.comp_def, hsame]
  rw [columnEntries, hfind, columnEntries]
  cases hfound : registry.table? table with
  | none =>
    have hne : table ≠ owner.name := by
      rintro rfl
      exact table?_eq_none_iff.mp hfound (List.mem_map_of_mem howner)
    simp [hne]
  | some known =>
    obtain ⟨-, rfl⟩ := table?_eq_some_iff.mp hfound
    by_cases hname : known.name = owner.name
    · simp [hname, Table.columnEntries]
    · simp [hname]

theorem columnEntries_register (table : String) (registry : Registry)
    (registration : Registration) :
    (registry.register registration).columnEntries table =
      withEntry (registry.columnEntries table) (registration.column? table) := by
  cases registration with
  | table name kind => exact columnEntries_ensureTable registry name table kind
  | column owner name role =>
    rw [register, Registration.column?]
    by_cases hunknown : owner = unknownTable
    · simp [hunknown, withEntry]
    · obtain ⟨known, hmem, rfl, heq⟩ := ensureColumn_eq registry name role hunknown
      have hentries := columnEntries_of_mem hmem
      rw [columnEntries_ensureTable] at hentries
      rw [heq]
      by_cases htable : known.name = table
      · subst htable
        simp only [ne_eq, hunknown, not_false_eq_true, and_self, if_true, withEntry, hentries,
          ← hasColumn_iff_columnEntries]
        split
        · rw [columnEntries_ensureTable, hentries]
        · rw [columnEntries_pushColumn _ name role hmem, if_pos rfl, columnEntries_ensureTable,
            hentries]
      · simp only [htable, false_and, if_false, withEntry]
        split
        · exact columnEntries_ensureTable ..
        · rw [columnEntries_pushColumn _ name role hmem, if_neg (Ne.symm htable),
            columnEntries_ensureTable]
  | relationship source target kind =>
    rw [register, columnEntries, table?_eq_find?, tables_addRelationship, ← table?_eq_find?]
    rfl

/-! ## Relationships -/

theorem links_ofRegistrations (registrations : List Registration) :
    (ofRegistrations registrations).links = registrations.filterMap Registration.link? := by
  induction registrations using List.reverseRecOn with
  | nil => rfl
  | append_singleton registrations last ih =>
    rw [ofRegistrations_concat, List.filterMap_append, ← ih]
    cases last with
    | table name kind => simp [register, Registration.link?]
    | column table name role => simp [register, Registration.link?]
    | relationship source target kind =>
      rw [register, links_addRelationship]
      by_cases hsame : source = target
      · simp [hsame, Registration.link?]
      · simp [hsame, Registration.link?]

/-! ## The registry as a whole -/

theorem WellFormed.addRelationship {registry : Registry} (hformed : registry.WellFormed)
    (source target : String) (kind : RelationshipKind) :
    (registry.addRelationship source target kind).WellFormed := by
  rw [Registry.addRelationship]
  split
  · exact hformed
  · rename_i hne
    exact hformed.step_relationship kind (fun heq => hne (beq_iff_eq.mpr heq))

/-- Whatever is registered, a well-formed registry stays so. -/
theorem WellFormed.register {registry : Registry} (hformed : registry.WellFormed)
    (registration : Registration) : (registry.register registration).WellFormed := by
  cases registration with
  | table name kind => exact hformed.grows (ensureTable_grows registry name kind)
  | column table name role => exact hformed.grows (ensureColumn_grows registry table name role)
  | relationship source target kind => exact hformed.addRelationship source target kind

theorem ofRegistrations_wellFormed (registrations : List Registration) :
    (ofRegistrations registrations).WellFormed := by
  induction registrations using List.reverseRecOn with
  | nil => exact wellFormed_empty
  | append_singleton registrations last ih =>
    rw [ofRegistrations_concat]
    exact ih.register last

theorem lookup_index_iff (registry : Registry) (name : String) (position : Nat) :
    registry.index.lookup name = some position ↔
      ∃ hposition : position < registry.tables.length, registry.tables[position].name = name := by
  rw [registry.index_iff, List.getElem?_map, Option.map_eq_some_iff]
  simp only [List.getElem?_eq_some_iff]
  constructor
  · rintro ⟨table, ⟨hposition, rfl⟩, hname⟩
    exact ⟨hposition, hname⟩
  · rintro ⟨hposition, hname⟩
    exact ⟨_, ⟨hposition, rfl⟩, hname⟩

/-- What a registry holds of its registrations. -/
structure Represents (registry : Registry) (registrations : List Registration) : Prop
    extends registry.WellFormed where
  /-- The index leads to the table of a name, which is there, and has an entry for every table. -/
  index_lookup : ∀ name position, registry.index.lookup name = some position ↔
    ∃ hposition : position < registry.tables.length, registry.tables[position].name = name
  tables_eq : registry.tables.map (fun table => (table.name, table.kind)) =
    firstEntries (registrations.filterMap Registration.table?)
  columns_eq : ∀ table ∈ registry.tables,
    table.columns.map (fun column => (column.name, column.role)) =
      firstEntries (registrations.filterMap (Registration.column? table.name))
  links_eq : registry.links = registrations.filterMap Registration.link?
  ensureTable_known : ∀ name ∈ registry.names, ∀ kind, registry.ensureTable name kind = registry
  ensureColumn_known : ∀ table ∈ registry.tables, ∀ column ∈ table.columns, ∀ role,
    registry.ensureColumn table.name column.name role = registry
  ensureColumn_unknown : ∀ column role, registry.ensureColumn unknownTable column role = registry
  addRelationship_same : ∀ name kind, registry.addRelationship name name kind = registry

/-- Whatever is registered, and in whatever order, the registry is well formed, its index is in step
with its tables, and it holds the first registration of each table and column and every proper
relationship, in order.  Registering again what it holds changes nothing. -/
theorem ofRegistrations_represents (registrations : List Registration) :
    (ofRegistrations registrations).Represents registrations where
  toWellFormed := ofRegistrations_wellFormed registrations
  index_lookup := lookup_index_iff _
  tables_eq := ofRegistrations_firstEntries rfl tableEntries_register registrations
  columns_eq := by
    intro table htable
    rw [← ofRegistrations_firstEntries rfl (columnEntries_register table.name) registrations]
    exact (columnEntries_of_mem htable).symm
  links_eq := links_ofRegistrations registrations
  ensureTable_known := fun _ hname _ => ensureTable_of_mem hname
  ensureColumn_known := by
    intro table htable column hcolumn role
    have hlisted : (table.name, column.name) ∈ (ofRegistrations registrations).columnNames :=
      mem_columnNames.mpr
        ⟨table, htable, rfl, Table.hasColumn_iff.mpr (List.mem_map_of_mem hcolumn)⟩
    exact ensureColumn_of_mem (ofRegistrations_wellFormed registrations).names_nodup hlisted
  ensureColumn_unknown := Registry.ensureColumn_unknown _
  addRelationship_same := by simp [Registry.addRelationship]

-- The column comes first, so that its table stays a source, and the column what it was.
example : (ofRegistrations [.column "t" "a" .condition, .table "t" .target,
    .column "t" "a" .target]).tables = [⟨1, "t", .source, [⟨2, "a", .condition⟩]⟩] :=
  rfl

end Registry

end SqlLineage
