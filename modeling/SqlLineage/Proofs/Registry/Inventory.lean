import Mathlib.Data.List.Nodup
import SqlLineage.Proofs.Registry.WellFormed

/-!
# What a registry holds

The names of its tables, the columns of its tables and the tables of a kind.  An operation adds to
them the names that it is given, and nothing else; what it adds depends on what is there only in
that a name is not added twice and that a table keeps its kind.
-/

namespace SqlLineage

/-- The columns of a table, each behind the name of the table. -/
def Table.columnNames (table : Table) : List (String × String) :=
  table.columns.map (fun column => (table.name, column.name))

namespace Registry

/-- The columns of all tables, each behind the name of its table. -/
def columnNames (registry : Registry) : List (String × String) :=
  registry.tables.flatMap Table.columnNames

theorem mem_columnNames {registry : Registry} {table column : String} :
    (table, column) ∈ registry.columnNames ↔
      ∃ owner ∈ registry.tables, owner.name = table ∧ owner.hasColumn column = true := by
  simp only [columnNames, Table.columnNames, List.mem_flatMap, List.mem_map, Prod.mk.injEq,
    Table.hasColumn_iff]
  constructor
  · rintro ⟨owner, howner, known, hknown, hname, hcolumn⟩
    exact ⟨owner, howner, hname, known, hknown, hcolumn⟩
  · rintro ⟨owner, howner, hname, known, hknown, hcolumn⟩
    exact ⟨owner, howner, known, hknown, hname, hcolumn⟩

/-- No column is listed twice. -/
theorem WellFormed.columnNames_nodup {registry : Registry} (hformed : registry.WellFormed) :
    registry.columnNames.Nodup := by
  rw [columnNames, List.nodup_flatMap]
  constructor
  · intro table htable
    have hcolumns := hformed.columns_nodup table htable
    apply List.Nodup.of_map Prod.snd
    simpa [Table.columnNames, Function.comp_def] using hcolumns
  · have hnames : registry.tables.Pairwise (fun first second => first.name ≠ second.name) :=
      List.pairwise_map.mp hformed.names_nodup
    apply hnames.imp
    intro first second hne entry hfirst hsecond
    obtain ⟨_, _, rfl⟩ := List.mem_map.mp hfirst
    obtain ⟨_, _, heq⟩ := List.mem_map.mp hsecond
    exact hne (congrArg Prod.fst heq).symm

theorem mem_namesOfKind {registry : Registry} {kind : TableKind} {name : String} :
    name ∈ registry.namesOfKind kind ↔
      ∃ table ∈ registry.tables, table.name = name ∧ table.kind = kind := by
  simp only [namesOfKind, List.mem_map, List.mem_filter, beq_iff_eq]
  constructor
  · rintro ⟨table, ⟨htable, hkind⟩, hname⟩
    exact ⟨table, htable, hname, hkind⟩
  · rintro ⟨table, htable, hname, hkind⟩
    exact ⟨table, ⟨htable, hkind⟩, hname⟩

theorem namesOfKind_nodup {registry : Registry} (hnodup : registry.names.Nodup)
    (kind : TableKind) : (registry.namesOfKind kind).Nodup :=
  hnodup.sublist (List.filter_sublist.map Table.name)

/-! ## Tables -/

section Tables

variable {registry : Registry} {name : String} {kind : TableKind}

theorem ensureTable_of_mem (hname : name ∈ registry.names) :
    registry.ensureTable name kind = registry := by
  rw [ensureTable, dif_pos (hasTable_iff.mpr hname)]

theorem tables_ensureTable_of_not_mem (hname : name ∉ registry.names) :
    (registry.ensureTable name kind).tables =
      registry.tables ++ [⟨registry.nextId, name, kind, []⟩] := by
  rw [ensureTable, dif_neg (mt hasTable_iff.mp hname), tables_pushTable]

@[simp]
theorem columnNames_ensureTable (registry : Registry) (name : String) (kind : TableKind) :
    (registry.ensureTable name kind).columnNames = registry.columnNames := by
  by_cases hname : name ∈ registry.names
  · rw [ensureTable_of_mem hname]
  · rw [columnNames, tables_ensureTable_of_not_mem hname, List.flatMap_append]
    simp [columnNames, Table.columnNames]

/-- A table keeps the kind that it was registered with. -/
theorem mem_namesOfKind_ensureTable {other : String} {wanted : TableKind} :
    other ∈ (registry.ensureTable name kind).namesOfKind wanted ↔
      ((other, wanted) = (name, kind) ∧ other ∉ registry.names) ∨
        other ∈ registry.namesOfKind wanted := by
  by_cases hname : name ∈ registry.names
  · rw [ensureTable_of_mem hname]
    constructor
    · exact Or.inr
    · rintro (⟨heq, hnew⟩ | hother)
      · obtain ⟨rfl, rfl⟩ := Prod.mk.inj heq
        exact absurd hname hnew
      · exact hother
  · rw [mem_namesOfKind, mem_namesOfKind, tables_ensureTable_of_not_mem hname]
    constructor
    · rintro ⟨table, htable, rfl, rfl⟩
      rcases List.mem_append.mp htable with hold | hlast
      · exact Or.inr ⟨table, hold, rfl, rfl⟩
      · rw [List.mem_singleton.mp hlast]
        exact Or.inl ⟨rfl, hname⟩
    · rintro (⟨heq, -⟩ | ⟨table, htable, hother, hkind⟩)
      · obtain ⟨rfl, rfl⟩ := Prod.mk.inj heq
        exact ⟨_, List.mem_append_right _ List.mem_cons_self, rfl, rfl⟩
      · exact ⟨table, List.mem_append_left _ htable, hother, hkind⟩

theorem names_nodup_ensureTable (hnodup : registry.names.Nodup) :
    (registry.ensureTable name kind).names.Nodup := by
  by_cases hname : name ∈ registry.names
  · rwa [ensureTable_of_mem hname]
  · rw [names, tables_ensureTable_of_not_mem hname, List.map_append, List.map_singleton,
      ← List.concat_eq_append]
    exact hnodup.concat hname

end Tables

/-! ## Columns -/

section Columns

variable {registry : Registry} {table column : String} {role : ColumnRole}

theorem namesOfKind_ensureColumn (kind : TableKind) (hknown : table ≠ unknownTable) :
    (registry.ensureColumn table column role).namesOfKind kind =
      (registry.ensureTable table .source).namesOfKind kind := by
  have hnamed : ∀ other : Registry, other.namesOfKind kind =
      ((other.tables.map (fun known => (known.name, known.kind))).filter
        (fun known => known.2 == kind)).map Prod.fst := by
    intro other
    rw [namesOfKind, List.filter_map, List.map_map]
    rfl
  rw [hnamed, hnamed,
    map_tables_ensureColumn registry column role hknown _ (fun _ _ => rfl)]

theorem mem_flatMap_appendColumn {added : Column} {name : String} {tables : List Table}
    {entry : String × String} :
    entry ∈ (appendColumn added name tables).flatMap Table.columnNames ↔
      (entry = (name, added.name) ∧ name ∈ tables.map Table.name) ∨
        entry ∈ tables.flatMap Table.columnNames := by
  induction tables with
  | nil => simp [appendColumn]
  | cons first rest ih =>
    have hfirst : entry ∈ (if first.name == name then
          { first with columns := first.columns ++ [added] } else first).columnNames ↔
        (entry = (name, added.name) ∧ name = first.name) ∨ entry ∈ first.columnNames := by
      by_cases hname : first.name = name
      · subst hname
        simp [Table.columnNames, or_comm]
      · simp [hname, Ne.symm hname]
    rw [appendColumn] at ih
    rw [appendColumn, List.map_cons, List.flatMap_cons, List.mem_append, hfirst, ih,
      List.flatMap_cons, List.mem_append, List.map_cons, List.mem_cons, and_or_left, or_or_or_comm]

theorem mem_columnNames_ensureColumn {entry : String × String} :
    entry ∈ (registry.ensureColumn table column role).columnNames ↔
      (entry = (table, column) ∧ table ≠ unknownTable) ∨ entry ∈ registry.columnNames := by
  by_cases hknown : table = unknownTable
  · subst hknown
    simp
  · obtain ⟨owner, howner, hname, heq⟩ := ensureColumn_eq registry column role hknown
    rw [heq, ← columnNames_ensureTable registry table .source]
    split
    · rename_i hcolumn
      have hold : (table, column) ∈ (registry.ensureTable table .source).columnNames :=
        mem_columnNames.mpr ⟨owner, howner, hname, hcolumn⟩
      constructor
      · exact Or.inr
      · rintro (⟨rfl, -⟩ | hentry)
        · exact hold
        · exact hentry
    · have hmem : table ∈ (registry.ensureTable table .source).names :=
        mem_names_ensureTable.mpr (Or.inl rfl)
      rw [columnNames, columnNames, tables_pushColumn, mem_flatMap_appendColumn]
      exact or_congr_left (and_congr_right fun _ => iff_of_true hmem hknown)

/-- A column that is there already is not recorded again. -/
theorem ensureColumn_of_mem (hnodup : registry.names.Nodup)
    (hcolumn : (table, column) ∈ registry.columnNames) :
    registry.ensureColumn table column role = registry := by
  by_cases hknown : table = unknownTable
  · rw [hknown, ensureColumn_unknown]
  · obtain ⟨owner, howner, rfl, hhas⟩ := mem_columnNames.mp hcolumn
    have hsame : registry.ensureTable owner.name .source = registry :=
      ensureTable_of_mem (List.mem_map_of_mem howner)
    obtain ⟨other, hother, hotherName, heq⟩ := ensureColumn_eq registry column role hknown
    rw [hsame] at hother heq
    have hsameOwner : other = owner := List.inj_on_of_nodup_map hnodup hother howner hotherName
    rw [heq, hsameOwner, if_pos hhas]

theorem names_nodup_ensureColumn (hnodup : registry.names.Nodup) :
    (registry.ensureColumn table column role).names.Nodup := by
  by_cases hknown : table = unknownTable
  · rwa [hknown, ensureColumn_unknown]
  · rw [names_ensureColumn registry column role hknown]
    exact names_nodup_ensureTable hnodup

end Columns

end Registry

end SqlLineage
