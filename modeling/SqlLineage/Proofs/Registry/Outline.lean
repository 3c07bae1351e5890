import SqlLineage.Proofs.Registry.Steps

/-!
# Registries without their numbers

The outline of a registry is what is left of its tables without the numbers, and its links are what
is left of its relationships.  An operation does to the outline and to the links what it does to
them in every other registry with the same outline.  So runs that number their entities differently
can be compared step by step.
-/

namespace SqlLineage

/-- A table without its number and those of its columns. -/
structure TableOutline where
  name : String
  kind : TableKind
  columns : List (String × ColumnRole)
  deriving DecidableEq, Repr

/-- A relationship without its number. -/
structure Link where
  source : String
  kind : RelationshipKind
  target : String
  deriving DecidableEq, Repr

def Table.outline (table : Table) : TableOutline :=
  ⟨table.name, table.kind, table.columns.map (fun column => (column.name, column.role))⟩

def Relationship.link (relationship : Relationship) : Link :=
  ⟨relationship.source, relationship.kind, relationship.target⟩

namespace Registry

def outline (registry : Registry) : List TableOutline :=
  registry.tables.map Table.outline

def links (registry : Registry) : List Link :=
  registry.relationships.map Relationship.link

theorem names_eq_outline (registry : Registry) :
    registry.names = registry.outline.map TableOutline.name := by
  rw [names, outline, List.map_map]
  rfl

theorem namesOfKind_eq_outline (registry : Registry) (kind : TableKind) :
    registry.namesOfKind kind =
      (registry.outline.filter (fun table => table.kind == kind)).map TableOutline.name := by
  rw [namesOfKind, outline, List.filter_map, List.map_map]
  rfl

theorem table?_outline (registry : Registry) (name : String) :
    (registry.table? name).map Table.outline =
      registry.outline.find? (fun table => table.name == name) := by
  rw [table?_eq_find?, outline, List.find?_map]
  rfl

theorem hasColumn_eq_outline (table : Table) (column : String) :
    table.hasColumn column = table.outline.columns.any (fun known => known.1 == column) := by
  rw [Table.hasColumn, Table.outline, List.any_map]
  rfl

theorem map_outline_appendColumn (column : Column) (name : String) (tables : List Table) :
    (appendColumn column name tables).map Table.outline =
      (tables.map Table.outline).map (fun table =>
        if table.name == name then
          { table with columns := table.columns ++ [(column.name, column.role)] }
        else table) := by
  rw [appendColumn, List.map_map, List.map_map]
  apply List.map_congr_left
  intro table _
  by_cases hname : table.name = name
  · simp [Table.outline, hname]
  · simp [Table.outline, hname]

/-! ## Outlines -/

section Outline

variable {first second : Registry}

theorem outline_ensureTable_congr (hsame : first.outline = second.outline) (name : String)
    (kind : TableKind) :
    (first.ensureTable name kind).outline = (second.ensureTable name kind).outline := by
  have hnames : name ∈ first.names ↔ name ∈ second.names := by
    rw [names_eq_outline, names_eq_outline, hsame]
  rw [ensureTable, ensureTable]
  by_cases hname : name ∈ first.names
  · rw [dif_pos (hasTable_iff.mpr hname), dif_pos (hasTable_iff.mpr (hnames.mp hname))]
    exact hsame
  · rw [dif_neg (mt hasTable_iff.mp hname), dif_neg (mt hasTable_iff.mp (mt hnames.mpr hname))]
    simpa [outline, Table.outline] using hsame

theorem outline_ensureColumn_congr (hsame : first.outline = second.outline)
    (table column : String) (role : ColumnRole) :
    (first.ensureColumn table column role).outline =
      (second.ensureColumn table column role).outline := by
  by_cases hknown : table = unknownTable
  · subst hknown
    rw [ensureColumn_unknown, ensureColumn_unknown]
    exact hsame
  · have htable := outline_ensureTable_congr hsame table .source
    have howner := table?_outline (first.ensureTable table .source) table
    rw [htable, ← table?_outline] at howner
    simp only [ensureColumn, beq_iff_eq, if_neg hknown]
    generalize first.ensureTable table .source = before at htable howner ⊢
    generalize second.ensureTable table .source = after at htable howner ⊢
    cases hbefore : before.table? table with
    | none =>
      have hafter : after.table? table = none := by simpa [hbefore] using howner.symm
      rw [hafter]
      exact htable
    | some owner =>
      obtain ⟨other, hafter, hother⟩ : ∃ other, after.table? table = some other ∧
          other.outline = owner.outline := by simpa [hbefore] using howner.symm
      simp only [hafter, hasColumn_eq_outline, hother]
      split
      · exact htable
      · simp only [outline, tables_pushColumn, map_outline_appendColumn] at htable ⊢
        rw [htable]

@[simp]
theorem outline_addRelationship (registry : Registry) (source target : String)
    (kind : RelationshipKind) :
    (registry.addRelationship source target kind).outline = registry.outline :=
  congrArg (List.map Table.outline) (tables_addRelationship registry source target kind)

@[simp]
theorem outline_addRelationships (registry : Registry) (sources : List String) (target : String)
    (kind : RelationshipKind) :
    (registry.addRelationships sources target kind).outline = registry.outline :=
  congrArg (List.map Table.outline) (tables_addRelationships registry sources target kind)

end Outline

/-! ## Links -/

@[simp]
theorem links_ensureTable (registry : Registry) (name : String) (kind : TableKind) :
    (registry.ensureTable name kind).links = registry.links := by
  rw [ensureTable]
  split <;> rfl

@[simp]
theorem links_ensureColumn (registry : Registry) (table column : String) (role : ColumnRole) :
    (registry.ensureColumn table column role).links = registry.links := by
  by_cases hknown : table = unknownTable
  · subst hknown
    rw [ensureColumn_unknown]
  · obtain ⟨owner, _, _, heq⟩ := ensureColumn_eq registry column role hknown
    rw [heq, ← links_ensureTable registry table .source]
    split <;> rfl

theorem links_addRelationship (registry : Registry) (source target : String)
    (kind : RelationshipKind) :
    (registry.addRelationship source target kind).links =
      registry.links ++ if source = target then [] else [⟨source, kind, target⟩] := by
  rw [addRelationship]
  by_cases heq : source = target
  · simp [heq]
  · simp [heq, links, Relationship.link]

theorem links_addRelationships (registry : Registry) (sources : List String) (target : String)
    (kind : RelationshipKind) :
    (registry.addRelationships sources target kind).links =
      registry.links ++
        (sources.filter (· ≠ target)).map (fun source => ⟨source, kind, target⟩) := by
  rw [addRelationships]
  induction sources generalizing registry with
  | nil => simp
  | cons source rest ih =>
    rw [List.foldl_cons, ih, links_addRelationship, List.append_assoc]
    by_cases heq : source = target
    · simp [heq]
    · simp [heq]

end Registry

end SqlLineage
