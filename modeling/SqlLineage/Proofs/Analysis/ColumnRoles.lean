import SqlLineage.Proofs.Analysis.Growth
import SqlLineage.Proofs.Analysis.Recording
import SqlLineage.Proofs.Registry.Extension

/-!
# Roles of columns

A registered column has the role of an event that records it.  A query gives the roles of selected
columns and of those in conditions, to columns that one of its blocks looks at.  So a column has the
role of a target only where a statement writes it, and a column of any other table is one that a
block of the statement looks at.
-/

namespace SqlLineage

open Registry

/-! ## Registered roles -/

/-- A table has that column, in that role. -/
def Registry.Lists (registry : Registry) (table column : String) (role : ColumnRole) : Prop :=
  ∃ owner ∈ registry.tables, owner.name = table ∧
    ∃ known ∈ owner.columns, known.name = column ∧ known.role = role

namespace Registry

instance (registry : Registry) (table column : String) (role : ColumnRole) :
    Decidable (registry.Lists table column role) :=
  inferInstanceAs (Decidable (∃ owner ∈ registry.tables, owner.name = table ∧
    ∃ known ∈ owner.columns, known.name = column ∧ known.role = role))

theorem not_lists_empty (table column : String) (role : ColumnRole) :
    ¬ Registry.Lists {} table column role := by
  rintro ⟨owner, howner, -⟩
  cases howner

theorem mem_columnNames_iff_lists {registry : Registry} {table column : String} :
    (table, column) ∈ registry.columnNames ↔ ∃ role, registry.Lists table column role := by
  simp only [mem_columnNames, Table.hasColumn_iff, List.mem_map, Lists]
  constructor
  · rintro ⟨owner, howner, hname, known, hknown, hcolumn⟩
    exact ⟨known.role, owner, howner, hname, known, hknown, hcolumn, rfl⟩
  · rintro ⟨role, owner, howner, hname, known, hknown, hcolumn, -⟩
    exact ⟨owner, howner, hname, known, hknown, hcolumn⟩

/-- A registry that grew keeps the roles of its columns. -/
theorem Grows.lists {before after : Registry} (hgrows : Grows before after)
    {table column : String} {role : ColumnRole} (hlists : before.Lists table column role) :
    after.Lists table column role := by
  obtain ⟨owner, howner, rfl, known, hknown, hcolumn⟩ := hlists
  obtain ⟨position, hposition⟩ := List.mem_iff_getElem?.mp howner
  obtain ⟨later, hlater, hextends⟩ := hgrows.extends.tables position owner hposition
  exact ⟨later, List.mem_iff_getElem?.mpr ⟨position, hlater⟩, hextends.name_eq, known,
    hextends.columns_prefix.subset hknown, hcolumn⟩

theorem lists_of_lists_ensureTable {registry : Registry} {name table column : String}
    {kind : TableKind} {role : ColumnRole}
    (hlists : (registry.ensureTable name kind).Lists table column role) :
    registry.Lists table column role := by
  by_cases hname : name ∈ registry.names
  · rwa [ensureTable_of_mem hname] at hlists
  · obtain ⟨owner, howner, howner'⟩ := hlists
    rw [tables_ensureTable_of_not_mem hname, List.mem_append, List.mem_singleton] at howner
    obtain hold | rfl := howner
    · exact ⟨owner, hold, howner'⟩
    · obtain ⟨-, known, hknown, -⟩ := howner'
      cases hknown

/-- A column that is recorded gets the role it is met in, the others keep theirs. -/
theorem lists_of_lists_ensureColumn {registry : Registry} {owner name table column : String}
    {met role : ColumnRole}
    (hlists : (registry.ensureColumn owner name met).Lists table column role) :
    (owner ≠ unknownTable ∧ (owner, name, met) = (table, column, role)) ∨
      registry.Lists table column role := by
  by_cases hknown : owner = unknownTable
  · rw [hknown, ensureColumn_unknown] at hlists
    exact .inr hlists
  · obtain ⟨_, _, _, heq⟩ := ensureColumn_eq registry name met hknown
    rw [heq] at hlists
    split at hlists
    · exact .inr (lists_of_lists_ensureTable hlists)
    · obtain ⟨found, hfound, rfl, known, hmem, rfl, rfl⟩ := hlists
      obtain hold | ⟨before, hbefore, rfl, rfl⟩ := mem_appendColumn hfound
      · exact .inr (lists_of_lists_ensureTable ⟨found, hold, rfl, known, hmem, rfl, rfl⟩)
      · obtain hold | hnew := List.mem_append.mp hmem
        · exact .inr (lists_of_lists_ensureTable ⟨before, hbefore, rfl, known, hold, rfl, rfl⟩)
        · rw [List.mem_singleton.mp hnew]
          exact .inl ⟨hknown, rfl⟩

theorem lists_of_lists_record {linking : SourceLinking} {registry : Registry} {event : Event}
    {table column : String} {role : ColumnRole}
    (hlists : (registry.record linking event).Lists table column role) :
    (table ≠ unknownTable ∧ event = .column table column role) ∨
      registry.Lists table column role := by
  cases event with
  | table name kind => exact .inr (lists_of_lists_ensureTable hlists)
  | column owner name met =>
    refine (lists_of_lists_ensureColumn hlists).imp_left ?_
    rintro ⟨hknown, heq⟩
    cases heq
    exact ⟨hknown, rfl⟩
  | relationship source target kind =>
    rw [record, Lists, tables_addRelationship] at hlists
    exact .inr hlists
  | link reads target kind =>
    rw [record, Lists, tables_addRelationships] at hlists
    exact .inr hlists

/-- A role in the registry stems from an event, or was there before. -/
theorem lists_of_lists_recordAll {linking : SourceLinking} {registry : Registry}
    {events : List Event} {table column : String} {role : ColumnRole}
    (hlists : (registry.recordAll linking events).Lists table column role) :
    (table ≠ unknownTable ∧ .column table column role ∈ events) ∨
      registry.Lists table column role := by
  induction events generalizing registry with
  | nil => exact .inr hlists
  | cons event rest ih =>
    rw [List.mem_cons]
    obtain ⟨hknown, hrest⟩ | hfirst := ih hlists
    · exact .inl ⟨hknown, .inr hrest⟩
    · exact (lists_of_lists_record hfirst).imp_left fun hevent =>
        ⟨hevent.1, .inl hevent.2.symm⟩

theorem mem_events_of_lists {linking : SourceLinking} {events : List Event}
    {table column : String} {role : ColumnRole}
    (hlists : (Registry.recordAll linking {} events).Lists table column role) :
    table ≠ unknownTable ∧ .column table column role ∈ events :=
  (lists_of_lists_recordAll hlists).resolve_right (not_lists_empty _ _ _)

/-- A column that is always met in the same role has that role. -/
theorem lists_recordAll {linking : SourceLinking} {events : List Event} {table column : String}
    {role : ColumnRole} (hknown : table ≠ unknownTable)
    (hevent : .column table column role ∈ events)
    (hsame : ∀ other, .column table column other ∈ events → other = role) :
    (Registry.recordAll linking {} events).Lists table column role := by
  have hcolumn : (table, column) ∈ (Registry.recordAll linking {} events).columnNames := by
    refine mem_columnNames_recordAll.mpr (.inl (List.mem_flatMap_of_mem hevent ?_))
    rw [Event.columns, if_neg hknown]
    exact List.mem_singleton.mpr rfl
  obtain ⟨other, hlists⟩ := mem_columnNames_iff_lists.mp hcolumn
  rwa [hsame other (mem_events_of_lists hlists).2] at hlists

end Registry

/-! ## Columns that blocks look at -/

/-- One of the columns is met in that table. -/
def Scope.Meets (scope : Scope) (columns : List (Option String × String))
    (table column : String) : Prop :=
  ∃ met ∈ columns, scope.resolve met.1 = table ∧ met.2 = column

theorem Scope.meets_append {scope : Scope} {first second : List (Option String × String)}
    {table column : String} :
    scope.Meets (first ++ second) table column ↔
      scope.Meets first table column ∨ scope.Meets second table column := by
  simp only [Meets, List.mem_append, or_and_right, exists_or]

theorem Scope.meets_of_mem {scope : Scope} {expressions : List Expression}
    {columns : Expression → List (Option String × String)} {table column : String}
    {expression : Expression} (hmem : expression ∈ expressions)
    (hmeets : scope.Meets (columns expression) table column) :
    scope.Meets (expressions.flatMap columns) table column := by
  obtain ⟨met, hmet, heq⟩ := hmeets
  exact ⟨met, List.mem_flatMap_of_mem hmem hmet, heq⟩

section Blocks

variable {recurse : Bool} {scope : Scope} {table column : String} {role : ColumnRole}

theorem meets_of_mem_columnEvents {given : ColumnRole} {expression : Expression}
    (hevent : .column table column role ∈ expression.columnEvents scope given) :
    role = given ∧ scope.Meets expression.operand table column := by
  cases expression with
  | column qualifier name =>
    cases List.mem_singleton.mp hevent
    exact ⟨rfl, _, List.mem_cons_self, rfl, rfl⟩
  | binary _ _ _ | other => cases hevent

theorem column_not_mem_joining (left right : Option String) :
    .column table column role ∉ Event.joining left right := by
  cases left <;> cases right <;> simp [Event.joining]

theorem meets_of_mem_comparisonEvents {left right : Expression}
    (hevent : .column table column role ∈ Expression.comparisonEvents scope left right) :
    role = .condition ∧ scope.Meets (left.operand ++ right.operand) table column := by
  rw [Expression.comparisonEvents, List.mem_append, List.mem_append] at hevent
  rw [Scope.meets_append]
  obtain (hleft | hright) | hjoining := hevent
  · exact (meets_of_mem_columnEvents hleft).imp_right .inl
  · exact (meets_of_mem_columnEvents hright).imp_right .inr
  · exact absurd hjoining (column_not_mem_joining _ _)

theorem meets_of_mem_conditionEvents {condition : Expression}
    (hevent : .column table column role ∈ condition.events recurse scope) :
    role = .condition ∧ scope.Meets (condition.operands recurse) table column := by
  induction condition with
  | column qualifier name => cases hevent
  | other => cases hevent
  | binary operator left right ihleft ihright =>
    rw [Expression.events] at hevent
    rw [Expression.operands]
    split at hevent
    · rename_i hlogical
      rw [if_pos hlogical]
      split at hevent
      · rename_i hrecurse
        rw [if_pos hrecurse, Scope.meets_append]
        obtain hleft | hright := List.mem_append.mp hevent
        · exact (ihleft hleft).imp_right .inl
        · exact (ihright hright).imp_right .inr
      · cases hevent
    · rename_i hcomparison
      rw [if_neg hcomparison]
      exact meets_of_mem_comparisonEvents hevent

/-- A block gives a role to columns that it looks at, and never that of a target. -/
theorem meets_of_mem_blockEvents {block : Block}
    (hevent : .column table column role ∈ block.events recurse) :
    role ≠ .target ∧ block.scope.Meets (block.inspected recurse) table column := by
  rw [Block.events, List.mem_append, List.mem_append] at hevent
  simp only [List.mem_flatMap] at hevent
  rw [Block.inspected, Scope.meets_append, Scope.meets_append]
  obtain (⟨expression, hmem, hcolumn⟩ | ⟨condition, hmem, hcolumn⟩) |
    ⟨condition, hmem, hcolumn⟩ := hevent
  · obtain ⟨rfl, hmeets⟩ := meets_of_mem_columnEvents hcolumn
    exact ⟨by decide, .inl (.inl (Scope.meets_of_mem hmem hmeets))⟩
  · obtain ⟨rfl, hmeets⟩ := meets_of_mem_conditionEvents hcolumn
    exact ⟨by decide, .inl (.inr (Scope.meets_of_mem hmem hmeets))⟩
  · obtain ⟨rfl, hmeets⟩ := meets_of_mem_conditionEvents hcolumn
    exact ⟨by decide, .inr (Scope.meets_of_mem hmem hmeets)⟩

end Blocks

/-! ## Columns of queries -/

/-- Some block among those looks at the column of that table. -/
def Block.NamesColumn (recurse : Bool) (table column : String) (blocks : List Block) : Prop :=
  ∃ block ∈ blocks, block.scope.Meets (block.inspected recurse) table column

theorem Block.namesColumn_append {recurse : Bool} {table column : String}
    {first second : List Block} :
    NamesColumn recurse table column (first ++ second) ↔
      NamesColumn recurse table column first ∨ NamesColumn recurse table column second := by
  simp only [NamesColumn, List.mem_append, or_and_right, exists_or]

/-- Events record the columns that blocks look at, and none of them as a target. -/
structure Event.DrawnFrom (recurse : Bool) (events : List Event) (blocks : List Block) : Prop where
  column : ∀ table column role, .column table column role ∈ events →
    role ≠ .target ∧ Block.NamesColumn recurse table column blocks

namespace Event.DrawnFrom

variable {recurse : Bool}

theorem nil : DrawnFrom recurse [] [] := ⟨nofun⟩

theorem append {first second : List Event} {before after : List Block}
    (hfirst : DrawnFrom recurse first before) (hsecond : DrawnFrom recurse second after) :
    DrawnFrom recurse (first ++ second) (before ++ after) where
  column := by
    intro table column role hevent
    rw [Block.namesColumn_append]
    obtain hevent | hevent := List.mem_append.mp hevent
    · exact (hfirst.column _ _ _ hevent).imp_right .inl
    · exact (hsecond.column _ _ _ hevent).imp_right .inr

theorem block (block : Block) : DrawnFrom recurse (block.events recurse) [block] where
  column := by
    intro table column role hevent
    obtain ⟨hrole, hmeets⟩ := meets_of_mem_blockEvents hevent
    exact ⟨hrole, block, List.mem_cons_self, hmeets⟩

mutual

theorem select (scope : Scope) (query : Select) :
    DrawnFrom recurse (query.events recurse scope) (query.blocks scope) := by
  match query with
  | ⟨ctes, sources, columns, selection, union⟩ =>
    rw [Select.events, Select.blocks]
    exact ((commonTables _ ctes).append ((items _ sources).append (block _))).append
      (branches _ union)

theorem commonTables (scope : Scope) (ctes : List CommonTable) :
    DrawnFrom recurse (CommonTable.events recurse scope ctes) (CommonTable.blocks scope ctes) := by
  match ctes with
  | [] => exact nil
  | ⟨name, query⟩ :: rest =>
    rw [CommonTable.events, CommonTable.blocks]
    exact (select _ query).append (commonTables _ rest)

theorem items (scope : Scope) (sources : List FromItem) :
    DrawnFrom recurse (FromItem.events recurse scope sources) (FromItem.blocks scope sources) := by
  match sources with
  | [] => exact nil
  | item :: rest =>
    rw [FromItem.events, FromItem.blocks]
    exact (ownItem _ item).append (items _ rest)

theorem ownItem (scope : Scope) (item : FromItem) :
    DrawnFrom recurse (FromItem.ownEvents recurse scope item) (FromItem.ownBlocks scope item) := by
  match item with
  | ⟨.table name, _, _, _⟩ =>
    rw [FromItem.ownEvents, FromItem.ownBlocks]
    split
    · exact nil
    · exact ⟨by simp⟩
  | ⟨.subquery query, _, _, _⟩ =>
    rw [FromItem.ownEvents, FromItem.ownBlocks]
    exact select _ query

theorem branches (scope : Scope) (union : List Select) :
    DrawnFrom recurse (Select.branchEvents recurse scope union)
      (Select.branchBlocks scope union) := by
  match union with
  | [] => exact nil
  | branch :: rest =>
    rw [Select.branchEvents, Select.branchBlocks]
    exact (select _ branch).append (branches _ rest)

end

theorem change (scope : Scope) (sources : List FromItem) (selection : Option Expression) :
    DrawnFrom recurse (FromItem.changeEvents recurse scope sources selection)
      (FromItem.changeBlocks scope sources selection) :=
  (items scope sources).append (block _)

end Event.DrawnFrom

/-! ## Columns of an UPDATE -/

/-- An UPDATE records a column that it assigns, as a target of its table, or one that it looks
at. -/
theorem column_mem_updateEvents {recurse : Bool} {change : Update} {table column : String}
    {role : ColumnRole}
    (hevent : .column table column role ∈ Statement.events recurse (.update change)) :
    (table = change.table.name ∧ column ∈ change.assignments ∧ role = .target) ∨
      (role ≠ .target ∧
        Block.NamesColumn recurse table column (Statement.blocks (.update change))) := by
  have hctes : Event.DrawnFrom recurse _ _ := .commonTables ⟨[], []⟩ change.ctes
  have hchange : Event.DrawnFrom recurse _ _ :=
    .change ((CommonTable.scope change.ctes).bindTable change.table.name change.table.aliasName)
      change.sources change.selection
  rw [Statement.blocks, Block.namesColumn_append]
  rw [Statement.events, List.mem_cons, List.mem_append, List.mem_append] at hevent
  obtain htable | (hearlier | hassigned) | hlater := hevent
  · cases htable
  · exact .inr ((hctes.column _ _ _ hearlier).imp_right .inl)
  · obtain ⟨name, hname, heq⟩ := List.mem_map.mp hassigned
    cases heq
    exact .inl ⟨rfl, hname, rfl⟩
  · exact .inr ((hchange.column _ _ _ hlater).imp_right .inr)

section Updates

variable {options : Options} {change : Update} {table column : String}

/-- An UPDATE without common tables makes its assigned columns targets, all of them in the table
that it changes. -/
theorem lists_target_analyzeUpdate_iff (hctes : change.ctes = []) :
    (analyzeUpdate options change {}).Lists table column .target ↔
      table = change.table.name ∧ table ≠ unknownTable ∧ column ∈ change.assignments := by
  constructor
  · intro hlists
    rw [analyzeUpdate_eq] at hlists
    obtain ⟨hknown, hevent⟩ := mem_events_of_lists hlists
    obtain ⟨htable, hcolumn, -⟩ | ⟨hrole, -⟩ := column_mem_updateEvents hevent
    · exact ⟨htable, hknown, hcolumn⟩
    · exact absurd rfl hrole
  · rintro ⟨rfl, hknown, hcolumn⟩
    -- Without common tables nothing else is recorded before the assignments.
    have hassigned : (Registry.recordAll options.sourceLinking {}
        (.table change.table.name .target ::
          change.assignments.map fun name => .column change.table.name name .target)).Lists
            change.table.name column .target := by
      apply lists_recordAll hknown
      · exact List.mem_cons_of_mem _ (List.mem_map_of_mem hcolumn)
      · simp
    rw [recordAll_cons, ← foldl_ensureColumn_eq] at hassigned
    rw [analyzeUpdate, hctes, analyzeCtes]
    exact (analyzeRelations_grows _ _ _ _ _).lists hassigned

/-- Every column that an UPDATE registers in another table than its own is one that it looks at. -/
theorem namesColumn_of_mem_analyzeUpdate
    (hcolumn : (table, column) ∈ (analyzeUpdate options change {}).columnNames)
    (hother : table ≠ change.table.name) :
    Block.NamesColumn options.recurseConditions table column
      (Statement.blocks (.update change)) := by
  obtain ⟨role, hlists⟩ := mem_columnNames_iff_lists.mp hcolumn
  rw [analyzeUpdate_eq] at hlists
  obtain ⟨htable, -⟩ | ⟨-, hnames⟩ := column_mem_updateEvents (mem_events_of_lists hlists).2
  · exact absurd htable hother
  · exact hnames

end Updates

end SqlLineage
