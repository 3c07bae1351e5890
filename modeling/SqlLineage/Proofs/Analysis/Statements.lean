import SqlLineage.Proofs.Analysis.Blocks
import SqlLineage.Proofs.Graph.WellFormed

/-!
# The tables of a statement

A statement registers what it declares by itself, which is its target and the tables that its
foreign keys refer to, and what its blocks register.  Which tables a run registers therefore does
not depend on the order of its statements, nor on what was registered before.
-/

namespace SqlLineage

open Registry

/-! ## Blocks of statements -/

/-- The tables that a statement names outside of queries, relations and predicates. -/
def Statement.declared : Statement → List String
  | .select _ => []
  | .insert change => [change.table]
  | .update change => [change.table.name]
  | .delete change => [change.table.name]
  | .createTable create =>
    create.table :: (create.columns.flatMap (fun column => column.references.toList)
      ++ create.foreignKeys.map ForeignKey.references)
  | .createView create => [create.view]
  | .alterTable table => [table.name]
  | .unsupported _ => []

/-- The scope behind common tables that nothing is around. -/
def CommonTable.scope (ctes : List CommonTable) : Scope :=
  Scope.addCtes ⟨[], []⟩ (ctes.map CommonTable.name)

/-- The blocks of what an INSERT writes. -/
def InsertSource.blocks (scope : Scope) : InsertSource → List Block
  | .query rows => rows.blocks scope
  | _ => []

/-- The blocks of the relations and the predicate of an UPDATE or a DELETE. -/
def FromItem.changeBlocks (scope : Scope) (sources : List FromItem)
    (selection : Option Expression) : List Block :=
  FromItem.blocks scope sources ++ [Block.of scope sources [] selection]

/-- The blocks of a statement, in the order in which they are done. -/
def Statement.blocks : Statement → List Block
  | .select query => query.blocks ⟨[], []⟩
  | .insert change =>
    CommonTable.blocks ⟨[], []⟩ change.ctes ++ change.source.blocks (CommonTable.scope change.ctes)
  | .update change =>
    CommonTable.blocks ⟨[], []⟩ change.ctes
      ++ FromItem.changeBlocks
        ((CommonTable.scope change.ctes).bindTable change.table.name change.table.aliasName)
        change.sources change.selection
  | .delete change =>
    CommonTable.blocks ⟨[], []⟩ change.ctes
      ++ FromItem.changeBlocks
        ((CommonTable.scope change.ctes).bindTable change.table.name change.table.aliasName)
        change.sources change.selection
  | .createTable create => create.query.toList.flatMap (Select.blocks ⟨[], []⟩)
  | .createView create => create.query.blocks ⟨[], []⟩
  | .alterTable _ => []
  | .unsupported _ => []

/-- Whether a statement registers a table of that name. -/
def Statement.Registers (recurse : Bool) (statement : Statement) (name : String) : Prop :=
  name ∈ statement.declared ∨ ∃ block ∈ statement.blocks, block.Registers recurse name

/-! ## What the handlers add -/

theorem ensureTable_adds (registry : Registry) (name : String) (kind : TableKind) :
    registry.Adds (registry.ensureTable name kind) (· = name) := by
  intro other
  rw [mem_names_ensureTable, or_comm]

/-- Linking a target registers nothing. -/
theorem names_linkSources (options : Options) (reads : List String) (target : String)
    (kind : RelationshipKind) (registry : Registry) :
    (linkSources options reads target kind registry).names = registry.names :=
  names_addRelationships _ _ _ _

/-- Going through a list adds what each element adds, as long as a table is registered. -/
theorem foldl_adds {α : Type*} {record : Registry → α → Registry} {added : α → List String}
    {table : String}
    (hrecord : ∀ registry : Registry, table ∈ registry.names → ∀ element,
      registry.Adds (record registry element) (· ∈ added element))
    (elements : List α) {registry : Registry} (htable : table ∈ registry.names) :
    registry.Adds (elements.foldl record registry) (· ∈ elements.flatMap added) := by
  induction elements generalizing registry with
  | nil => exact .none registry (by simp)
  | cons element rest ih =>
    have hfirst := hrecord registry htable element
    have hkept : table ∈ (record registry element).names := (hfirst table).mpr (Or.inl htable)
    exact (hfirst.trans (ih hkept)).congr fun name => by simp

/-- A column of a registered table adds no table. -/
theorem ensureColumn_adds_none {registry : Registry} {table : String}
    (htable : table ∈ registry.names) (column : String) (role : ColumnRole) :
    registry.Adds (registry.ensureColumn table column role) (· ∈ ([] : List String)) := by
  intro other
  rw [mem_names_ensureColumn]
  constructor
  · rintro (⟨rfl, -⟩ | hold)
    · exact Or.inl htable
    · exact Or.inl hold
  · rintro (hold | hnone)
    · exact Or.inr hold
    · cases hnone

theorem addForeignKey_adds (table referenced : String) (registry : Registry) :
    registry.Adds (addForeignKey table referenced registry) (· ∈ [referenced]) := by
  intro other
  rw [addForeignKey, names_addRelationship, mem_names_ensureTable, or_comm]
  exact or_congr_right List.mem_singleton.symm

theorem declareColumn_adds {registry : Registry} {table : String}
    (htable : table ∈ registry.names) (column : ColumnDefinition) :
    registry.Adds (declareColumn table registry column) (· ∈ column.references.toList) := by
  have hcolumn := ensureColumn_adds_none htable column.name .column
  rw [declareColumn]
  cases column.references with
  | none => exact hcolumn
  | some referenced =>
    exact (hcolumn.trans (addForeignKey_adds table referenced _)).congr fun name => by simp

theorem analyzeRelations_adds (options : Options) (sources : List FromItem)
    (selection : Option Expression) (scope : Scope) (registry : Registry) :
    registry.Adds (analyzeRelations options sources selection scope registry)
      (fun name => ∃ block ∈ FromItem.changeBlocks scope sources selection,
        block.Registers options.recurseConditions name) := by
  have hblock :=
    (analyzeSources_surveys options.recurseConditions sources scope registry).block [] selection
  rw [analyzeRelations]
  simp only [analyzeSources_scope]
  exact hblock.adds.congr fun name => by simp [FromItem.changeBlocks]

/-- What common tables add, and the scope behind them. -/
theorem analyzeCtes_adds (recurse : Bool) (ctes : List CommonTable) (registry : Registry) :
    (analyzeCtes recurse ctes ⟨[], []⟩ registry).1 = CommonTable.scope ctes ∧
      registry.Adds (analyzeCtes recurse ctes ⟨[], []⟩ registry).2.1
        (fun name => ∃ block ∈ CommonTable.blocks ⟨[], []⟩ ctes, block.Registers recurse name) :=
  ⟨analyzeCtes_scope recurse ctes _ registry,
    (analyzeCtes_surveys recurse ctes ⟨[], []⟩ registry).adds.congr fun name => by simp⟩

theorem analyzeSelect_adds (recurse : Bool) (query : Select) (scope : Scope)
    (registry : Registry) :
    registry.Adds (analyzeSelect recurse query scope registry).1
      (fun name => ∃ block ∈ query.blocks scope, block.Registers recurse name) :=
  fun _ => mem_names_analyzeSelect

/-! ## Statements -/

theorem analyzeInsert_adds (options : Options) (insert : Insert) (registry : Registry) :
    registry.Adds (analyzeInsert options insert registry)
      (Statement.Registers options.recurseConditions (.insert insert)) := by
  have htable := ensureTable_adds registry insert.table .target
  obtain ⟨hscope, hctes⟩ := analyzeCtes_adds options.recurseConditions insert.ctes
    (registry.ensureTable insert.table .target)
  have hboth := htable.trans hctes
  rcases heq : analyzeCtes options.recurseConditions insert.ctes ⟨[], []⟩
    (registry.ensureTable insert.table .target) with ⟨scope, afterCtes, cteReads⟩
  rw [heq] at hscope hboth
  rw [analyzeInsert, heq]
  cases hsource : insert.source with
  | values =>
    have hregistered : insert.table ∈ afterCtes.names :=
      (hboth insert.table).mpr (Or.inr (Or.inl rfl))
    have hcolumns := foldl_adds
      (fun _ hknown column => ensureColumn_adds_none hknown column .target) insert.columns
      hregistered
    refine (hboth.trans hcolumns).congr fun name => ?_
    simp [Statement.Registers, Statement.declared, Statement.blocks, hsource, InsertSource.blocks]
  | query query =>
    have hquery := analyzeSelect_adds options.recurseConditions query scope afterCtes
    intro name
    simp only [names_linkSources]
    rw [(hboth.trans hquery) name, show scope = CommonTable.scope insert.ctes from hscope]
    simp [Statement.Registers, Statement.declared, Statement.blocks, hsource, InsertSource.blocks,
      or_and_right, exists_or, or_assoc]
  | defaultValues =>
    refine hboth.congr fun name => ?_
    simp [Statement.Registers, Statement.declared, Statement.blocks, hsource, InsertSource.blocks]

theorem analyzeUpdate_adds (options : Options) (update : Update) (registry : Registry) :
    registry.Adds (analyzeUpdate options update registry)
      (Statement.Registers options.recurseConditions (.update update)) := by
  obtain ⟨hscope, hctes⟩ := analyzeCtes_adds options.recurseConditions update.ctes
    (registry.ensureTable update.table.name .target)
  have hboth := (ensureTable_adds registry update.table.name .target).trans hctes
  have hcolumns := foldl_adds
    (fun _ hknown column => ensureColumn_adds_none hknown column .target) update.assignments
    ((hboth update.table.name).mpr (Or.inr (Or.inl rfl)))
  rw [analyzeUpdate]
  simp only [hscope]
  refine ((hboth.trans hcolumns).trans (analyzeRelations_adds options _ _ _ _)).congr
    fun name => ?_
  simp [Statement.Registers, Statement.declared, Statement.blocks, or_and_right, exists_or,
    or_assoc]

theorem analyzeDelete_adds (options : Options) (delete : Delete) (registry : Registry) :
    registry.Adds (analyzeDelete options delete registry)
      (Statement.Registers options.recurseConditions (.delete delete)) := by
  obtain ⟨hscope, hctes⟩ := analyzeCtes_adds options.recurseConditions delete.ctes
    (registry.ensureTable delete.table.name .target)
  have hboth := (ensureTable_adds registry delete.table.name .target).trans hctes
  rw [analyzeDelete]
  simp only [hscope]
  refine (hboth.trans (analyzeRelations_adds options _ _ _ _)).congr fun name => ?_
  simp [Statement.Registers, Statement.declared, Statement.blocks, or_and_right, exists_or,
    or_assoc]

theorem analyzeCreateTable_adds (options : Options) (create : CreateTable)
    (registry : Registry) :
    registry.Adds (analyzeCreateTable options create registry)
      (Statement.Registers options.recurseConditions (.createTable create)) := by
  have htable := ensureTable_adds registry create.table .table
  have hcolumns := htable.trans (foldl_adds
    (fun _ hknown column => declareColumn_adds hknown column) create.columns
    ((htable create.table).mpr (Or.inr rfl)))
  have hregistered := (hcolumns create.table).mpr (Or.inr (Or.inl rfl))
  have hkeys := hcolumns.trans (foldl_adds
    (fun registry _ (key : ForeignKey) => addForeignKey_adds create.table key.references registry)
    create.foreignKeys hregistered)
  have hdeclared : registry.Adds _ (· ∈ (Statement.createTable create).declared) :=
    hkeys.congr fun name => by simp [Statement.declared, or_assoc, eq_comm]
  rw [analyzeCreateTable]
  cases hquery : create.query with
  | none =>
    refine hdeclared.congr fun name => ?_
    simp [Statement.Registers, Statement.blocks, hquery]
  | some query =>
    intro name
    simp only [names_linkSources]
    rw [(hdeclared.trans (analyzeSelect_adds options.recurseConditions query ⟨[], []⟩ _)) name]
    simp [Statement.Registers, Statement.blocks, hquery]

theorem analyzeCreateView_adds (options : Options) (create : CreateView)
    (registry : Registry) :
    registry.Adds (analyzeCreateView options create registry)
      (Statement.Registers options.recurseConditions (.createView create)) := by
  have hboth := (ensureTable_adds registry create.view .view).trans
    (analyzeSelect_adds options.recurseConditions create.query ⟨[], []⟩ _)
  intro name
  rw [analyzeCreateView, names_linkSources, hboth name]
  simp [Statement.Registers, Statement.declared, Statement.blocks]

theorem analyzeStatement_adds (options : Options) (statement : Statement)
    (registry : Registry) :
    registry.Adds (analyzeStatement options statement registry)
      (statement.Registers options.recurseConditions) := by
  cases statement with
  | select query =>
    refine (analyzeSelect_adds options.recurseConditions query ⟨[], []⟩ registry).congr ?_
    intro name
    simp [Statement.Registers, Statement.declared, Statement.blocks]
  | insert insert => exact analyzeInsert_adds options insert registry
  | update update => exact analyzeUpdate_adds options update registry
  | delete delete => exact analyzeDelete_adds options delete registry
  | createTable create => exact analyzeCreateTable_adds options create registry
  | createView create => exact analyzeCreateView_adds options create registry
  | alterTable table =>
    refine (ensureTable_adds registry table.name .table).congr fun name => ?_
    simp [Statement.Registers, Statement.declared, Statement.blocks]
  | unsupported kind =>
    exact .none registry (by simp [Statement.Registers, Statement.declared, Statement.blocks])

/-- A run registers what its statements register. -/
theorem mem_names_registryOf {options : Options} {statements : List Statement} {name : String} :
    name ∈ (registryOf options statements).names ↔
      ∃ statement ∈ statements, statement.Registers options.recurseConditions name := by
  have hrun : ∀ registry : Registry,
      registry.Adds
        (analyzeAll options (statements.map (fun statement => ⟨statement, none⟩)) registry)
        (fun name => ∃ statement ∈ statements,
          statement.Registers options.recurseConditions name) := by
    induction statements with
    | nil => exact fun registry => .none registry (by simp)
    | cons statement rest ih =>
      intro registry
      exact ((analyzeStatement_adds options statement registry).trans (ih _)).congr
        fun name => by simp
  exact (hrun {} name).trans (by simp [names])

/-- The labels of the table nodes of a run. -/
theorem exists_table_label_iff {options : Options} {statements : List Statement}
    {name : String} :
    (∃ table ∈ (analyzeStatements options statements).graph.tables, table.label = name) ↔
      ∃ statement ∈ statements, statement.Registers options.recurseConditions name := by
  rw [← mem_names_registryOf, analyzeStatements_graph, graph_tables, names, List.mem_map]
  simp [Table.node]

end SqlLineage
