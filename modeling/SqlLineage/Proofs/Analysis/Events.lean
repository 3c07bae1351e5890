import SqlLineage.Proofs.Analysis.Statements

/-!
# Events of a statement

What a statement does to the registry is a list of events: tables and columns that are met,
relationships between them, and targets that are linked to their sources.  The events depend on the
statement and on how predicates are read, but not on the registry, and a query reads the tables that
it meets as sources.  A run records the events of its statements one after another.
-/

namespace SqlLineage

open Registry

/-- One thing that the analysis records. -/
inductive Event where
  | table (name : String) (kind : TableKind)
  | column (table name : String) (role : ColumnRole)
  | relationship (source target : String) (kind : RelationshipKind)
  /-- A target is linked to sources; `reads` are those that the statement itself reads. -/
  | link (reads : List String) (target : String) (kind : RelationshipKind)
  deriving DecidableEq, Repr

/-- The table that a query reads by an event. -/
def Event.read? : Event → Option String
  | .table name .source => some name
  | _ => none

/-- The tables read by events, in order. -/
def Event.reads (events : List Event) : List String :=
  events.filterMap Event.read?

theorem Event.reads_cons (event : Event) (events : List Event) :
    Event.reads (event :: events) = event.read?.toList ++ Event.reads events := by
  rw [reads, reads, List.filterMap_cons]
  cases event.read? <;> rfl

@[simp]
theorem Event.reads_append (first second : List Event) :
    Event.reads (first ++ second) = Event.reads first ++ Event.reads second :=
  List.filterMap_append

namespace Registry

def record (linking : SourceLinking) (registry : Registry) : Event → Registry
  | .table name kind => registry.ensureTable name kind
  | .column table name role => registry.ensureColumn table name role
  | .relationship source target kind => registry.addRelationship source target kind
  | .link reads target kind =>
    registry.addRelationships (linkedSources linking reads registry) target kind

/-- Records events in order. -/
def recordAll (linking : SourceLinking) (registry : Registry) (events : List Event) : Registry :=
  events.foldl (record linking) registry

variable (linking : SourceLinking) (registry : Registry)

@[simp]
theorem recordAll_nil : registry.recordAll linking [] = registry := rfl

@[simp]
theorem recordAll_cons (event : Event) (rest : List Event) :
    registry.recordAll linking (event :: rest) =
      (registry.record linking event).recordAll linking rest := rfl

@[simp]
theorem recordAll_append (first second : List Event) :
    registry.recordAll linking (first ++ second) =
      (registry.recordAll linking first).recordAll linking second :=
  List.foldl_append

/-- Going through a list records what each element does. -/
theorem foldl_eq_recordAll {α : Type*} {step : Registry → α → Registry} {events : α → List Event}
    (hstep : ∀ registry element,
      step registry element = registry.recordAll linking (events element))
    (elements : List α) :
    elements.foldl step registry = registry.recordAll linking (elements.flatMap events) := by
  induction elements generalizing registry with
  | nil => rfl
  | cons element rest ih => rw [List.foldl_cons, List.flatMap_cons, recordAll_append, hstep, ih]

end Registry

/-! ## Events of a block -/

def Expression.owner? (scope : Scope) : Expression → Option String
  | .column qualifier _ => some (scope.resolve qualifier)
  | _ => none

/-- A column that an expression is, met in that role. -/
def Expression.columnEvents (scope : Scope) (role : ColumnRole) : Expression → List Event
  | .column qualifier name => [.column (scope.resolve qualifier) name role]
  | _ => []

/-- Columns of two tables are joined where they are compared. -/
def Event.joining : Option String → Option String → List Event
  | some left, some right => [.relationship left right .join]
  | _, _ => []

def Expression.comparisonEvents (scope : Scope) (left right : Expression) : List Event :=
  left.columnEvents scope .condition ++ right.columnEvents scope .condition
    ++ Event.joining (left.owner? scope) (right.owner? scope)

def Expression.events (recurse : Bool) (scope : Scope) : Expression → List Event
  | .binary operator left right =>
    if operator.isLogical then
      if recurse then left.events recurse scope ++ right.events recurse scope else []
    else Expression.comparisonEvents scope left right
  | _ => []

/-- The events of the columns of a block, once its relations are met. -/
def Block.events (recurse : Bool) (block : Block) : List Event :=
  block.columns.flatMap (Expression.columnEvents block.scope .selected)
    ++ (block.sources.filterMap FromItem.joinCondition?).flatMap
      (Expression.events recurse block.scope)
    ++ block.selection.toList.flatMap (Expression.events recurse block.scope)

section Blocks

variable (recurse : Bool) (scope : Scope) (linking : SourceLinking) (registry : Registry)

theorem registerOperand_eq (operand : Expression) :
    registerOperand scope registry operand =
      (registry.recordAll linking (operand.columnEvents scope .condition),
        operand.owner? scope) := by
  cases operand <;> rfl

theorem inferFromComparison_eq (left right : Expression) :
    inferFromComparison scope left right registry =
      registry.recordAll linking (Expression.comparisonEvents scope left right) := by
  simp only [inferFromComparison, registerOperand_eq scope linking, Expression.comparisonEvents,
    recordAll_append]
  cases left.owner? scope <;> cases right.owner? scope <;> rfl

theorem inferFromCondition_eq (condition : Expression) :
    inferFromCondition recurse scope condition registry =
      registry.recordAll linking (condition.events recurse scope) := by
  induction condition generalizing registry with
  | column qualifier name => rfl
  | other => rfl
  | binary operator left right ihleft ihright =>
    rw [inferFromCondition, Expression.events]
    split
    · split
      · rw [recordAll_append, ihleft, ihright]
      · rfl
    · exact inferFromComparison_eq scope linking registry left right

theorem inferFromSelection_eq (selection : Option Expression) :
    inferFromSelection recurse scope selection registry =
      registry.recordAll linking (selection.toList.flatMap (Expression.events recurse scope)) := by
  cases selection with
  | none => rfl
  | some condition =>
    simpa [inferFromSelection] using inferFromCondition_eq recurse scope linking registry condition

theorem inferFromJoins_eq (sources : List FromItem) :
    inferFromJoins recurse scope sources registry =
      registry.recordAll linking ((sources.filterMap FromItem.joinCondition?).flatMap
        (Expression.events recurse scope)) := by
  rw [inferFromJoins]
  induction sources generalizing registry with
  | nil => rfl
  | cons item rest ih =>
    rw [List.foldl_cons, ih, List.filterMap_cons, FromItem.joinCondition?]
    cases item.join with
    | false => rfl
    | true =>
      rw [if_pos rfl, if_pos rfl, inferFromSelection_eq recurse scope linking]
      cases item.condition <;> simp

theorem registerProjection_eq (columns : List Expression) :
    registerProjection scope columns registry =
      registry.recordAll linking (columns.flatMap (Expression.columnEvents scope .selected)) := by
  apply foldl_eq_recordAll
  intro registry expression
  cases expression <;> rfl

theorem inspect_eq (block : Block) :
    inferFromSelection recurse block.scope block.selection
        (inferFromJoins recurse block.scope block.sources
          (registerProjection block.scope block.columns registry)) =
      registry.recordAll linking (block.events recurse) := by
  rw [inferFromSelection_eq recurse _ linking, inferFromJoins_eq recurse _ linking,
    registerProjection_eq _ linking, Block.events, recordAll_append, recordAll_append]

end Blocks

/-! ## Reads of events -/

theorem reads_columnEvents (scope : Scope) (role : ColumnRole) (expression : Expression) :
    Event.reads (expression.columnEvents scope role) = [] := by
  cases expression <;> rfl

theorem reads_comparisonEvents (scope : Scope) (left right : Expression) :
    Event.reads (Expression.comparisonEvents scope left right) = [] := by
  simp only [Expression.comparisonEvents, Event.reads_append, reads_columnEvents]
  cases left.owner? scope <;> cases right.owner? scope <;> rfl

theorem reads_conditionEvents (recurse : Bool) (scope : Scope) (condition : Expression) :
    Event.reads (condition.events recurse scope) = [] := by
  induction condition with
  | column qualifier name => rfl
  | other => rfl
  | binary operator left right ihleft ihright =>
    rw [Expression.events]
    split
    · split
      · rw [Event.reads_append, ihleft, ihright, List.append_nil]
      · rfl
    · exact reads_comparisonEvents scope left right

theorem reads_flatMap {α : Type*} {events : α → List Event} (elements : List α)
    (hnone : ∀ element, Event.reads (events element) = []) :
    Event.reads (elements.flatMap events) = [] := by
  rw [Event.reads, List.filterMap_flatMap, List.flatMap_eq_nil_iff]
  exact fun element _ => hnone element

/-- The columns of a block are no reads. -/
theorem reads_blockEvents (recurse : Bool) (block : Block) :
    Event.reads (block.events recurse) = [] := by
  simp only [Block.events, Event.reads_append, List.append_eq_nil_iff]
  exact ⟨⟨reads_flatMap _ (reads_columnEvents block.scope .selected),
    reads_flatMap _ (reads_conditionEvents recurse block.scope)⟩,
    reads_flatMap _ (reads_conditionEvents recurse block.scope)⟩

/-! ## Events of a query -/

mutual

def Select.events (recurse : Bool) (scope : Scope) : Select → List Event
  | ⟨ctes, sources, columns, selection, union⟩ =>
    let outer := scope.addCtes (ctes.map CommonTable.name)
    CommonTable.events recurse scope ctes
      ++ (FromItem.events recurse outer sources
        ++ (Block.of outer sources columns selection).events recurse)
      ++ Select.branchEvents recurse outer union

def CommonTable.events (recurse : Bool) (scope : Scope) : List CommonTable → List Event
  | [] => []
  | ⟨name, query⟩ :: rest =>
    Select.events recurse scope query ++ CommonTable.events recurse (scope.addCte name) rest

def FromItem.events (recurse : Bool) (scope : Scope) : List FromItem → List Event
  | [] => []
  | item :: rest =>
    FromItem.ownEvents recurse scope item ++ FromItem.events recurse (scope.bindItem item) rest

def FromItem.ownEvents (recurse : Bool) (scope : Scope) : FromItem → List Event
  | ⟨.table name, _, _, _⟩ => if scope.isCte name then [] else [.table name .source]
  | ⟨.subquery query, _, _, _⟩ => Select.events recurse scope query

def Select.branchEvents (recurse : Bool) (scope : Scope) : List Select → List Event
  | [] => []
  | branch :: rest => Select.events recurse scope branch ++ Select.branchEvents recurse scope rest

end

section Queries

variable (linking : SourceLinking)

mutual

/-- Reading a query records its events. -/
theorem analyzeSelect_eq (recurse : Bool) (query : Select) (scope : Scope) (registry : Registry) :
    analyzeSelect recurse query scope registry =
      (registry.recordAll linking (query.events recurse scope),
        Event.reads (query.events recurse scope)) := by
  match query with
  | ⟨ctes, sources, columns, selection, union⟩ =>
    have hinspect := inspect_eq recurse linking
      ((registry.recordAll linking (CommonTable.events recurse scope ctes)).recordAll linking
        (FromItem.events recurse (scope.addCtes (ctes.map CommonTable.name)) sources))
      (Block.of (scope.addCtes (ctes.map CommonTable.name)) sources columns selection)
    rw [analyzeSelect, Select.events]
    simp only [analyzeCtes_eq recurse ctes, analyzeSources_eq recurse sources,
      analyzeBranches_eq recurse union, recordAll_append, Event.reads_append, reads_blockEvents,
      List.append_nil, ← hinspect]
    rfl

theorem analyzeCtes_eq (recurse : Bool) (ctes : List CommonTable) (scope : Scope)
    (registry : Registry) :
    analyzeCtes recurse ctes scope registry =
      (scope.addCtes (ctes.map CommonTable.name),
        registry.recordAll linking (CommonTable.events recurse scope ctes),
        Event.reads (CommonTable.events recurse scope ctes)) := by
  match ctes with
  | [] => rw [analyzeCtes]; rfl
  | ⟨name, query⟩ :: rest =>
    rw [analyzeCtes, CommonTable.events]
    simp only [analyzeSelect_eq recurse query, analyzeCtes_eq recurse rest, recordAll_append,
      Event.reads_append]
    rfl

theorem analyzeSources_eq (recurse : Bool) (sources : List FromItem) (scope : Scope)
    (registry : Registry) :
    analyzeSources recurse sources scope registry =
      (scope.bindItems sources,
        registry.recordAll linking (FromItem.events recurse scope sources),
        Event.reads (FromItem.events recurse scope sources)) := by
  match sources with
  | [] => rw [analyzeSources]; rfl
  | item :: rest =>
    rw [analyzeSources, FromItem.events]
    simp only [analyzeSource_eq recurse item, analyzeSources_eq recurse rest, recordAll_append,
      Event.reads_append]
    rfl

theorem analyzeSource_eq (recurse : Bool) (item : FromItem) (scope : Scope)
    (registry : Registry) :
    analyzeSource recurse item scope registry =
      (scope.bindItem item,
        registry.recordAll linking (FromItem.ownEvents recurse scope item),
        Event.reads (FromItem.ownEvents recurse scope item)) := by
  match item with
  | ⟨.table name, aliasName, _, _⟩ =>
    rw [analyzeSource, Scope.bindItem, FromItem.ownEvents]
    split <;> rfl
  | ⟨.subquery query, some aliasName, _, _⟩ =>
    rw [analyzeSource, analyzeSelect_eq recurse query]
    rfl
  | ⟨.subquery query, none, _, _⟩ =>
    rw [analyzeSource, analyzeSelect_eq recurse query]
    rfl

theorem analyzeBranches_eq (recurse : Bool) (branches : List Select) (scope : Scope)
    (registry : Registry) :
    analyzeBranches recurse branches scope registry =
      (registry.recordAll linking (Select.branchEvents recurse scope branches),
        Event.reads (Select.branchEvents recurse scope branches)) := by
  match branches with
  | [] => rw [analyzeBranches]; rfl
  | branch :: rest =>
    rw [analyzeBranches, Select.branchEvents]
    simp only [analyzeSelect_eq recurse branch, analyzeBranches_eq recurse rest,
      recordAll_append, Event.reads_append]

end

end Queries

/-! ## Events of a statement -/

/-- The events of what an INSERT writes, behind those of its common tables. -/
def Insert.events (recurse : Bool) (change : Insert) : List Event :=
  let before := CommonTable.events recurse ⟨[], []⟩ change.ctes
  match change.source with
  | .values => before ++ change.columns.map (fun column => .column change.table column .target)
  | .query rows =>
    let filled := before ++ rows.events recurse (CommonTable.scope change.ctes)
    filled ++ [.link (Event.reads filled) change.table .insert]
  | .defaultValues => before

/-- The events of the relations and the predicate of an UPDATE or a DELETE. -/
def FromItem.changeEvents (recurse : Bool) (scope : Scope) (sources : List FromItem)
    (selection : Option Expression) : List Event :=
  FromItem.events recurse scope sources ++ (Block.of scope sources [] selection).events recurse

def Event.foreignKey (table referenced : String) : List Event :=
  [.table referenced .table, .relationship table referenced .foreignKey]

def ColumnDefinition.events (table : String) (column : ColumnDefinition) : List Event :=
  .column table column.name .column :: column.references.toList.flatMap (Event.foreignKey table)

/-- The events of a query that fills a table, which is linked to what the query reads. -/
def Select.fillEvents (recurse : Bool) (target : String) (kind : RelationshipKind)
    (query : Select) : List Event :=
  query.events recurse ⟨[], []⟩ ++ [.link (Event.reads (query.events recurse ⟨[], []⟩)) target kind]

def Statement.events (recurse : Bool) : Statement → List Event
  | .select query => query.events recurse ⟨[], []⟩
  | .insert change => .table change.table .target :: change.events recurse
  | .update change =>
    .table change.table.name .target :: (CommonTable.events recurse ⟨[], []⟩ change.ctes
      ++ change.assignments.map (fun column => .column change.table.name column .target)
      ++ FromItem.changeEvents recurse
        ((CommonTable.scope change.ctes).bindTable change.table.name change.table.aliasName)
        change.sources change.selection)
  | .delete change =>
    .table change.table.name .target :: (CommonTable.events recurse ⟨[], []⟩ change.ctes
      ++ FromItem.changeEvents recurse
        ((CommonTable.scope change.ctes).bindTable change.table.name change.table.aliasName)
        change.sources change.selection)
  | .createTable create =>
    .table create.table .table :: (create.columns.flatMap (ColumnDefinition.events create.table)
      ++ create.foreignKeys.flatMap (fun key => Event.foreignKey create.table key.references)
      ++ create.query.toList.flatMap (Select.fillEvents recurse create.table .insert))
  | .createView create =>
    .table create.view .view :: create.query.fillEvents recurse create.view .viewDependency
  | .alterTable table => [.table table.name .table]
  | .unsupported _ => []

section Statements

variable (options : Options) (registry : Registry)

theorem foldl_ensureColumn_eq (linking : SourceLinking) (table : String) (columns : List String)
    (role : ColumnRole) :
    columns.foldl (fun registry column => registry.ensureColumn table column role) registry =
      registry.recordAll linking (columns.map (fun column => .column table column role)) := by
  induction columns generalizing registry with
  | nil => rfl
  | cons column rest ih => exact ih (registry.ensureColumn table column role)

theorem analyzeInsert_eq (change : Insert) :
    analyzeInsert options change registry =
      registry.recordAll options.sourceLinking
        (Statement.events options.recurseConditions (.insert change)) := by
  rw [analyzeInsert, Statement.events, Insert.events]
  simp only [analyzeCtes_eq options.sourceLinking]
  cases change.source with
  | values =>
    simp only [foldl_ensureColumn_eq _ options.sourceLinking, recordAll_cons, recordAll_append]
    rfl
  | query rows =>
    simp only [analyzeSelect_eq options.sourceLinking, recordAll_cons, recordAll_append,
      Event.reads_append]
    rfl
  | defaultValues => rfl

theorem analyzeRelations_eq (sources : List FromItem) (selection : Option Expression)
    (scope : Scope) :
    analyzeRelations options sources selection scope registry =
      registry.recordAll options.sourceLinking
        (FromItem.changeEvents options.recurseConditions scope sources selection) := by
  have hinspect := inspect_eq options.recurseConditions options.sourceLinking
    (registry.recordAll options.sourceLinking
      (FromItem.events options.recurseConditions scope sources))
    (Block.of scope sources [] selection)
  rw [analyzeRelations, FromItem.changeEvents, recordAll_append, ← hinspect]
  simp only [analyzeSources_eq options.sourceLinking]
  rfl

theorem analyzeUpdate_eq (change : Update) :
    analyzeUpdate options change registry =
      registry.recordAll options.sourceLinking
        (Statement.events options.recurseConditions (.update change)) := by
  rw [analyzeUpdate, Statement.events]
  simp only [analyzeCtes_eq options.sourceLinking, analyzeRelations_eq,
    foldl_ensureColumn_eq _ options.sourceLinking, recordAll_cons, recordAll_append]
  rfl

theorem analyzeDelete_eq (change : Delete) :
    analyzeDelete options change registry =
      registry.recordAll options.sourceLinking
        (Statement.events options.recurseConditions (.delete change)) := by
  rw [analyzeDelete, Statement.events]
  simp only [analyzeCtes_eq options.sourceLinking, analyzeRelations_eq, recordAll_cons,
    recordAll_append]
  rfl

theorem addForeignKey_eq (linking : SourceLinking) (table referenced : String) :
    addForeignKey table referenced registry =
      registry.recordAll linking (Event.foreignKey table referenced) := rfl

theorem declareColumn_eq (linking : SourceLinking) (table : String) (column : ColumnDefinition) :
    declareColumn table registry column =
      registry.recordAll linking (column.events table) := by
  rw [declareColumn, ColumnDefinition.events]
  cases column.references <;> rfl

theorem fill_eq (query : Select) (target : String) (kind : RelationshipKind) :
    linkSources options (analyzeSelect options.recurseConditions query ⟨[], []⟩ registry).2 target
        kind (analyzeSelect options.recurseConditions query ⟨[], []⟩ registry).1 =
      registry.recordAll options.sourceLinking
        (query.fillEvents options.recurseConditions target kind) := by
  rw [analyzeSelect_eq options.sourceLinking, Select.fillEvents, recordAll_append]
  rfl

theorem analyzeCreateTable_eq (create : CreateTable) :
    analyzeCreateTable options create registry =
      registry.recordAll options.sourceLinking
        (Statement.events options.recurseConditions (.createTable create)) := by
  rw [analyzeCreateTable, Statement.events]
  have hcolumns := foldl_eq_recordAll options.sourceLinking
    (registry.ensureTable create.table .table)
    (fun registry column => declareColumn_eq registry options.sourceLinking create.table column)
    create.columns
  have hkeys := fun before => foldl_eq_recordAll options.sourceLinking before
    (fun registry (key : ForeignKey) =>
      addForeignKey_eq registry options.sourceLinking create.table key.references)
    create.foreignKeys
  simp only [hcolumns, hkeys, recordAll_cons, recordAll_append]
  cases create.query with
  | none => rfl
  | some query =>
    rw [Option.toList_some, List.flatMap_singleton, ← fill_eq]
    rfl

/-- Reading a statement records its events. -/
theorem analyzeStatement_eq (statement : Statement) :
    analyzeStatement options statement registry =
      registry.recordAll options.sourceLinking (statement.events options.recurseConditions) := by
  cases statement with
  | select query =>
    rw [analyzeStatement, analyzeSelect_eq options.sourceLinking]
    rfl
  | insert change => exact analyzeInsert_eq options registry change
  | update change => exact analyzeUpdate_eq options registry change
  | delete change => exact analyzeDelete_eq options registry change
  | createTable create => exact analyzeCreateTable_eq options registry create
  | createView create =>
    rw [analyzeStatement, analyzeCreateView, Statement.events, recordAll_cons, ← fill_eq]
    rfl
  | alterTable table => rfl
  | unsupported kind => rfl

end Statements

/-- A run records the events of its statements. -/
theorem registryOf_eq (options : Options) (statements : List Statement) :
    registryOf options statements =
      Registry.recordAll options.sourceLinking {}
        (statements.flatMap (Statement.events options.recurseConditions)) := by
  rw [registryOf, analyzeAll, List.foldl_map]
  exact foldl_eq_recordAll options.sourceLinking {}
    (fun registry statement => analyzeStatement_eq options registry statement) statements

end SqlLineage
