import SqlLineage.Proofs.Analysis.Events

/-!
# How the events of a statement are composed

Whatever a statement is, its events are composed in one way: those of its relations, columns and
predicates stand behind each other, and a statement that fills a table from a query links it last,
to the tables read until then.  Two readings of a statement that differ in how predicates are read
are therefore related as soon as the readings of each predicate are.
-/

namespace SqlLineage

/-- Whether relationships of a kind link a target to what it is filled from. -/
def RelationshipKind.isLinking : RelationshipKind → Bool
  | .insert | .viewDependency => true
  | .join | .foreignKey => false

/-- An event that links no target. -/
def Event.IsPlain : Event → Prop
  | .relationship _ _ kind => kind.isLinking = false
  | .link _ _ _ => False
  | _ => True

/-- An event of a predicate or a projection: a column that is met, or two tables that are joined. -/
def Event.IsInferred : Event → Prop
  | .column _ _ _ => True
  | .relationship _ _ kind => kind = .join
  | _ => False

theorem Event.IsInferred.isPlain {event : Event} (hinferred : event.IsInferred) :
    event.IsPlain := by
  cases event with
  | table name kind => cases hinferred
  | column table name role => trivial
  | relationship source target kind =>
    rw [IsInferred] at hinferred
    subst hinferred
    rfl
  | link reads target kind => cases hinferred

/-! ## Columns and predicates -/

theorem isInferred_of_mem_columnEvents {scope : Scope} {role : ColumnRole}
    {expression : Expression} {event : Event}
    (hevent : event ∈ expression.columnEvents scope role) : event.IsInferred := by
  cases expression with
  | column qualifier name =>
    rw [Expression.columnEvents, List.mem_singleton] at hevent
    subst hevent
    trivial
  | binary operator left right => cases hevent
  | other => cases hevent

theorem isInferred_of_mem_joining {left right : Option String} {event : Event}
    (hevent : event ∈ Event.joining left right) : event.IsInferred := by
  cases left with
  | none => cases hevent
  | some source =>
    cases right with
    | none => cases hevent
    | some target =>
      rw [Event.joining, List.mem_singleton] at hevent
      subst hevent
      rfl

theorem isInferred_of_mem_comparisonEvents {scope : Scope} {left right : Expression}
    {event : Event} (hevent : event ∈ Expression.comparisonEvents scope left right) :
    event.IsInferred := by
  rw [Expression.comparisonEvents, List.mem_append, List.mem_append] at hevent
  rcases hevent with (hleft | hright) | hjoin
  · exact isInferred_of_mem_columnEvents hleft
  · exact isInferred_of_mem_columnEvents hright
  · exact isInferred_of_mem_joining hjoin

theorem isInferred_of_mem_conditionEvents {recurse : Bool} {scope : Scope}
    {condition : Expression} {event : Event} (hevent : event ∈ condition.events recurse scope) :
    event.IsInferred := by
  induction condition with
  | column qualifier name => cases hevent
  | other => cases hevent
  | binary operator left right ihleft ihright =>
    rw [Expression.events] at hevent
    split at hevent
    · split at hevent
      · rcases List.mem_append.mp hevent with hleft | hright
        · exact ihleft hleft
        · exact ihright hright
      · cases hevent
    · exact isInferred_of_mem_comparisonEvents hevent

/-! ## Declarations -/

theorem isPlain_of_mem_foreignKey {table referenced : String} {event : Event}
    (hevent : event ∈ Event.foreignKey table referenced) : event.IsPlain := by
  rw [Event.foreignKey, List.mem_pair] at hevent
  rcases hevent with rfl | rfl
  · trivial
  · rfl

theorem isPlain_of_mem_columnDefinition {table : String} {column : ColumnDefinition}
    {event : Event} (hevent : event ∈ column.events table) : event.IsPlain := by
  rw [ColumnDefinition.events, List.mem_cons, List.mem_flatMap] at hevent
  rcases hevent with rfl | ⟨referenced, _, hkey⟩
  · trivial
  · exact isPlain_of_mem_foreignKey hkey

/-! ## Relations between two readings -/

/-- A relation between the events of two readings, which differ in whether AND and OR are gone
through: it is kept when lists are put behind each other, every plain event stands to itself, and
the readings of every predicate are related. -/
structure Event.Compositional (first second : Bool)
    (relation : List Event → List Event → Prop) : Prop where
  nil : relation [] []
  append : ∀ {before after more moreAfter : List Event}, relation before after →
    relation more moreAfter → relation (before ++ more) (after ++ moreAfter)
  plain : ∀ event : Event, event.IsPlain → relation [event] [event]
  condition : ∀ (scope : Scope) (condition : Expression),
    relation (condition.events first scope) (condition.events second scope)

namespace Event.Compositional

variable {first second : Bool} {relation : List Event → List Event → Prop}
variable (hrelation : Compositional first second relation)

include hrelation

theorem same {events : List Event} (hplain : ∀ event ∈ events, event.IsPlain) :
    relation events events := by
  induction events with
  | nil => exact hrelation.nil
  | cons event rest ih =>
    have hfirst := hrelation.plain event (hplain event List.mem_cons_self)
    have hrest := ih fun other hother => hplain other (List.mem_cons_of_mem _ hother)
    exact hrelation.append hfirst hrest

theorem flatMap {α : Type*} {events others : α → List Event}
    (hrelated : ∀ element, relation (events element) (others element)) (elements : List α) :
    relation (elements.flatMap events) (elements.flatMap others) := by
  induction elements with
  | nil => exact hrelation.nil
  | cons element rest ih =>
    rw [List.flatMap_cons, List.flatMap_cons]
    exact hrelation.append (hrelated element) ih

theorem block (block : Block) : relation (block.events first) (block.events second) := by
  have hcolumns : relation (block.columns.flatMap (Expression.columnEvents block.scope .selected))
      (block.columns.flatMap (Expression.columnEvents block.scope .selected)) := by
    apply hrelation.same
    intro event hevent
    obtain ⟨_, _, hmem⟩ := List.mem_flatMap.mp hevent
    exact (isInferred_of_mem_columnEvents hmem).isPlain
  have hjoins := hrelation.flatMap (hrelation.condition block.scope)
    (block.sources.filterMap FromItem.joinCondition?)
  have hselection := hrelation.flatMap (hrelation.condition block.scope) block.selection.toList
  exact hrelation.append (hrelation.append hcolumns hjoins) hselection

mutual

/-- The two readings of a query are related if those of each predicate are. -/
theorem select (scope : Scope) (query : Select) :
    relation (query.events first scope) (query.events second scope) := by
  match query with
  | ⟨ctes, sources, columns, selection, union⟩ =>
    rw [Select.events, Select.events]
    have hblock := hrelation.append (items (scope.addCtes (ctes.map CommonTable.name)) sources)
      (hrelation.block
        (Block.of (scope.addCtes (ctes.map CommonTable.name)) sources columns selection))
    exact hrelation.append (hrelation.append (commonTables scope ctes) hblock) (branches _ union)

theorem commonTables (scope : Scope) (ctes : List CommonTable) :
    relation (CommonTable.events first scope ctes) (CommonTable.events second scope ctes) := by
  match ctes with
  | [] => exact hrelation.nil
  | ⟨name, query⟩ :: rest =>
    rw [CommonTable.events, CommonTable.events]
    exact hrelation.append (select scope query) (commonTables _ rest)

theorem items (scope : Scope) (sources : List FromItem) :
    relation (FromItem.events first scope sources) (FromItem.events second scope sources) := by
  match sources with
  | [] => exact hrelation.nil
  | item :: rest =>
    rw [FromItem.events, FromItem.events]
    exact hrelation.append (ownItem scope item) (items _ rest)

theorem ownItem (scope : Scope) (item : FromItem) :
    relation (FromItem.ownEvents first scope item) (FromItem.ownEvents second scope item) := by
  match item with
  | ⟨.table name, _, _, _⟩ =>
    rw [FromItem.ownEvents, FromItem.ownEvents]
    split
    · exact hrelation.nil
    · exact hrelation.plain _ trivial
  | ⟨.subquery query, _, _, _⟩ =>
    rw [FromItem.ownEvents, FromItem.ownEvents]
    exact select scope query

theorem branches (scope : Scope) (union : List Select) :
    relation (Select.branchEvents first scope union) (Select.branchEvents second scope union) := by
  match union with
  | [] => exact hrelation.nil
  | branch :: rest =>
    rw [Select.branchEvents, Select.branchEvents]
    exact hrelation.append (select scope branch) (branches scope rest)

end

theorem change (scope : Scope) (sources : List FromItem) (selection : Option Expression) :
    relation (FromItem.changeEvents first scope sources selection)
      (FromItem.changeEvents second scope sources selection) :=
  hrelation.append (hrelation.items scope sources) (hrelation.block _)

end Event.Compositional

/-! ## Statements -/

/-- The table that a statement fills from a query, and the kind of the links to it. -/
def Statement.filled? : Statement → Option (String × RelationshipKind)
  | .insert change =>
    match change.source with
    | .query _ => some (change.table, .insert)
    | _ => none
  | .createTable create => create.query.map (fun _ => (create.table, .insert))
  | .createView create => some (create.view, .viewDependency)
  | _ => none

theorem Statement.isLinking_of_filled? {statement : Statement} {target : String}
    {kind : RelationshipKind} (hfilled : statement.filled? = some (target, kind)) :
    kind.isLinking = true := by
  cases statement with
  | insert change =>
    rw [filled?] at hfilled
    split at hfilled
    · cases hfilled
      rfl
    · cases hfilled
  | createTable create =>
    obtain ⟨_, _, heq⟩ := Option.map_eq_some_iff.mp hfilled
    cases heq
    rfl
  | createView create =>
    cases hfilled
    rfl
  | select _ | update _ | delete _ | alterTable _ | unsupported _ => cases hfilled

/-- The link of the table that a statement fills to what the events before it read. -/
def Statement.linkEvents (statement : Statement) (before : List Event) : List Event :=
  statement.filled?.toList.map (fun filled => .link (Event.reads before) filled.1 filled.2)

/-- What an INSERT writes, behind its common tables. -/
def InsertSource.events (recurse : Bool) (scope : Scope) (table : String) (columns : List String) :
    InsertSource → List Event
  | .values => columns.map (fun column => .column table column .target)
  | .query rows => rows.events recurse scope
  | .defaultValues => []

/-- The events of a statement without the link. -/
def Statement.ownEvents (recurse : Bool) : Statement → List Event
  | .insert change =>
    .table change.table .target :: (CommonTable.events recurse ⟨[], []⟩ change.ctes
      ++ change.source.events recurse (CommonTable.scope change.ctes) change.table change.columns)
  | .createTable create =>
    .table create.table .table :: (create.columns.flatMap (ColumnDefinition.events create.table)
      ++ create.foreignKeys.flatMap (fun key => Event.foreignKey create.table key.references)
      ++ create.query.toList.flatMap (Select.events recurse ⟨[], []⟩))
  | .createView create => .table create.view .view :: create.query.events recurse ⟨[], []⟩
  | statement => statement.events recurse

/-- A table that is declared or written is no read. -/
theorem Event.reads_cons_of_ne {kind : TableKind} (hkind : kind ≠ .source) (name : String)
    (events : List Event) : Event.reads (.table name kind :: events) = Event.reads events := by
  rw [Event.reads_cons]
  cases kind with
  | source => exact absurd rfl hkind
  | table | view | target => rfl

theorem reads_columnDefinition (table : String) (column : ColumnDefinition) :
    Event.reads (column.events table) = [] := by
  rw [ColumnDefinition.events]
  cases column.references <;> rfl

/-- Declared columns and foreign keys are no reads. -/
theorem reads_declarations (create : CreateTable) :
    Event.reads (create.columns.flatMap (ColumnDefinition.events create.table)
      ++ create.foreignKeys.flatMap (fun key => Event.foreignKey create.table key.references)) =
      [] := by
  have hcolumns := reads_flatMap create.columns (reads_columnDefinition create.table)
  have hkey : ∀ key : ForeignKey,
      Event.reads (Event.foreignKey create.table key.references) = [] := fun _ => rfl
  rw [Event.reads_append, hcolumns, reads_flatMap create.foreignKeys hkey, List.append_nil]

theorem Insert.events_eq (recurse : Bool) (change : Insert) :
    (Statement.insert change).events recurse =
      (Statement.insert change).ownEvents recurse
        ++ (Statement.insert change).linkEvents ((Statement.insert change).ownEvents recurse) := by
  rw [Statement.events, Insert.events, Statement.ownEvents, Statement.linkEvents,
    Statement.filled?]
  cases change.source with
  | values => simp [InsertSource.events]
  | query rows =>
    rw [Event.reads_cons_of_ne (by decide)]
    simp [InsertSource.events]
  | defaultValues => simp [InsertSource.events]

theorem CreateTable.events_eq (recurse : Bool) (create : CreateTable) :
    (Statement.createTable create).events recurse =
      (Statement.createTable create).ownEvents recurse
        ++ (Statement.createTable create).linkEvents
          ((Statement.createTable create).ownEvents recurse) := by
  rw [Statement.events, Statement.ownEvents, Statement.linkEvents, Statement.filled?]
  cases create.query with
  | none => simp
  | some query =>
    rw [Event.reads_cons_of_ne (by decide), Event.reads_append, reads_declarations]
    simp [Select.fillEvents]

/-- The link comes last, and its sources are what the events before it read. -/
theorem Statement.events_eq (recurse : Bool) (statement : Statement) :
    statement.events recurse =
      statement.ownEvents recurse ++ statement.linkEvents (statement.ownEvents recurse) := by
  cases statement with
  | insert change => exact change.events_eq recurse
  | createTable create => exact create.events_eq recurse
  | createView create =>
    rw [linkEvents, ownEvents, Event.reads_cons_of_ne (by decide)]
    rfl
  | select _ | update _ | delete _ | alterTable _ | unsupported _ =>
    exact (List.append_nil _).symm

namespace Event.Compositional

variable {first second : Bool} {relation : List Event → List Event → Prop}
variable (hrelation : Compositional first second relation)

include hrelation

theorem columns (table : String) (names : List String) (role : ColumnRole) :
    relation (names.map fun name => .column table name role)
      (names.map fun name => .column table name role) := by
  apply hrelation.same
  intro event hevent
  obtain ⟨_, _, rfl⟩ := List.mem_map.mp hevent
  trivial

theorem insertSource (scope : Scope) (table : String) (columns : List String)
    (source : InsertSource) :
    relation (source.events first scope table columns)
      (source.events second scope table columns) := by
  cases source with
  | values => exact hrelation.columns table columns .target
  | query rows => exact hrelation.select scope rows
  | defaultValues => exact hrelation.nil

theorem declarations (create : CreateTable) :
    relation
      (create.columns.flatMap (ColumnDefinition.events create.table)
        ++ create.foreignKeys.flatMap (fun key => Event.foreignKey create.table key.references))
      (create.columns.flatMap (ColumnDefinition.events create.table)
        ++ create.foreignKeys.flatMap
          (fun key => Event.foreignKey create.table key.references)) := by
  apply hrelation.same
  intro event hevent
  rcases List.mem_append.mp hevent with hcolumn | hkey
  · obtain ⟨_, _, hmem⟩ := List.mem_flatMap.mp hcolumn
    exact isPlain_of_mem_columnDefinition hmem
  · obtain ⟨_, _, hmem⟩ := List.mem_flatMap.mp hkey
    exact isPlain_of_mem_foreignKey hmem

/-- The two readings of a statement are related, up to the link. -/
theorem statement (statement : Statement) :
    relation (statement.ownEvents first) (statement.ownEvents second) := by
  have htable : ∀ name kind, relation [.table name kind] [.table name kind] :=
    fun name kind => hrelation.plain _ trivial
  cases statement with
  | select query => exact hrelation.select ⟨[], []⟩ query
  | insert change =>
    exact hrelation.append (htable change.table .target)
      (hrelation.append (hrelation.commonTables _ change.ctes)
        (hrelation.insertSource _ change.table change.columns change.source))
  | update change =>
    exact hrelation.append (htable change.table.name .target)
      (hrelation.append
        (hrelation.append (hrelation.commonTables _ change.ctes)
          (hrelation.columns change.table.name change.assignments .target))
        (hrelation.change _ change.sources change.selection))
  | delete change =>
    exact hrelation.append (htable change.table.name .target)
      (hrelation.append (hrelation.commonTables _ change.ctes)
        (hrelation.change _ change.sources change.selection))
  | createTable create =>
    exact hrelation.append (htable create.table .table)
      (hrelation.append (hrelation.declarations create)
        (hrelation.flatMap (hrelation.select ⟨[], []⟩) create.query.toList))
  | createView create =>
    exact hrelation.append (htable create.view .view) (hrelation.select ⟨[], []⟩ create.query)
  | alterTable table => exact htable table.name .table
  | unsupported kind => exact hrelation.nil

end Event.Compositional

/-- Whatever a statement does besides linking is done by plain events. -/
theorem isPlain_of_mem_ownEvents {recurse : Bool} {statement : Statement} {event : Event}
    (hevent : event ∈ statement.ownEvents recurse) : event.IsPlain := by
  have hrelation : Event.Compositional recurse recurse
      (fun events _ => ∀ event ∈ events, event.IsPlain) :=
    { nil := by simp
      append := fun hbefore hmore => List.forall_mem_append.mpr ⟨hbefore, hmore⟩
      plain := fun event hplain => List.forall_mem_singleton.mpr hplain
      condition := fun _ _ _ hmem => (isInferred_of_mem_conditionEvents hmem).isPlain }
  exact hrelation.statement statement event hevent

end SqlLineage
