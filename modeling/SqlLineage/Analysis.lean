import SqlLineage.Request.Basic
import SqlLineage.Scope
import SqlLineage.Statement.Basic

/-!
# Analysis of statements

Each statement is read against the registry of the run.  A query registers what its common tables,
its relations, its projection, its predicates and its further branches mention, in that order, and
answers the tables it read; a statement that writes links those tables to its target.
-/

namespace SqlLineage

/-- Records a column operand of a comparison; its owner is the answer. -/
def registerOperand (scope : Scope) (registry : Registry) :
    Expression → Registry × Option String
  | .column qualifier name =>
    let owner := scope.resolve qualifier
    (registry.ensureColumn owner name .condition, some owner)
  | _ => (registry, none)

/-- Reads a comparison: both operands are recorded, and columns of two different tables join
them. -/
def inferFromComparison (scope : Scope) (left right : Expression) (registry : Registry) :
    Registry :=
  let (registry, leftOwner) := registerOperand scope registry left
  let (registry, rightOwner) := registerOperand scope registry right
  match leftOwner, rightOwner with
  | some leftOwner, some rightOwner => registry.addRelationship leftOwner rightOwner .join
  | _, _ => registry

/-- Reads a predicate.  AND and OR are gone through only if the options ask for it. -/
def inferFromCondition (recurse : Bool) (scope : Scope) : Expression → Registry → Registry
  | .binary operator left right, registry =>
    if operator.isLogical then
      if recurse then
        inferFromCondition recurse scope right (inferFromCondition recurse scope left registry)
      else registry
    else inferFromComparison scope left right registry
  | _, registry => registry

/-- Reads the predicate of a block, if it has one. -/
def inferFromSelection (recurse : Bool) (scope : Scope) (selection : Option Expression)
    (registry : Registry) : Registry :=
  match selection with
  | some condition => inferFromCondition recurse scope condition registry
  | none => registry

/-- Reads the join conditions of a list of relations. -/
def inferFromJoins (recurse : Bool) (scope : Scope) (sources : List FromItem)
    (registry : Registry) : Registry :=
  sources.foldl
    (fun registry item =>
      if item.join then inferFromSelection recurse scope item.condition registry else registry)
    registry

/-- Records the columns that a projection names. -/
def registerProjection (scope : Scope) (columns : List Expression) (registry : Registry) :
    Registry :=
  columns.foldl
    (fun registry expression =>
      match expression with
      | .column qualifier name =>
        registry.ensureColumn (scope.resolve qualifier) name .selected
      | _ => registry)
    registry

mutual

/-- Reads a query under the scope around it; answers the tables read, in order. -/
def analyzeSelect (recurse : Bool) : Select → Scope → Registry → Registry × List String
  | ⟨ctes, sources, columns, selection, union⟩, scope, registry =>
    let (outer, registry, cteReads) := analyzeCtes recurse ctes scope registry
    let (inner, registry, sourceReads) := analyzeSources recurse sources outer registry
    let registry := registerProjection inner columns registry
    let registry := inferFromJoins recurse inner sources registry
    let registry := inferFromSelection recurse inner selection registry
    let (registry, branchReads) := analyzeBranches recurse union outer registry
    (registry, cteReads ++ sourceReads ++ branchReads)

/-- Reads common tables in order; each is in view for those after it. -/
def analyzeCtes (recurse : Bool) :
    List CommonTable → Scope → Registry → Scope × Registry × List String
  | [], scope, registry => (scope, registry, [])
  | ⟨name, query⟩ :: rest, scope, registry =>
    let (registry, reads) := analyzeSelect recurse query scope registry
    let (scope, registry, more) := analyzeCtes recurse rest (scope.addCte name) registry
    (scope, registry, reads ++ more)

/-- Registers relations as sources and binds their names. -/
def analyzeSources (recurse : Bool) :
    List FromItem → Scope → Registry → Scope × Registry × List String
  | [], scope, registry => (scope, registry, [])
  | item :: rest, scope, registry =>
    let (scope, registry, reads) := analyzeSource recurse item scope registry
    let (scope, registry, more) := analyzeSources recurse rest scope registry
    (scope, registry, reads ++ more)

/-- Registers one relation. -/
def analyzeSource (recurse : Bool) :
    FromItem → Scope → Registry → Scope × Registry × List String
  | ⟨.table name, aliasName, _, _⟩, scope, registry =>
    if scope.isCte name then (scope.bindDerived (aliasName.getD name), registry, [])
    else (scope.bindTable name aliasName, registry.ensureTable name .source, [name])
  | ⟨.subquery query, aliasName, _, _⟩, scope, registry =>
    let (registry, reads) := analyzeSelect recurse query scope registry
    match aliasName with
    | some aliasName => (scope.bindDerived aliasName, registry, reads)
    | none => (scope, registry, reads)

/-- Reads the branches of a set operation, each under the same scope. -/
def analyzeBranches (recurse : Bool) :
    List Select → Scope → Registry → Registry × List String
  | [], _, registry => (registry, [])
  | branch :: rest, scope, registry =>
    let (registry, reads) := analyzeSelect recurse branch scope registry
    let (registry, more) := analyzeBranches recurse rest scope registry
    (registry, reads ++ more)

end

/-- Keeps the first occurrence of each name. -/
def firstOccurrences (names : List String) : List String :=
  names.foldl (fun kept name => if kept.contains name then kept else kept ++ [name]) []

/-- The tables that a target is linked to. -/
def linkedSources (linking : SourceLinking) (reads : List String) (registry : Registry) :
    List String :=
  match linking with
  | .allKnownSources => registry.namesOfKind .source
  | .statementSources => firstOccurrences reads

/-- Links a target to the tables it is filled from. -/
def linkSources (options : Options) (reads : List String) (target : String)
    (kind : RelationshipKind) (registry : Registry) : Registry :=
  registry.addRelationships (linkedSources options.sourceLinking reads registry) target kind

/-- Reads an INSERT. -/
def analyzeInsert (options : Options) (insert : Insert) (registry : Registry) : Registry :=
  let registry := registry.ensureTable insert.table .target
  let (scope, registry, cteReads) :=
    analyzeCtes options.recurseConditions insert.ctes ⟨[], []⟩ registry
  match insert.source with
  | .values =>
    insert.columns.foldl
      (fun registry column => registry.ensureColumn insert.table column .target) registry
  | .query query =>
    let (registry, reads) := analyzeSelect options.recurseConditions query scope registry
    linkSources options (cteReads ++ reads) insert.table .insert registry
  | .defaultValues => registry

/-- Reads what an UPDATE or a DELETE has besides its target: the relations and the predicate. -/
def analyzeRelations (options : Options) (sources : List FromItem)
    (selection : Option Expression) (scope : Scope) (registry : Registry) : Registry :=
  let (scope, registry, _) := analyzeSources options.recurseConditions sources scope registry
  let registry := inferFromJoins options.recurseConditions scope sources registry
  inferFromSelection options.recurseConditions scope selection registry

/-- Reads an UPDATE. -/
def analyzeUpdate (options : Options) (update : Update) (registry : Registry) : Registry :=
  let registry := registry.ensureTable update.table.name .target
  let (scope, registry, _) :=
    analyzeCtes options.recurseConditions update.ctes ⟨[], []⟩ registry
  let scope := scope.bindTable update.table.name update.table.aliasName
  let registry := update.assignments.foldl
    (fun registry column => registry.ensureColumn update.table.name column .target) registry
  analyzeRelations options update.sources update.selection scope registry

/-- Reads a DELETE. -/
def analyzeDelete (options : Options) (delete : Delete) (registry : Registry) : Registry :=
  let registry := registry.ensureTable delete.table.name .target
  let (scope, registry, _) :=
    analyzeCtes options.recurseConditions delete.ctes ⟨[], []⟩ registry
  let scope := scope.bindTable delete.table.name delete.table.aliasName
  analyzeRelations options delete.sources delete.selection scope registry

/-- Records a foreign key. -/
def addForeignKey (table referenced : String) (registry : Registry) : Registry :=
  (registry.ensureTable referenced .table).addRelationship table referenced .foreignKey

/-- Records a declared column and the foreign key that comes with it. -/
def declareColumn (table : String) (registry : Registry) (column : ColumnDefinition) : Registry :=
  let registry := registry.ensureColumn table column.name .column
  match column.references with
  | some referenced => addForeignKey table referenced registry
  | none => registry

/-- Reads a CREATE TABLE. -/
def analyzeCreateTable (options : Options) (create : CreateTable) (registry : Registry) :
    Registry :=
  let registry := registry.ensureTable create.table .table
  let registry := create.columns.foldl (declareColumn create.table) registry
  let registry := create.foreignKeys.foldl
    (fun registry key => addForeignKey create.table key.references registry) registry
  match create.query with
  | none => registry
  | some query =>
    let (registry, reads) := analyzeSelect options.recurseConditions query ⟨[], []⟩ registry
    linkSources options reads create.table .insert registry

/-- Reads a CREATE VIEW. -/
def analyzeCreateView (options : Options) (create : CreateView) (registry : Registry) :
    Registry :=
  let registry := registry.ensureTable create.view .view
  let (registry, reads) :=
    analyzeSelect options.recurseConditions create.query ⟨[], []⟩ registry
  linkSources options reads create.view .viewDependency registry

/-- Reads a statement; an unsupported one changes nothing. -/
def analyzeStatement (options : Options) (statement : Statement) (registry : Registry) :
    Registry :=
  match statement with
  | .select query => (analyzeSelect options.recurseConditions query ⟨[], []⟩ registry).1
  | .insert insert => analyzeInsert options insert registry
  | .update update => analyzeUpdate options update registry
  | .delete delete => analyzeDelete options delete registry
  | .createTable create => analyzeCreateTable options create registry
  | .createView create => analyzeCreateView options create registry
  | .alterTable table => registry.ensureTable table.name .table
  | .unsupported _ => registry

/-- The warning for a statement without lineage. -/
def unsupportedIssue (kind : String) (index : Nat) (sourceName : Option String) : Issue :=
  { severity := .warning
    code := "UNSUPPORTED_STATEMENT"
    message := s!"{kind} statement has no lineage semantics and was skipped"
    statementIndex := some index
    sourceName := sourceName }

/-- A statement with the name of the source it came from. -/
structure SourcedStatement where
  statement : Statement
  sourceName : Option String := none

/-- The issues of statements whose first one has that index. -/
def issuesFrom : Nat → List SourcedStatement → List Issue
  | _, [] => []
  | index, ⟨.unsupported kind, sourceName⟩ :: rest =>
    unsupportedIssue kind index sourceName :: issuesFrom (index + 1) rest
  | index, _ :: rest => issuesFrom (index + 1) rest

/-- The registry after reading statements in order. -/
def analyzeAll (options : Options) (statements : List SourcedStatement) (registry : Registry) :
    Registry :=
  statements.foldl
    (fun registry input => analyzeStatement options input.statement registry) registry

end SqlLineage
