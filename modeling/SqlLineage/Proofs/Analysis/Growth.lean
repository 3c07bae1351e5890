import SqlLineage.Analysis
import SqlLineage.Proofs.Registry.Steps

/-!
# Analysis grows the registry

Whatever a statement is, reading it only adds to the registry: no handler touches what is there.
The tables that a query answers as read are registered by the time it is done, which is what makes
the endpoints of every relationship known when it is recorded.
-/

namespace SqlLineage

open Registry

/-- A registry after a query was read: it grew, and the tables that were read are registered. -/
structure Reading (before after : Registry) (reads : List String) : Prop where
  grows : Grows before after
  registered : ∀ name ∈ reads, name ∈ after.names

theorem Reading.nil {before after : Registry} (hgrows : Grows before after) :
    Reading before after [] :=
  ⟨hgrows, by simp⟩

/-- Two queries one after the other. -/
theorem Reading.append {before between after : Registry} {first second : List String}
    (hfirst : Reading before between first) (hsecond : Reading between after second) :
    Reading before after (first ++ second) := by
  refine ⟨hfirst.grows.trans hsecond.grows, fun name hname => ?_⟩
  rcases List.mem_append.mp hname with hname | hname
  · exact hsecond.grows.names_subset (hfirst.registered name hname)
  · exact hsecond.registered name hname

/-- What is recorded behind a query leaves its tables registered. -/
theorem Reading.followed {before between after : Registry} {reads : List String}
    (hreading : Reading before between reads) (hgrows : Grows between after) :
    Reading before after reads := by
  simpa using hreading.append (.nil hgrows)

theorem Reading.known {before after : Registry} {reads : List String} {name : String}
    (hreading : Reading before after reads) (hname : name ∈ reads) : after.Known name :=
  Or.inr (hreading.registered name hname)

/-! ## Predicates and projections -/

theorem registerOperand_grows (scope : Scope) (registry : Registry) (operand : Expression) :
    Grows registry (registerOperand scope registry operand).1 := by
  cases operand with
  | column qualifier name => exact ensureColumn_grows _ _ _ _
  | binary operator left right => exact .refl
  | other => exact .refl

/-- The owner of an operand is registered, unless it is unknown. -/
theorem known_of_registerOperand {scope : Scope} {registry : Registry} {operand : Expression}
    {owner : String} (howner : (registerOperand scope registry operand).2 = some owner) :
    (registerOperand scope registry operand).1.Known owner := by
  cases operand with
  | column qualifier name =>
    obtain rfl : scope.resolve qualifier = owner := Option.some.inj howner
    by_cases hunknown : scope.resolve qualifier = unknownTable
    · exact Or.inl hunknown
    · exact Or.inr (mem_names_ensureColumn.mpr (Or.inl ⟨rfl, hunknown⟩))
  | binary operator left right => cases howner
  | other => cases howner

theorem inferFromComparison_grows (scope : Scope) (left right : Expression)
    (registry : Registry) : Grows registry (inferFromComparison scope left right registry) := by
  rcases hleft : registerOperand scope registry left with ⟨afterLeft, leftOwner⟩
  rcases hright : registerOperand scope afterLeft right with ⟨afterRight, rightOwner⟩
  have hgrowsLeft : Grows registry afterLeft := by
    simpa [hleft] using registerOperand_grows scope registry left
  have hgrowsRight : Grows afterLeft afterRight := by
    simpa [hright] using registerOperand_grows scope afterLeft right
  simp only [inferFromComparison, hleft, hright]
  split
  · rename_i source target
    have hsource : afterLeft.Known source := by
      simpa [hleft] using known_of_registerOperand (congrArg Prod.snd hleft)
    have htarget : afterRight.Known target := by
      simpa [hright] using known_of_registerOperand (congrArg Prod.snd hright)
    exact (hgrowsLeft.trans hgrowsRight).trans
      (addRelationship_grows .join (hsource.mono hgrowsRight) htarget)
  · exact hgrowsLeft.trans hgrowsRight

theorem inferFromCondition_grows (recurse : Bool) (scope : Scope) (condition : Expression)
    (registry : Registry) :
    Grows registry (inferFromCondition recurse scope condition registry) := by
  induction condition generalizing registry with
  | column qualifier name => exact .refl
  | other => exact .refl
  | binary operator left right ihleft ihright =>
    rw [inferFromCondition]
    split
    · split
      · exact (ihleft registry).trans (ihright _)
      · exact .refl
    · exact inferFromComparison_grows scope left right registry

theorem inferFromSelection_grows (recurse : Bool) (scope : Scope)
    (selection : Option Expression) (registry : Registry) :
    Grows registry (inferFromSelection recurse scope selection registry) := by
  cases selection with
  | none => exact .refl
  | some condition => exact inferFromCondition_grows recurse scope condition registry

theorem inferFromJoins_grows (recurse : Bool) (scope : Scope) (sources : List FromItem)
    (registry : Registry) : Grows registry (inferFromJoins recurse scope sources registry) := by
  apply foldl_grows
  intro registry item _
  split
  · exact inferFromSelection_grows recurse scope item.condition registry
  · exact .refl

theorem registerProjection_grows (scope : Scope) (columns : List Expression)
    (registry : Registry) : Grows registry (registerProjection scope columns registry) := by
  apply foldl_grows
  intro registry expression _
  split
  · exact ensureColumn_grows _ _ _ _
  · exact .refl

/-! ## Queries -/

mutual

theorem analyzeSelect_reading (recurse : Bool) (query : Select) (scope : Scope)
    (registry : Registry) :
    Reading registry (analyzeSelect recurse query scope registry).1
      (analyzeSelect recurse query scope registry).2 := by
  match query with
  | ⟨ctes, sources, columns, selection, union⟩ =>
    rw [analyzeSelect]
    have hctes := analyzeCtes_reading recurse ctes scope registry
    refine (hctes.append ?_).append (analyzeBranches_reading recurse union _ _)
    refine (analyzeSources_reading recurse sources _ _).followed ?_
    exact ((registerProjection_grows _ _ _).trans (inferFromJoins_grows _ _ _ _)).trans
      (inferFromSelection_grows _ _ _ _)

theorem analyzeCtes_reading (recurse : Bool) (ctes : List CommonTable) (scope : Scope)
    (registry : Registry) :
    Reading registry (analyzeCtes recurse ctes scope registry).2.1
      (analyzeCtes recurse ctes scope registry).2.2 := by
  match ctes with
  | [] =>
    rw [analyzeCtes]
    exact .nil .refl
  | ⟨name, query⟩ :: rest =>
    rw [analyzeCtes]
    exact (analyzeSelect_reading recurse query scope registry).append
      (analyzeCtes_reading recurse rest _ _)

theorem analyzeSources_reading (recurse : Bool) (sources : List FromItem) (scope : Scope)
    (registry : Registry) :
    Reading registry (analyzeSources recurse sources scope registry).2.1
      (analyzeSources recurse sources scope registry).2.2 := by
  match sources with
  | [] =>
    rw [analyzeSources]
    exact .nil .refl
  | item :: rest =>
    rw [analyzeSources]
    exact (analyzeSource_reading recurse item scope registry).append
      (analyzeSources_reading recurse rest _ _)

theorem analyzeSource_reading (recurse : Bool) (item : FromItem) (scope : Scope)
    (registry : Registry) :
    Reading registry (analyzeSource recurse item scope registry).2.1
      (analyzeSource recurse item scope registry).2.2 := by
  match item with
  | ⟨.table name, aliasName, join, condition⟩ =>
    rw [analyzeSource]
    split
    · exact .nil .refl
    · exact ⟨ensureTable_grows registry name .source, by simp⟩
  | ⟨.subquery query, some aliasName, join, condition⟩ =>
    rw [analyzeSource]
    exact analyzeSelect_reading recurse query scope registry
  | ⟨.subquery query, none, join, condition⟩ =>
    rw [analyzeSource]
    exact analyzeSelect_reading recurse query scope registry

theorem analyzeBranches_reading (recurse : Bool) (branches : List Select) (scope : Scope)
    (registry : Registry) :
    Reading registry (analyzeBranches recurse branches scope registry).1
      (analyzeBranches recurse branches scope registry).2 := by
  match branches with
  | [] =>
    rw [analyzeBranches]
    exact .nil .refl
  | branch :: rest =>
    rw [analyzeBranches]
    exact (analyzeSelect_reading recurse branch scope registry).append
      (analyzeBranches_reading recurse rest scope _)

end

theorem mem_firstOccurrences {names : List String} {name : String} :
    name ∈ firstOccurrences names ↔ name ∈ names := by
  have hfold : ∀ (kept : List String),
      name ∈ names.foldl (fun kept name =>
        if kept.contains name then kept else kept ++ [name]) kept ↔
        name ∈ kept ∨ name ∈ names := by
    induction names with
    | nil => simp
    | cons first rest ih =>
      intro kept
      rw [List.foldl_cons, ih, List.mem_cons, ← or_assoc]
      apply or_congr_left
      split
      · rename_i hkept
        have hfirst : first ∈ kept := by simpa using hkept
        exact ⟨Or.inl, fun h => h.elim id (fun heq => heq ▸ hfirst)⟩
      · simp
  simpa [firstOccurrences] using hfold []

/-! ## Statements -/

/-- A target that is registered is linked to tables that are. -/
theorem linkSources_grows (options : Options) {before registry : Registry}
    {reads : List String} {target : String} (kind : RelationshipKind)
    (hreading : Reading before registry reads) (htarget : target ∈ registry.names) :
    Grows registry (linkSources options reads target kind registry) := by
  apply addRelationships_grows kind ?_ (Or.inr htarget)
  intro source hsource
  cases hlinking : options.sourceLinking with
  | allKnownSources =>
    rw [hlinking] at hsource
    exact Or.inr (mem_names_of_mem_namesOfKind hsource)
  | statementSources =>
    rw [hlinking] at hsource
    exact hreading.known (mem_firstOccurrences.mp hsource)

theorem analyzeInsert_grows (options : Options) (insert : Insert) (registry : Registry) :
    Grows registry (analyzeInsert options insert registry) := by
  have htable := ensureTable_grows registry insert.table .target
  have hctes := analyzeCtes_reading options.recurseConditions insert.ctes ⟨[], []⟩
    (registry.ensureTable insert.table .target)
  rcases heq : analyzeCtes options.recurseConditions insert.ctes ⟨[], []⟩
    (registry.ensureTable insert.table .target) with ⟨scope, afterCtes, cteReads⟩
  rw [heq] at hctes
  cases hsource : insert.source with
  | values =>
    simp only [analyzeInsert, heq, hsource]
    refine (htable.trans hctes.grows).trans (foldl_grows ?_ _)
    intro registry column _
    exact ensureColumn_grows registry insert.table column .target
  | query query =>
    have hreading := hctes.append
      (analyzeSelect_reading options.recurseConditions query scope afterCtes)
    simp only [analyzeInsert, heq, hsource]
    refine (htable.trans hreading.grows).trans (linkSources_grows options .insert hreading ?_)
    exact hreading.grows.names_subset (by simp)
  | defaultValues =>
    simp only [analyzeInsert, heq, hsource]
    exact htable.trans hctes.grows

theorem analyzeRelations_grows (options : Options) (sources : List FromItem)
    (selection : Option Expression) (scope : Scope) (registry : Registry) :
    Grows registry (analyzeRelations options sources selection scope registry) := by
  rw [analyzeRelations]
  exact ((analyzeSources_reading _ sources scope registry).grows.trans
    (inferFromJoins_grows _ _ _ _)).trans (inferFromSelection_grows _ _ _ _)

theorem analyzeUpdate_grows (options : Options) (update : Update) (registry : Registry) :
    Grows registry (analyzeUpdate options update registry) := by
  rw [analyzeUpdate]
  refine ((ensureTable_grows registry update.table.name .target).trans
    (analyzeCtes_reading _ _ _ _).grows).trans (.trans (foldl_grows ?_ _)
      (analyzeRelations_grows _ _ _ _ _))
  intro registry column _
  exact ensureColumn_grows registry update.table.name column .target

theorem analyzeDelete_grows (options : Options) (delete : Delete) (registry : Registry) :
    Grows registry (analyzeDelete options delete registry) := by
  rw [analyzeDelete]
  exact ((ensureTable_grows registry delete.table.name .target).trans
    (analyzeCtes_reading _ _ _ _).grows).trans (analyzeRelations_grows _ _ _ _ _)

theorem addForeignKey_grows {table : String} (referenced : String) {registry : Registry}
    (htable : table ∈ registry.names) :
    Grows registry (addForeignKey table referenced registry) := by
  refine (ensureTable_grows registry referenced .table).trans
    (addRelationship_grows .foreignKey (Or.inr ?_) (Or.inr ?_)) <;> simp [htable]

theorem declareColumn_grows {table : String} (column : ColumnDefinition) {registry : Registry}
    (htable : table ∈ registry.names) :
    Grows registry (declareColumn table registry column) := by
  have hcolumn := ensureColumn_grows registry table column.name .column
  rw [declareColumn]
  split
  · exact hcolumn.trans (addForeignKey_grows _ (hcolumn.names_subset htable))
  · exact hcolumn

/-- Going through a list while a table is registered. -/
theorem foldl_grows_of_mem_names {α : Type*} {record : Registry → α → Registry}
    {table : String}
    (hrecord : ∀ registry, table ∈ registry.names →
      ∀ element, Grows registry (record registry element))
    (elements : List α) {registry : Registry} (htable : table ∈ registry.names) :
    Grows registry (elements.foldl record registry) := by
  induction elements generalizing registry with
  | nil => exact .refl
  | cons element rest ih =>
    have hfirst := hrecord registry htable element
    exact hfirst.trans (ih (hfirst.names_subset htable))

theorem analyzeCreateTable_grows (options : Options) (create : CreateTable)
    (registry : Registry) : Grows registry (analyzeCreateTable options create registry) := by
  have htable := ensureTable_grows registry create.table .table
  have hcolumns := foldl_grows_of_mem_names
    (fun _ hregistered column => declareColumn_grows column hregistered) create.columns
    (mem_names_ensureTable.mpr (Or.inl rfl) :
      create.table ∈ (registry.ensureTable create.table .table).names)
  have hdeclared := hcolumns.names_subset (mem_names_ensureTable.mpr (Or.inl rfl))
  have hkeys := foldl_grows_of_mem_names
    (fun _ hregistered (key : ForeignKey) => addForeignKey_grows key.references hregistered)
    create.foreignKeys hdeclared
  rw [analyzeCreateTable]
  split
  · exact (htable.trans hcolumns).trans hkeys
  · rename_i query _
    have hreading := analyzeSelect_reading options.recurseConditions query ⟨[], []⟩
      (create.foreignKeys.foldl
        (fun registry key => addForeignKey create.table key.references registry)
        (create.columns.foldl (declareColumn create.table)
          (registry.ensureTable create.table .table)))
    refine (((htable.trans hcolumns).trans hkeys).trans hreading.grows).trans
      (linkSources_grows options .insert hreading ?_)
    exact hreading.grows.names_subset (hkeys.names_subset hdeclared)

theorem analyzeCreateView_grows (options : Options) (create : CreateView)
    (registry : Registry) : Grows registry (analyzeCreateView options create registry) := by
  have hreading := analyzeSelect_reading options.recurseConditions create.query ⟨[], []⟩
    (registry.ensureTable create.view .view)
  rw [analyzeCreateView]
  refine ((ensureTable_grows registry create.view .view).trans hreading.grows).trans
    (linkSources_grows options .viewDependency hreading ?_)
  exact hreading.grows.names_subset (by simp)

theorem analyzeStatement_grows (options : Options) (statement : Statement)
    (registry : Registry) : Grows registry (analyzeStatement options statement registry) := by
  cases statement with
  | select query => exact (analyzeSelect_reading _ _ _ _).grows
  | insert insert => exact analyzeInsert_grows options insert registry
  | update update => exact analyzeUpdate_grows options update registry
  | delete delete => exact analyzeDelete_grows options delete registry
  | createTable create => exact analyzeCreateTable_grows options create registry
  | createView create => exact analyzeCreateView_grows options create registry
  | alterTable table => exact ensureTable_grows registry table.name .table
  | unsupported kind => exact .refl

/-- A whole run is made of steps. -/
theorem analyzeAll_grows (options : Options) (statements : List SourcedStatement)
    (registry : Registry) : Grows registry (analyzeAll options statements registry) := by
  apply foldl_grows
  intro registry input _
  exact analyzeStatement_grows options input.statement registry

end SqlLineage
