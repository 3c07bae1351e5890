import Mathlib.Data.List.Basic
import SqlLineage.Analysis
import SqlLineage.Proofs.Registry.Steps

/-!
# The blocks of a query

A query is analysed block by block: those of its common tables, those of the queries among its
relations, its own, and those of its further branches.  This file lists them, each with the scope
that its columns are resolved in, and proves that a query reads and registers exactly what its
blocks do.
-/

namespace SqlLineage

open Registry

/-! ## Scopes without a registry -/

namespace Scope

/-- The scope behind a relation. -/
def bindItem (scope : Scope) : FromItem → Scope
  | ⟨.table name, aliasName, _, _⟩ =>
    if scope.isCte name then scope.bindDerived (aliasName.getD name)
    else scope.bindTable name aliasName
  | ⟨.subquery _, some aliasName, _, _⟩ => scope.bindDerived aliasName
  | ⟨.subquery _, none, _, _⟩ => scope

/-- The scope behind relations. -/
def bindItems (scope : Scope) (items : List FromItem) : Scope :=
  items.foldl bindItem scope

/-- The scope behind common tables of those names. -/
def addCtes (scope : Scope) (names : List String) : Scope :=
  names.foldl addCte scope

@[simp]
theorem bindItems_nil (scope : Scope) : scope.bindItems [] = scope := rfl

@[simp]
theorem bindItems_cons (scope : Scope) (item : FromItem) (rest : List FromItem) :
    scope.bindItems (item :: rest) = (scope.bindItem item).bindItems rest := rfl

theorem bindItems_append (scope : Scope) (first second : List FromItem) :
    scope.bindItems (first ++ second) = (scope.bindItems first).bindItems second :=
  List.foldl_append

@[simp]
theorem addCtes_nil (scope : Scope) : scope.addCtes [] = scope := rfl

@[simp]
theorem addCtes_cons (scope : Scope) (name : String) (rest : List String) :
    scope.addCtes (name :: rest) = (scope.addCte name).addCtes rest := rfl

@[simp]
theorem ctes_bindTable (scope : Scope) (name : String) (aliasName : Option String) :
    (scope.bindTable name aliasName).ctes = scope.ctes := by
  cases aliasName with
  | some aliasName => rfl
  | none =>
    rw [bindTable]
    split <;> rfl

@[simp]
theorem ctes_bindItem (scope : Scope) (item : FromItem) :
    (scope.bindItem item).ctes = scope.ctes := by
  match item with
  | ⟨.table name, aliasName, _, _⟩ =>
    rw [bindItem]
    split
    · rfl
    · exact ctes_bindTable scope name aliasName
  | ⟨.subquery _, some aliasName, _, _⟩ => rfl
  | ⟨.subquery _, none, _, _⟩ => rfl

@[simp]
theorem ctes_bindItems (scope : Scope) (items : List FromItem) :
    (scope.bindItems items).ctes = scope.ctes := by
  induction items generalizing scope with
  | nil => rfl
  | cons item rest ih => rw [bindItems_cons, ih, ctes_bindItem]

@[simp]
theorem mem_ctes_addCtes {scope : Scope} {names : List String} {name : String} :
    name ∈ (scope.addCtes names).ctes ↔ name ∈ names ∨ name ∈ scope.ctes := by
  induction names generalizing scope with
  | nil => simp
  | cons first rest ih =>
    rw [addCtes_cons, ih]
    simp [addCte, or_left_comm, or_assoc]

@[simp]
theorem bindings_addCtes (scope : Scope) (names : List String) :
    (scope.addCtes names).bindings = scope.bindings := by
  induction names generalizing scope with
  | nil => rfl
  | cons first rest ih => rw [addCtes_cons, ih, addCte]

theorem isCte_iff {scope : Scope} {name : String} :
    scope.isCte name = true ↔ name ∈ scope.ctes := by
  simp [isCte]

end Scope

/-! ## Blocks -/

/-- A query block as the analysis meets it: what it lists, and the scope behind its relations. -/
structure Block where
  scope : Scope
  sources : List FromItem
  columns : List Expression
  selection : Option Expression

/-- The block of relations and what is read of them, under the scope before the relations. -/
def Block.of (scope : Scope) (sources : List FromItem) (columns : List Expression)
    (selection : Option Expression) : Block :=
  ⟨scope.bindItems sources, sources, columns, selection⟩

mutual

/-- The blocks of a query, in the order in which they are done. -/
def Select.blocks (scope : Scope) : Select → List Block
  | ⟨ctes, sources, columns, selection, union⟩ =>
    let outer := scope.addCtes (ctes.map CommonTable.name)
    CommonTable.blocks scope ctes
      ++ (FromItem.blocks outer sources ++ [Block.of outer sources columns selection])
      ++ Select.branchBlocks outer union

/-- The blocks of common tables. -/
def CommonTable.blocks (scope : Scope) : List CommonTable → List Block
  | [] => []
  | ⟨name, query⟩ :: rest =>
    Select.blocks scope query ++ CommonTable.blocks (scope.addCte name) rest

/-- The blocks of the queries among relations. -/
def FromItem.blocks (scope : Scope) : List FromItem → List Block
  | [] => []
  | item :: rest => FromItem.ownBlocks scope item ++ FromItem.blocks (scope.bindItem item) rest

/-- The blocks of a relation that is a query. -/
def FromItem.ownBlocks (scope : Scope) : FromItem → List Block
  | ⟨.table _, _, _, _⟩ => []
  | ⟨.subquery query, _, _, _⟩ => Select.blocks scope query

/-- The blocks of the branches of a set operation. -/
def Select.branchBlocks (scope : Scope) : List Select → List Block
  | [] => []
  | branch :: rest => Select.blocks scope branch ++ Select.branchBlocks scope rest

end

theorem FromItem.blocks_append (scope : Scope) (first second : List FromItem) :
    FromItem.blocks scope (first ++ second) =
      FromItem.blocks scope first ++ FromItem.blocks (scope.bindItems first) second := by
  induction first generalizing scope with
  | nil => simp [FromItem.blocks]
  | cons item rest ih => simp [FromItem.blocks, ih, List.append_assoc]

theorem Select.branchBlocks_append (scope : Scope) (first second : List Select) :
    Select.branchBlocks scope (first ++ second) =
      Select.branchBlocks scope first ++ Select.branchBlocks scope second := by
  induction first with
  | nil => simp [Select.branchBlocks]
  | cons branch rest ih => simp [Select.branchBlocks, ih, List.append_assoc]

/-! ## What a block reads and looks at -/

/-- The table that a relation names, unless that is a common table. -/
def FromItem.read? (scope : Scope) : FromItem → Option String
  | ⟨.table name, _, _, _⟩ => if scope.isCte name then none else some name
  | ⟨.subquery _, _, _, _⟩ => none

/-- The tables that a block reads. -/
def Block.reads (block : Block) : List String :=
  block.sources.filterMap (FromItem.read? block.scope)

/-- A column with its qualifier, if the expression is one. -/
def Expression.operand : Expression → List (Option String × String)
  | .column qualifier name => [(qualifier, name)]
  | _ => []

/-- The operands of the comparisons of a predicate that are looked at. -/
def Expression.operands (recurse : Bool) : Expression → List (Option String × String)
  | .binary operator left right =>
    if operator.isLogical then
      if recurse then left.operands recurse ++ right.operands recurse else []
    else left.operand ++ right.operand
  | _ => []

/-- The predicate of a relation that counts: that of a joined one. -/
def FromItem.joinCondition? (item : FromItem) : Option Expression :=
  if item.join then item.condition else none

theorem FromItem.condition_of_joinCondition? {item : FromItem} {condition : Expression}
    (hjoin : item.joinCondition? = some condition) : item.condition = some condition := by
  rw [joinCondition?] at hjoin
  split at hjoin
  · exact hjoin
  · cases hjoin

/-- The columns that a block looks at. -/
def Block.inspected (recurse : Bool) (block : Block) : List (Option String × String) :=
  block.columns.flatMap Expression.operand
    ++ (block.sources.filterMap FromItem.joinCondition?).flatMap (Expression.operands recurse)
    ++ block.selection.toList.flatMap (Expression.operands recurse)

/-- The qualifiers in an expression. -/
def Expression.qualifiers : Expression → List String
  | .column qualifier _ => qualifier.toList
  | .binary _ left right => left.qualifiers ++ right.qualifiers
  | .other => []

theorem Expression.mem_qualifiers_of_operand {expression : Expression} {qualifier name : String}
    (hmem : (some qualifier, name) ∈ expression.operand) :
    qualifier ∈ expression.qualifiers := by
  cases expression with
  | column owner column =>
    obtain ⟨rfl, -⟩ : some qualifier = owner ∧ name = column := by simpa [operand] using hmem
    simp [qualifiers]
  | binary operator left right => simp [operand] at hmem
  | other => simp [operand] at hmem

theorem Expression.mem_qualifiers_of_operands {recurse : Bool} {expression : Expression}
    {qualifier name : String} (hmem : (some qualifier, name) ∈ expression.operands recurse) :
    qualifier ∈ expression.qualifiers := by
  induction expression with
  | column owner column => simp [operands] at hmem
  | other => simp [operands] at hmem
  | binary operator left right ihleft ihright =>
    rw [qualifiers, List.mem_append]
    rw [operands] at hmem
    split at hmem
    · split at hmem
      · exact (List.mem_append.1 hmem).imp ihleft ihright
      · simp at hmem
    · exact (List.mem_append.1 hmem).imp mem_qualifiers_of_operand mem_qualifiers_of_operand

/-- Whether a name is that of the owner of a column, and not unknown. -/
def Scope.Owns (scope : Scope) (columns : List (Option String × String)) (name : String) : Prop :=
  name ≠ unknownTable ∧ ∃ column ∈ columns, scope.resolve column.1 = name

/-- Whether a block registers a table of that name. -/
def Block.Registers (recurse : Bool) (block : Block) (name : String) : Prop :=
  name ∈ block.reads ∨ block.scope.Owns (block.inspected recurse) name

theorem Scope.owns_nil {scope : Scope} {name : String} : ¬ scope.Owns [] name := by
  simp [Owns]

theorem Scope.owns_append {scope : Scope} {first second : List (Option String × String)}
    {name : String} :
    scope.Owns (first ++ second) name ↔ scope.Owns first name ∨ scope.Owns second name := by
  simp only [Owns, List.mem_append, or_and_right, exists_or, and_or_left]

/-! ## Which names are added -/

/-- The names registered after something was recorded are those from before and the added ones. -/
def Registry.Adds (before after : Registry) (added : String → Prop) : Prop :=
  ∀ name, name ∈ after.names ↔ name ∈ before.names ∨ added name

theorem Registry.Adds.none (registry : Registry) {added : String → Prop}
    (hadded : ∀ name, ¬ added name) : registry.Adds registry added := by
  intro name
  simp [hadded name]

theorem Registry.Adds.trans {before between after : Registry} {first second : String → Prop}
    (hfirst : before.Adds between first) (hsecond : between.Adds after second) :
    before.Adds after (fun name => first name ∨ second name) := by
  intro name
  rw [hsecond name, hfirst name, or_assoc]

theorem Registry.Adds.congr {before after : Registry} {first second : String → Prop}
    (hfirst : before.Adds after first) (hiff : ∀ name, first name ↔ second name) :
    before.Adds after second := by
  intro name
  rw [hfirst name, hiff name]

/-- Recording a column registers its owner. -/
theorem ensureColumn_adds (registry : Registry) (scope : Scope) (qualifier : Option String)
    (name : String) (role : ColumnRole) :
    registry.Adds (registry.ensureColumn (scope.resolve qualifier) name role)
      (scope.Owns [(qualifier, name)]) := by
  intro other
  rw [mem_names_ensureColumn, or_comm]
  simp only [Scope.Owns, List.mem_singleton, exists_eq_left]
  refine or_congr_right ⟨?_, ?_⟩
  · rintro ⟨rfl, hknown⟩
    exact ⟨hknown, rfl⟩
  · rintro ⟨hknown, rfl⟩
    exact ⟨rfl, hknown⟩

theorem registerProjection_adds (scope : Scope) (columns : List Expression)
    (registry : Registry) :
    registry.Adds (registerProjection scope columns registry)
      (scope.Owns (columns.flatMap Expression.operand)) := by
  rw [registerProjection]
  induction columns generalizing registry with
  | nil => exact .none registry fun _ => Scope.owns_nil
  | cons expression rest ih =>
    rw [List.foldl_cons, List.flatMap_cons]
    cases expression with
    | column qualifier name =>
      refine ((ensureColumn_adds registry scope qualifier name .selected).trans (ih _)).congr ?_
      exact fun _ => Scope.owns_append.symm
    | binary operator left right => exact ih registry
    | other => exact ih registry

theorem registerOperand_adds (scope : Scope) (registry : Registry) (operand : Expression) :
    registry.Adds (registerOperand scope registry operand).1 (scope.Owns operand.operand) := by
  cases operand with
  | column qualifier name => exact ensureColumn_adds registry scope qualifier name .condition
  | binary operator left right => exact .none registry fun _ => Scope.owns_nil
  | other => exact .none registry fun _ => Scope.owns_nil

theorem names_inferFromComparison (scope : Scope) (left right : Expression)
    (registry : Registry) :
    (inferFromComparison scope left right registry).names =
      (registerOperand scope (registerOperand scope registry left).1 right).1.names := by
  rcases hleft : registerOperand scope registry left with ⟨afterLeft, leftOwner⟩
  rcases hright : registerOperand scope afterLeft right with ⟨afterRight, rightOwner⟩
  simp only [inferFromComparison, hleft, hright]
  split
  · exact names_addRelationship _ _ _ _
  · rfl

theorem inferFromCondition_adds (recurse : Bool) (scope : Scope) (condition : Expression)
    (registry : Registry) :
    registry.Adds (inferFromCondition recurse scope condition registry)
      (scope.Owns (condition.operands recurse)) := by
  induction condition generalizing registry with
  | column qualifier name => exact .none registry fun _ => Scope.owns_nil
  | other => exact .none registry fun _ => Scope.owns_nil
  | binary operator left right ihleft ihright =>
    rw [inferFromCondition, Expression.operands]
    split
    · split
      · exact ((ihleft registry).trans (ihright _)).congr fun _ => Scope.owns_append.symm
      · exact .none registry fun _ => Scope.owns_nil
    · intro name
      rw [names_inferFromComparison]
      exact ((registerOperand_adds scope registry left).trans
        (registerOperand_adds scope _ right)).congr (fun _ => Scope.owns_append.symm) name

theorem inferFromSelection_adds (recurse : Bool) (scope : Scope)
    (selection : Option Expression) (registry : Registry) :
    registry.Adds (inferFromSelection recurse scope selection registry)
      (scope.Owns (selection.toList.flatMap (Expression.operands recurse))) := by
  cases selection with
  | none => exact .none registry fun _ => Scope.owns_nil
  | some condition =>
    simpa [inferFromSelection] using inferFromCondition_adds recurse scope condition registry

theorem inferFromJoins_adds (recurse : Bool) (scope : Scope) (sources : List FromItem)
    (registry : Registry) :
    registry.Adds (inferFromJoins recurse scope sources registry)
      (scope.Owns ((sources.filterMap FromItem.joinCondition?).flatMap
        (Expression.operands recurse))) := by
  rw [inferFromJoins]
  induction sources generalizing registry with
  | nil => exact .none registry fun _ => Scope.owns_nil
  | cons item rest ih =>
    have hitem : item.joinCondition?.toList ++ rest.filterMap FromItem.joinCondition? =
        (item :: rest).filterMap FromItem.joinCondition? := by
      rw [List.filterMap_cons]
      cases item.joinCondition? <;> rfl
    rw [List.foldl_cons, ← hitem, List.flatMap_append]
    refine (Registry.Adds.trans ?_ (ih _)).congr fun _ => Scope.owns_append.symm
    rw [FromItem.joinCondition?]
    split
    · exact inferFromSelection_adds recurse scope item.condition registry
    · exact .none registry fun _ => Scope.owns_nil

/-- Reading the columns of a block whose relations are registered. -/
theorem inspect_adds (recurse : Bool) (block : Block) (registry : Registry) :
    registry.Adds
      (inferFromSelection recurse block.scope block.selection
        (inferFromJoins recurse block.scope block.sources
          (registerProjection block.scope block.columns registry)))
      (block.scope.Owns (block.inspected recurse)) := by
  refine (((registerProjection_adds block.scope block.columns registry).trans
    (inferFromJoins_adds recurse block.scope block.sources _)).trans
    (inferFromSelection_adds recurse block.scope block.selection _)).congr fun name => ?_
  rw [Block.inspected, Scope.owns_append, Scope.owns_append]

/-! ## Queries -/

theorem analyzeSource_scope (recurse : Bool) (item : FromItem) (scope : Scope)
    (registry : Registry) :
    (analyzeSource recurse item scope registry).1 = scope.bindItem item := by
  match item with
  | ⟨.table name, aliasName, _, _⟩ =>
    rw [analyzeSource, Scope.bindItem]
    split <;> rfl
  | ⟨.subquery _, some aliasName, _, _⟩ =>
    rw [analyzeSource]
    rfl
  | ⟨.subquery _, none, _, _⟩ =>
    rw [analyzeSource]
    rfl

theorem analyzeSources_scope (recurse : Bool) (sources : List FromItem) (scope : Scope)
    (registry : Registry) :
    (analyzeSources recurse sources scope registry).1 = scope.bindItems sources := by
  induction sources generalizing scope registry with
  | nil => rw [analyzeSources, Scope.bindItems_nil]
  | cons item rest ih =>
    rw [analyzeSources]
    simp only [ih, analyzeSource_scope, Scope.bindItems_cons]

theorem analyzeCtes_scope (recurse : Bool) (ctes : List CommonTable) (scope : Scope)
    (registry : Registry) :
    (analyzeCtes recurse ctes scope registry).1 =
      scope.addCtes (ctes.map CommonTable.name) := by
  induction ctes generalizing scope registry with
  | nil => rw [analyzeCtes, List.map_nil, Scope.addCtes_nil]
  | cons cte rest ih =>
    obtain ⟨name, query⟩ := cte
    rw [analyzeCtes]
    simp only [ih, List.map_cons, Scope.addCtes_cons]

theorem FromItem.read?_congr {first second : Scope} (hctes : first.ctes = second.ctes)
    (item : FromItem) : item.read? first = item.read? second := by
  match item with
  | ⟨.table name, _, _, _⟩ => simp [read?, Scope.isCte, hctes]
  | ⟨.subquery _, _, _, _⟩ => rfl

theorem Block.reads_of (scope : Scope) (sources : List FromItem) (columns : List Expression)
    (selection : Option Expression) :
    (Block.of scope sources columns selection).reads =
      sources.filterMap (FromItem.read? scope) := by
  apply List.filterMap_congr
  intro item _
  exact item.read?_congr (Scope.ctes_bindItems scope sources)

/-- What a registry and the tables read have to do with the blocks that were done, and with further
tables that were read. -/
structure Surveys (recurse : Bool) (before after : Registry) (reads : List String)
    (tables : List String) (blocks : List Block) : Prop where
  adds : before.Adds after
    (fun name => name ∈ tables ∨ ∃ block ∈ blocks, block.Registers recurse name)
  reads_iff : ∀ name, name ∈ reads ↔ name ∈ tables ∨ ∃ block ∈ blocks, name ∈ block.reads

theorem Surveys.nil (recurse : Bool) (registry : Registry) :
    Surveys recurse registry registry [] [] [] where
  adds := .none registry (by simp)
  reads_iff := by simp

theorem Surveys.append {recurse : Bool} {before between after : Registry}
    {firstReads secondReads firstTables secondTables : List String}
    {firstBlocks secondBlocks : List Block}
    (hfirst : Surveys recurse before between firstReads firstTables firstBlocks)
    (hsecond : Surveys recurse between after secondReads secondTables secondBlocks) :
    Surveys recurse before after (firstReads ++ secondReads) (firstTables ++ secondTables)
      (firstBlocks ++ secondBlocks) where
  adds := (hfirst.adds.trans hsecond.adds).congr fun name => by
    simp only [List.mem_append, or_and_right, exists_or]
    exact or_or_or_comm
  reads_iff := fun name => by
    simp only [List.mem_append, or_and_right, exists_or, hfirst.reads_iff, hsecond.reads_iff]
    exact or_or_or_comm

/-- Once its relations are read, reading its columns completes a block. -/
theorem Surveys.block {recurse : Bool} {before between : Registry} {reads : List String}
    {blocks : List Block} {scope : Scope} {sources : List FromItem}
    (hsources : Surveys recurse before between reads
      (sources.filterMap (FromItem.read? scope)) blocks)
    (columns : List Expression) (selection : Option Expression) :
    Surveys recurse before
      (inferFromSelection recurse (scope.bindItems sources) selection
        (inferFromJoins recurse (scope.bindItems sources) sources
          (registerProjection (scope.bindItems sources) columns between)))
      reads [] (blocks ++ [Block.of scope sources columns selection]) where
  adds := by
    refine (hsources.adds.trans
      (inspect_adds recurse (Block.of scope sources columns selection) between)).congr
      fun name => ?_
    simp only [List.mem_append, List.mem_singleton, or_and_right, exists_or, exists_eq_left,
      Block.Registers, Block.reads_of, List.not_mem_nil, false_or]
    rw [or_assoc, or_left_comm]
  reads_iff := fun name => by
    simp only [List.mem_append, List.mem_singleton, or_and_right, exists_or, exists_eq_left,
      Block.reads_of, List.not_mem_nil, false_or, hsources.reads_iff]
    exact or_comm

mutual

theorem analyzeSelect_surveys (recurse : Bool) (query : Select) (scope : Scope)
    (registry : Registry) :
    Surveys recurse registry (analyzeSelect recurse query scope registry).1
      (analyzeSelect recurse query scope registry).2 [] (query.blocks scope) := by
  match query with
  | ⟨ctes, sources, columns, selection, union⟩ =>
    rw [analyzeSelect, Select.blocks]
    simp only [analyzeCtes_scope, analyzeSources_scope]
    have hctes := analyzeCtes_surveys recurse ctes scope registry
    have hblock := (analyzeSources_surveys recurse sources
      (scope.addCtes (ctes.map CommonTable.name))
      (analyzeCtes recurse ctes scope registry).2.1).block columns selection
    exact (hctes.append hblock).append (analyzeBranches_surveys recurse union _ _)

theorem analyzeCtes_surveys (recurse : Bool) (ctes : List CommonTable) (scope : Scope)
    (registry : Registry) :
    Surveys recurse registry (analyzeCtes recurse ctes scope registry).2.1
      (analyzeCtes recurse ctes scope registry).2.2 [] (CommonTable.blocks scope ctes) := by
  match ctes with
  | [] =>
    rw [analyzeCtes, CommonTable.blocks]
    exact .nil recurse registry
  | ⟨name, query⟩ :: rest =>
    rw [analyzeCtes, CommonTable.blocks]
    exact (analyzeSelect_surveys recurse query scope registry).append
      (analyzeCtes_surveys recurse rest _ _)

theorem analyzeSources_surveys (recurse : Bool) (sources : List FromItem) (scope : Scope)
    (registry : Registry) :
    Surveys recurse registry (analyzeSources recurse sources scope registry).2.1
      (analyzeSources recurse sources scope registry).2.2
      (sources.filterMap (FromItem.read? scope)) (FromItem.blocks scope sources) := by
  match sources with
  | [] =>
    rw [analyzeSources, FromItem.blocks]
    exact .nil recurse registry
  | item :: rest =>
    have hrest := analyzeSources_surveys recurse rest (scope.bindItem item)
      (analyzeSource recurse item scope registry).2.1
    have htables : (item :: rest).filterMap (FromItem.read? scope) =
        (item.read? scope).toList ++ rest.filterMap (FromItem.read? (scope.bindItem item)) := by
      rw [List.filterMap_cons, List.filterMap_congr fun other _ =>
        other.read?_congr (Scope.ctes_bindItem scope item).symm]
      cases item.read? scope <;> rfl
    rw [analyzeSources, FromItem.blocks, htables]
    simp only [analyzeSource_scope]
    exact (analyzeSource_surveys recurse item scope registry).append hrest

theorem analyzeSource_surveys (recurse : Bool) (item : FromItem) (scope : Scope)
    (registry : Registry) :
    Surveys recurse registry (analyzeSource recurse item scope registry).2.1
      (analyzeSource recurse item scope registry).2.2 (item.read? scope).toList
      (FromItem.ownBlocks scope item) := by
  match item with
  | ⟨.table name, aliasName, join, condition⟩ =>
    rw [analyzeSource, FromItem.ownBlocks, FromItem.read?]
    split
    · exact .nil recurse registry
    · exact ⟨fun other => by simp [or_comm], by simp⟩
  | ⟨.subquery query, some aliasName, join, condition⟩ =>
    rw [analyzeSource, FromItem.ownBlocks, FromItem.read?]
    exact analyzeSelect_surveys recurse query scope registry
  | ⟨.subquery query, none, join, condition⟩ =>
    rw [analyzeSource, FromItem.ownBlocks, FromItem.read?]
    exact analyzeSelect_surveys recurse query scope registry

theorem analyzeBranches_surveys (recurse : Bool) (branches : List Select) (scope : Scope)
    (registry : Registry) :
    Surveys recurse registry (analyzeBranches recurse branches scope registry).1
      (analyzeBranches recurse branches scope registry).2 []
      (Select.branchBlocks scope branches) := by
  match branches with
  | [] =>
    rw [analyzeBranches, Select.branchBlocks]
    exact .nil recurse registry
  | branch :: rest =>
    rw [analyzeBranches, Select.branchBlocks]
    exact (analyzeSelect_surveys recurse branch scope registry).append
      (analyzeBranches_surveys recurse rest scope _)

end

/-- A query reads what its blocks read. -/
theorem mem_reads_analyzeSelect {recurse : Bool} {query : Select} {scope : Scope}
    {registry : Registry} {name : String} :
    name ∈ (analyzeSelect recurse query scope registry).2 ↔
      ∃ block ∈ query.blocks scope, name ∈ block.reads := by
  simpa using (analyzeSelect_surveys recurse query scope registry).reads_iff name

/-- A query registers the tables that its blocks do, and no other. -/
theorem mem_names_analyzeSelect {recurse : Bool} {query : Select} {scope : Scope}
    {registry : Registry} {name : String} :
    name ∈ (analyzeSelect recurse query scope registry).1.names ↔
      name ∈ registry.names ∨
        ∃ block ∈ query.blocks scope, block.Registers recurse name := by
  simpa using (analyzeSelect_surveys recurse query scope registry).adds name

end SqlLineage
