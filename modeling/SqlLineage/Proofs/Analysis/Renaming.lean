import Mathlib.Data.Set.Function
import SqlLineage.Proofs.Analysis.Bindings
import SqlLineage.Proofs.Analysis.Events
import SqlLineage.Proofs.Graph.Extension
import SqlLineage.Proofs.Registry.Inventory

/-!
# Renamed aliases

An alias only ties columns to a relation, so which name it has does not matter as long as it is told
apart from the other names that a qualifier may refer to.  A renaming changes aliases and
qualifiers, and a scope goes along by its keys.  The same tables own the columns then, and a query
records the same events.  Names of common tables and last segments of dotted names have to stay what
they are, for they come from names that are not renamed; so does a qualifier that nothing binds, for
it is taken as a table's name.
-/

namespace SqlLineage

open Registry

/-! ## Renaming -/

/-- An expression with other qualifiers. -/
def Expression.rename (newName : String → String) : Expression → Expression
  | .column qualifier name => .column (qualifier.map newName) name
  | .binary operator left right => .binary operator (left.rename newName) (right.rename newName)
  | .other => .other

mutual

/-- A query with other aliases and qualifiers. -/
def Select.rename (newName : String → String) : Select → Select
  | ⟨ctes, sources, columns, selection, union⟩ =>
    ⟨CommonTable.rename newName ctes, FromItem.rename newName sources,
      columns.map (Expression.rename newName), selection.map (Expression.rename newName),
      Select.renameBranches newName union⟩

def CommonTable.rename (newName : String → String) : List CommonTable → List CommonTable
  | [] => []
  | ⟨name, query⟩ :: rest => ⟨name, query.rename newName⟩ :: CommonTable.rename newName rest

def FromItem.rename (newName : String → String) : List FromItem → List FromItem
  | [] => []
  | item :: rest => FromItem.renameOwn newName item :: FromItem.rename newName rest

def FromItem.renameOwn (newName : String → String) : FromItem → FromItem
  | ⟨.table name, aliasName, join, condition⟩ =>
    ⟨.table name, aliasName.map newName, join, condition.map (Expression.rename newName)⟩
  | ⟨.subquery query, aliasName, join, condition⟩ =>
    ⟨.subquery (query.rename newName), aliasName.map newName, join,
      condition.map (Expression.rename newName)⟩

def Select.renameBranches (newName : String → String) : List Select → List Select
  | [] => []
  | branch :: rest => branch.rename newName :: Select.renameBranches newName rest

end

/-- A scope with other names for what it binds. -/
def Scope.rename (newName : String → String) (scope : Scope) : Scope :=
  { scope with bindings := scope.bindings.map (Prod.map newName id) }

/-! ## Names -/

/-- What a name is used as. -/
inductive NameUse where
  | commonTable
  /-- The last segment of a dotted name that has no alias. -/
  | segment
  | aliasName
  | qualifier
  deriving DecidableEq

/-- Whether a name is not up to the query, so that a renaming has to leave it alone. -/
def NameUse.IsFixed : NameUse → Prop
  | .commonTable | .segment => True
  | .aliasName | .qualifier => False

mutual

/-- The names that a query gives to relations and refers to them by.  A dotted name without an alias
gives its last segment. -/
def Select.uses : Select → List (NameUse × String)
  | ⟨ctes, sources, columns, selection, union⟩ =>
    CommonTable.uses ctes
      ++ (FromItem.uses sources
        ++ ((columns ++ sources.filterMap FromItem.condition ++ selection.toList).flatMap
          Expression.qualifiers).map (NameUse.qualifier, ·))
      ++ Select.branchUses union

def CommonTable.uses : List CommonTable → List (NameUse × String)
  | [] => []
  | ⟨name, query⟩ :: rest => (.commonTable, name) :: (query.uses ++ CommonTable.uses rest)

def FromItem.uses : List FromItem → List (NameUse × String)
  | [] => []
  | item :: rest => FromItem.ownUses item ++ FromItem.uses rest

def FromItem.ownUses : FromItem → List (NameUse × String)
  | ⟨.table _, some aliasName, _, _⟩ => [(.aliasName, aliasName)]
  | ⟨.table name, none, _, _⟩ => (lastSegment? name).toList.map (NameUse.segment, ·)
  | ⟨.subquery query, aliasName, _, _⟩ => query.uses ++ aliasName.toList.map (NameUse.aliasName, ·)

def Select.branchUses : List Select → List (NameUse × String)
  | [] => []
  | branch :: rest => branch.uses ++ Select.branchUses rest

end

/-- A renaming tells names apart that are different, and leaves alone those that it has to. -/
structure Renames (newName : String → String) (uses : List (NameUse × String)) : Prop where
  injOn : Set.InjOn newName {name | ∃ use, (use, name) ∈ uses}
  fixes : ∀ use name, (use, name) ∈ uses → use.IsFixed → newName name = name

/-- All names of a scope are among those that are used. -/
structure Scope.Within (scope : Scope) (uses : List (NameUse × String)) : Prop where
  keys : ∀ bound ∈ scope.bindings, ∃ use, (use, bound.1) ∈ uses
  ctes : ∀ name ∈ scope.ctes, (NameUse.commonTable, name) ∈ uses

/-- A renaming leaves the qualifiers alone that a block looks up and nothing binds. -/
def Block.Frees (recurse : Bool) (newName : String → String) (block : Block) : Prop :=
  ∀ qualifier column, (some qualifier, column) ∈ block.inspected recurse →
    block.scope.bindings.lookup qualifier = none → newName qualifier = qualifier

/-! ## Expressions of renamed relations -/

section Expressions

variable (newName : String → String)

theorem FromItem.rename_eq_map (items : List FromItem) :
    FromItem.rename newName items = items.map (FromItem.renameOwn newName) := by
  induction items with
  | nil => rfl
  | cons item rest ih => rw [rename, List.map_cons, ih]

theorem FromItem.filterMap_rename {pick : FromItem → Option Expression}
    (hpick : ∀ item, pick (FromItem.renameOwn newName item) =
      (pick item).map (Expression.rename newName)) (items : List FromItem) :
    (FromItem.rename newName items).filterMap pick =
      (items.filterMap pick).map (Expression.rename newName) := by
  rw [rename_eq_map, List.filterMap_map, List.map_filterMap]
  exact List.filterMap_congr fun item _ => hpick item

theorem FromItem.conditions_rename (items : List FromItem) :
    (FromItem.rename newName items).filterMap FromItem.condition =
      (items.filterMap FromItem.condition).map (Expression.rename newName) := by
  apply filterMap_rename
  rintro ⟨_ | _, _, _, _⟩ <;> rfl

theorem FromItem.joinConditions_rename (items : List FromItem) :
    (FromItem.rename newName items).filterMap FromItem.joinCondition? =
      (items.filterMap FromItem.joinCondition?).map (Expression.rename newName) := by
  apply filterMap_rename
  rintro ⟨_ | _, _, _ | _, _⟩ <;> rfl

theorem Expression.qualifiers_rename (expression : Expression) :
    (expression.rename newName).qualifiers = expression.qualifiers.map newName := by
  induction expression with
  | column qualifier name => exact Option.toList_map
  | binary operator left right ihleft ihright =>
    rw [rename, qualifiers, qualifiers, List.map_append, ihleft, ihright]
  | other => rfl

theorem Expression.flatMap_qualifiers_rename (expressions : List Expression) :
    (expressions.map (Expression.rename newName)).flatMap Expression.qualifiers =
      (expressions.flatMap Expression.qualifiers).map newName := by
  rw [List.flatMap_map, List.map_flatMap]
  exact List.flatMap_congr fun expression _ => expression.qualifiers_rename newName

end Expressions

/-! ## Names in scopes -/

section Scopes

variable {uses : List (NameUse × String)} {scope : Scope}

theorem Scope.within_empty (uses : List (NameUse × String)) : Scope.Within ⟨[], []⟩ uses :=
  ⟨nofun, nofun⟩

theorem Scope.Within.addCte (hwithin : scope.Within uses) {name : String}
    (hname : (NameUse.commonTable, name) ∈ uses) : (scope.addCte name).Within uses :=
  ⟨hwithin.keys, List.forall_mem_cons.mpr ⟨hname, hwithin.ctes⟩⟩

theorem Scope.Within.addCtes (hwithin : scope.Within uses) {ctes : List CommonTable}
    (huses : CommonTable.uses ctes ⊆ uses) :
    (scope.addCtes (ctes.map CommonTable.name)).Within uses := by
  induction ctes generalizing scope with
  | nil => exact hwithin
  | cons cte rest ih =>
    obtain ⟨name, query⟩ := cte
    rw [CommonTable.uses, List.cons_subset, List.append_subset] at huses
    exact ih (hwithin.addCte huses.1) huses.2.2

/-- A relation binds a name that is used. -/
theorem FromItem.exists_use_of_binding? (hwithin : scope.Within uses) {item : FromItem}
    (huses : item.ownUses ⊆ uses) {bound : String × Binding}
    (hbound : item.binding? scope = some bound) : ∃ use, (use, bound.1) ∈ uses := by
  match item with
  | ⟨.table name, some aliasName, _, _⟩ =>
    have hkey : bound.1 = aliasName := by
      rw [binding?] at hbound
      split at hbound <;> exact (congrArg Prod.fst (Option.some.inj hbound)).symm
    exact ⟨.aliasName, hkey ▸ huses List.mem_cons_self⟩
  | ⟨.table name, none, _, _⟩ =>
    rw [binding?] at hbound
    split at hbound
    · rename_i hcte
      obtain rfl := Option.some.inj hbound
      exact ⟨.commonTable, hwithin.ctes name (Scope.isCte_iff.mp hcte)⟩
    · rw [Option.none_or, Option.map_eq_some_iff] at hbound
      obtain ⟨segment, hsegment, rfl⟩ := hbound
      rw [ownUses, hsegment] at huses
      exact ⟨.segment, huses List.mem_cons_self⟩
  | ⟨.subquery query, aliasName, _, _⟩ =>
    rw [binding?, Option.map_eq_some_iff] at hbound
    obtain ⟨name, rfl, rfl⟩ := hbound
    rw [ownUses, List.append_subset] at huses
    exact ⟨.aliasName, huses.2 List.mem_cons_self⟩

theorem Scope.Within.bindItem (hwithin : scope.Within uses) {item : FromItem}
    (huses : item.ownUses ⊆ uses) : (scope.bindItem item).Within uses := by
  rw [bindItem_eq]
  refine ⟨List.forall_mem_append.mpr ⟨fun bound hbound => ?_, hwithin.keys⟩, hwithin.ctes⟩
  exact item.exists_use_of_binding? hwithin huses (Option.mem_toList.mp hbound)

theorem Scope.Within.bindItems (hwithin : scope.Within uses) {items : List FromItem}
    (huses : FromItem.uses items ⊆ uses) : (scope.bindItems items).Within uses := by
  induction items generalizing scope with
  | nil => exact hwithin
  | cons item rest ih =>
    rw [FromItem.uses, List.append_subset] at huses
    exact ih (hwithin.bindItem huses.1) huses.2

end Scopes

section Renames

variable {newName : String → String} {uses : List (NameUse × String)}

/-! ## Names of renamed queries -/

mutual

/-- A renamed query uses the new names, each as the old one was used. -/
theorem Renames.uses_rename (hrenames : Renames newName uses) {query : Select}
    (huses : query.uses ⊆ uses) :
    (query.rename newName).uses = query.uses.map (Prod.map id newName) := by
  match query with
  | ⟨ctes, sources, columns, selection, union⟩ =>
    simp only [Select.uses, List.append_subset] at huses
    obtain ⟨⟨hctes, hsources, -⟩, hunion⟩ := huses
    rw [Select.rename, Select.uses, Select.uses, hrenames.cteUses_rename hctes,
      hrenames.itemUses_rename hsources, hrenames.branchUses_rename hunion,
      FromItem.conditions_rename, Option.toList_map, ← List.map_append, ← List.map_append,
      Expression.flatMap_qualifiers_rename]
    simp only [List.map_append, List.map_map]
    rfl

theorem Renames.cteUses_rename (hrenames : Renames newName uses) {ctes : List CommonTable}
    (huses : CommonTable.uses ctes ⊆ uses) :
    CommonTable.uses (CommonTable.rename newName ctes) =
      (CommonTable.uses ctes).map (Prod.map id newName) := by
  match ctes with
  | [] => rfl
  | ⟨name, query⟩ :: rest =>
    simp only [CommonTable.uses, List.cons_subset, List.append_subset] at huses
    obtain ⟨hname, hquery, hrest⟩ := huses
    have hfixed : newName name = name := hrenames.fixes .commonTable name hname trivial
    rw [CommonTable.rename, CommonTable.uses, CommonTable.uses, hrenames.uses_rename hquery,
      hrenames.cteUses_rename hrest, List.map_cons, List.map_append, Prod.map_apply, hfixed]
    rfl

theorem Renames.itemUses_rename (hrenames : Renames newName uses) {items : List FromItem}
    (huses : FromItem.uses items ⊆ uses) :
    FromItem.uses (FromItem.rename newName items) =
      (FromItem.uses items).map (Prod.map id newName) := by
  match items with
  | [] => rfl
  | item :: rest =>
    rw [FromItem.uses, List.append_subset] at huses
    rw [FromItem.rename, FromItem.uses, FromItem.uses, hrenames.ownUses_rename huses.1,
      hrenames.itemUses_rename huses.2, List.map_append]

theorem Renames.ownUses_rename (hrenames : Renames newName uses) {item : FromItem}
    (huses : item.ownUses ⊆ uses) :
    (FromItem.renameOwn newName item).ownUses = item.ownUses.map (Prod.map id newName) := by
  match item with
  | ⟨.table _, some aliasName, _, _⟩ => rfl
  | ⟨.table name, none, _, _⟩ =>
    rw [FromItem.renameOwn, Option.map_none, FromItem.ownUses, FromItem.ownUses]
    cases hsegment : lastSegment? name with
    | none => rfl
    | some segment =>
      rw [FromItem.ownUses, hsegment] at huses
      have hfixed : newName segment = segment :=
        hrenames.fixes .segment segment (huses List.mem_cons_self) trivial
      simp only [Option.toList_some, List.map_cons, List.map_nil, Prod.map_apply, hfixed, id]
  | ⟨.subquery query, aliasName, _, _⟩ =>
    rw [FromItem.ownUses, List.append_subset] at huses
    rw [FromItem.renameOwn, FromItem.ownUses, FromItem.ownUses, hrenames.uses_rename huses.1,
      Option.toList_map, List.map_append, List.map_map, List.map_map]
    rfl

theorem Renames.branchUses_rename (hrenames : Renames newName uses) {branches : List Select}
    (huses : Select.branchUses branches ⊆ uses) :
    Select.branchUses (Select.renameBranches newName branches) =
      (Select.branchUses branches).map (Prod.map id newName) := by
  match branches with
  | [] => rfl
  | branch :: rest =>
    rw [Select.branchUses, List.append_subset] at huses
    rw [Select.renameBranches, Select.branchUses, Select.branchUses,
      hrenames.uses_rename huses.1, hrenames.branchUses_rename huses.2, List.map_append]

end

/-! ## Renamed scopes -/

/-- A name is found under its new name, for no other name is renamed to that. -/
theorem Renames.lookup_map (hrenames : Renames newName uses) {bindings : List (String × Binding)}
    (hkeys : ∀ bound ∈ bindings, ∃ use, (use, bound.1) ∈ uses) {qualifier : String}
    (hqualifier : ∃ use, (use, qualifier) ∈ uses) :
    (bindings.map (Prod.map newName id)).lookup (newName qualifier) =
      bindings.lookup qualifier := by
  induction bindings with
  | nil => rfl
  | cons bound rest ih =>
    obtain ⟨name, binding⟩ := bound
    rw [List.forall_mem_cons] at hkeys
    have hsame : (newName qualifier == newName name) = (qualifier == name) := by
      rw [Bool.eq_iff_iff, beq_iff_eq, beq_iff_eq]
      exact hrenames.injOn.eq_iff hqualifier hkeys.1
    rw [List.map_cons, Prod.map_apply, List.lookup_cons, List.lookup_cons, hsame, ih hkeys.2]
    rfl

/-- Renamed columns have the owners that they had. -/
theorem Renames.resolve_rename (hrenames : Renames newName uses) {scope : Scope}
    (hwithin : scope.Within uses) {qualifier : Option String}
    (huse : ∀ name, qualifier = some name → (NameUse.qualifier, name) ∈ uses)
    (hfree : ∀ name, qualifier = some name → scope.bindings.lookup name = none →
      newName name = name) :
    (scope.rename newName).resolve (qualifier.map newName) = scope.resolve qualifier := by
  cases qualifier with
  | none => rfl
  | some name =>
    have hlookup : (scope.rename newName).bindings.lookup (newName name) =
        scope.bindings.lookup name :=
      hrenames.lookup_map hwithin.keys ⟨.qualifier, huse name rfl⟩
    rw [Option.map_some, Scope.resolve_eq, Scope.resolve_eq, hlookup]
    cases hbinding : scope.bindings.lookup name with
    | some binding => rfl
    | none =>
      rw [hfree name rfl hbinding]
      rfl

/-- A renamed relation binds the renamed name. -/
theorem Renames.binding?_renameOwn (hrenames : Renames newName uses) {scope : Scope}
    (hwithin : scope.Within uses) {item : FromItem} (huses : item.ownUses ⊆ uses) :
    (FromItem.renameOwn newName item).binding? (scope.rename newName) =
      (item.binding? scope).map (Prod.map newName id) := by
  have hctes : (scope.rename newName).ctes = scope.ctes := rfl
  rw [FromItem.binding?_congr hctes]
  match item with
  | ⟨.table name, some aliasName, _, _⟩ =>
    rw [FromItem.renameOwn, FromItem.binding?, FromItem.binding?]
    split <;> rfl
  | ⟨.table name, none, _, _⟩ =>
    rw [FromItem.renameOwn, FromItem.binding?, FromItem.binding?]
    split
    · rename_i hcte
      have hfixed : newName name = name :=
        hrenames.fixes .commonTable name (hwithin.ctes name (Scope.isCte_iff.mp hcte)) trivial
      rw [Option.map_some, Prod.map_apply, Option.getD_none, hfixed]
      rfl
    · rw [Option.map_none, Option.none_or]
      cases hsegment : lastSegment? name with
      | none => rfl
      | some segment =>
        rw [FromItem.ownUses, hsegment] at huses
        have hfixed : newName segment = segment :=
          hrenames.fixes .segment segment (huses List.mem_cons_self) trivial
        rw [Option.map_some, Option.map_some, Prod.map_apply, hfixed]
        rfl
  | ⟨.subquery query, some aliasName, _, _⟩ => rfl
  | ⟨.subquery query, none, _, _⟩ => rfl

theorem Renames.bindItem_renameOwn (hrenames : Renames newName uses) {scope : Scope}
    (hwithin : scope.Within uses) {item : FromItem} (huses : item.ownUses ⊆ uses) :
    (scope.rename newName).bindItem (FromItem.renameOwn newName item) =
      (scope.bindItem item).rename newName := by
  rw [Scope.bindItem_eq, Scope.bindItem_eq, hrenames.binding?_renameOwn hwithin huses]
  cases item.binding? scope <;> rfl

theorem Renames.bindItems_rename (hrenames : Renames newName uses) {scope : Scope}
    (hwithin : scope.Within uses) {items : List FromItem} (huses : FromItem.uses items ⊆ uses) :
    (scope.rename newName).bindItems (FromItem.rename newName items) =
      (scope.bindItems items).rename newName := by
  induction items generalizing scope with
  | nil => rfl
  | cons item rest ih =>
    rw [FromItem.uses, List.append_subset] at huses
    rw [FromItem.rename, Scope.bindItems_cons, Scope.bindItems_cons,
      hrenames.bindItem_renameOwn hwithin huses.1, ih (hwithin.bindItem huses.1) huses.2]

theorem Scope.rename_addCtes (newName : String → String) (scope : Scope) (names : List String) :
    (scope.rename newName).addCtes names = (scope.addCtes names).rename newName := by
  induction names generalizing scope with
  | nil => rfl
  | cons name rest ih => exact ih (scope.addCte name)

theorem CommonTable.names_rename (newName : String → String) (ctes : List CommonTable) :
    (CommonTable.rename newName ctes).map CommonTable.name = ctes.map CommonTable.name := by
  induction ctes with
  | nil => rfl
  | cons cte rest ih =>
    obtain ⟨name, query⟩ := cte
    rw [rename, List.map_cons, List.map_cons, ih]

/-! ## Renamed blocks -/

/-- The qualifiers that a block looks up are those in its expressions. -/
theorem mem_qualifiers_of_mem_inspected {recurse : Bool} {scope : Scope} {sources : List FromItem}
    {columns : List Expression} {selection : Option Expression} {qualifier column : String}
    (hcolumn : (some qualifier, column) ∈
      (Block.of scope sources columns selection).inspected recurse) :
    qualifier ∈ (columns ++ sources.filterMap FromItem.condition ++ selection.toList).flatMap
      Expression.qualifiers := by
  simp only [Block.inspected, Block.of, List.mem_append, List.mem_flatMap] at hcolumn ⊢
  obtain (⟨expression, hmem, hoperand⟩ | ⟨condition, hmem, hoperand⟩) |
    ⟨condition, hmem, hoperand⟩ := hcolumn
  · exact ⟨expression, .inl (.inl hmem), Expression.mem_qualifiers_of_operand hoperand⟩
  · obtain ⟨item, hitem, hjoin⟩ := List.mem_filterMap.mp hmem
    have hcondition : condition ∈ sources.filterMap FromItem.condition :=
      List.mem_filterMap.mpr ⟨item, hitem, FromItem.condition_of_joinCondition? hjoin⟩
    exact ⟨condition, .inl (.inr hcondition), Expression.mem_qualifiers_of_operands hoperand⟩
  · exact ⟨condition, .inr hmem, Expression.mem_qualifiers_of_operands hoperand⟩

section Owners

/-! Where renamed columns have the owners that they had, expressions record the same events. -/

variable {first second : Scope}

theorem columnEvents_rename (role : ColumnRole) {expression : Expression}
    (howners : ∀ column ∈ expression.operand,
      second.resolve (column.1.map newName) = first.resolve column.1) :
    (expression.rename newName).columnEvents second role = expression.columnEvents first role := by
  cases expression with
  | column qualifier name =>
    rw [Expression.rename, Expression.columnEvents, Expression.columnEvents,
      howners (qualifier, name) List.mem_cons_self]
  | binary _ _ _ | other => rfl

theorem owner?_rename {expression : Expression}
    (howners : ∀ column ∈ expression.operand,
      second.resolve (column.1.map newName) = first.resolve column.1) :
    (expression.rename newName).owner? second = expression.owner? first := by
  cases expression with
  | column qualifier name =>
    rw [Expression.rename, Expression.owner?, Expression.owner?,
      howners (qualifier, name) List.mem_cons_self]
  | binary _ _ _ | other => rfl

theorem conditionEvents_rename (recurse : Bool) {condition : Expression}
    (howners : ∀ column ∈ condition.operands recurse,
      second.resolve (column.1.map newName) = first.resolve column.1) :
    (condition.rename newName).events recurse second = condition.events recurse first := by
  induction condition with
  | column qualifier name => rfl
  | other => rfl
  | binary operator left right ihleft ihright =>
    rw [Expression.operands] at howners
    rw [Expression.rename, Expression.events, Expression.events]
    split at howners <;> rename_i hlogical
    · rw [if_pos hlogical, if_pos hlogical]
      split at howners <;> rename_i hrecurse
      · rw [List.forall_mem_append] at howners
        rw [if_pos hrecurse, if_pos hrecurse, ihleft howners.1, ihright howners.2]
      · rw [if_neg hrecurse, if_neg hrecurse]
    · rw [List.forall_mem_append] at howners
      rw [if_neg hlogical, if_neg hlogical, Expression.comparisonEvents,
        Expression.comparisonEvents, columnEvents_rename _ howners.1,
        columnEvents_rename _ howners.2, owner?_rename howners.1, owner?_rename howners.2]

end Owners

/-- A renamed block records what it recorded. -/
theorem Renames.blockEvents_rename (hrenames : Renames newName uses) (recurse : Bool)
    {scope : Scope} (hwithin : scope.Within uses) {sources : List FromItem}
    (hsources : FromItem.uses sources ⊆ uses) {columns : List Expression}
    {selection : Option Expression}
    (huses : ((columns ++ sources.filterMap FromItem.condition ++ selection.toList).flatMap
      Expression.qualifiers).map (NameUse.qualifier, ·) ⊆ uses)
    (hfrees : (Block.of scope sources columns selection).Frees recurse newName) :
    (Block.of (scope.rename newName) (FromItem.rename newName sources)
      (columns.map (Expression.rename newName))
        (selection.map (Expression.rename newName))).events recurse =
      (Block.of scope sources columns selection).events recurse := by
  have howners : ∀ column ∈ (Block.of scope sources columns selection).inspected recurse,
      ((scope.bindItems sources).rename newName).resolve (column.1.map newName) =
        (scope.bindItems sources).resolve column.1 := by
    rintro ⟨qualifier, column⟩ hcolumn
    refine hrenames.resolve_rename (hwithin.bindItems hsources) ?_ ?_
    · rintro name rfl
      exact huses (List.mem_map_of_mem (mem_qualifiers_of_mem_inspected hcolumn))
    · rintro name rfl
      exact hfrees name column hcolumn
  -- The columns looked up and the events are listed alike: projection, join conditions, predicate.
  simp only [Block.inspected, List.forall_mem_append, List.forall_mem_flatMap] at howners
  obtain ⟨⟨hcolumns, hjoins⟩, hown⟩ := howners
  rw [Block.events, Block.events]
  simp only [Block.of, hrenames.bindItems_rename hwithin hsources,
    FromItem.joinConditions_rename, Option.toList_map, List.flatMap_map]
  congr 1
  · congr 1
    · exact List.flatMap_congr fun expression hmem =>
        columnEvents_rename .selected (hcolumns expression hmem)
    · exact List.flatMap_congr fun condition hmem =>
        conditionEvents_rename recurse (hjoins condition hmem)
  · exact List.flatMap_congr fun condition hmem =>
      conditionEvents_rename recurse (hown condition hmem)

/-! ## Renamed queries -/

mutual

/-- A renamed query records under the renamed scope what it recorded. -/
theorem Renames.events_rename (hrenames : Renames newName uses) (recurse : Bool) {scope : Scope}
    (hwithin : scope.Within uses) {query : Select} (huses : query.uses ⊆ uses)
    (hfrees : ∀ block ∈ query.blocks scope, block.Frees recurse newName) :
    (query.rename newName).events recurse (scope.rename newName) =
      query.events recurse scope := by
  match query with
  | ⟨ctes, sources, columns, selection, union⟩ =>
    simp only [Select.uses, List.append_subset] at huses
    obtain ⟨⟨hctes, hsources, hexpressions⟩, hunion⟩ := huses
    simp only [Select.blocks, List.forall_mem_append, List.forall_mem_singleton] at hfrees
    obtain ⟨⟨hcteBlocks, hitemBlocks, hblock⟩, hbranchBlocks⟩ := hfrees
    have houter := hwithin.addCtes hctes
    rw [Select.rename, Select.events, Select.events]
    simp only [CommonTable.names_rename, Scope.rename_addCtes]
    -- The block and the branches start from the same scope, which has no alias of the block yet.
    rw [hrenames.cteEvents_rename recurse hwithin hctes hcteBlocks,
      hrenames.itemEvents_rename recurse houter hsources hitemBlocks,
      hrenames.blockEvents_rename recurse houter hsources hexpressions hblock,
      hrenames.branchEvents_rename recurse houter hunion hbranchBlocks]

theorem Renames.cteEvents_rename (hrenames : Renames newName uses) (recurse : Bool) {scope : Scope}
    (hwithin : scope.Within uses) {ctes : List CommonTable} (huses : CommonTable.uses ctes ⊆ uses)
    (hfrees : ∀ block ∈ CommonTable.blocks scope ctes, block.Frees recurse newName) :
    CommonTable.events recurse (scope.rename newName) (CommonTable.rename newName ctes) =
      CommonTable.events recurse scope ctes := by
  match ctes with
  | [] => rfl
  | ⟨name, query⟩ :: rest =>
    simp only [CommonTable.uses, List.cons_subset, List.append_subset] at huses
    obtain ⟨hname, hquery, hrest⟩ := huses
    rw [CommonTable.blocks, List.forall_mem_append] at hfrees
    rw [CommonTable.rename, CommonTable.events, CommonTable.events,
      hrenames.events_rename recurse hwithin hquery hfrees.1]
    exact congrArg _
      (hrenames.cteEvents_rename recurse (hwithin.addCte hname) hrest hfrees.2)

theorem Renames.itemEvents_rename (hrenames : Renames newName uses) (recurse : Bool)
    {scope : Scope} (hwithin : scope.Within uses) {items : List FromItem}
    (huses : FromItem.uses items ⊆ uses)
    (hfrees : ∀ block ∈ FromItem.blocks scope items, block.Frees recurse newName) :
    FromItem.events recurse (scope.rename newName) (FromItem.rename newName items) =
      FromItem.events recurse scope items := by
  match items with
  | [] => rfl
  | item :: rest =>
    rw [FromItem.uses, List.append_subset] at huses
    rw [FromItem.blocks, List.forall_mem_append] at hfrees
    rw [FromItem.rename, FromItem.events, FromItem.events,
      hrenames.ownEvents_rename recurse hwithin huses.1 hfrees.1,
      hrenames.bindItem_renameOwn hwithin huses.1,
      hrenames.itemEvents_rename recurse (hwithin.bindItem huses.1) huses.2 hfrees.2]

theorem Renames.ownEvents_rename (hrenames : Renames newName uses) (recurse : Bool)
    {scope : Scope} (hwithin : scope.Within uses) {item : FromItem} (huses : item.ownUses ⊆ uses)
    (hfrees : ∀ block ∈ item.ownBlocks scope, block.Frees recurse newName) :
    FromItem.ownEvents recurse (scope.rename newName) (FromItem.renameOwn newName item) =
      FromItem.ownEvents recurse scope item := by
  match item with
  | ⟨.table name, _, _, _⟩ => rfl
  | ⟨.subquery query, _, _, _⟩ =>
    rw [FromItem.ownUses, List.append_subset] at huses
    rw [FromItem.ownBlocks] at hfrees
    rw [FromItem.renameOwn, FromItem.ownEvents, FromItem.ownEvents]
    exact hrenames.events_rename recurse hwithin huses.1 hfrees

theorem Renames.branchEvents_rename (hrenames : Renames newName uses) (recurse : Bool)
    {scope : Scope} (hwithin : scope.Within uses) {branches : List Select}
    (huses : Select.branchUses branches ⊆ uses)
    (hfrees : ∀ block ∈ Select.branchBlocks scope branches, block.Frees recurse newName) :
    Select.branchEvents recurse (scope.rename newName) (Select.renameBranches newName branches) =
      Select.branchEvents recurse scope branches := by
  match branches with
  | [] => rfl
  | branch :: rest =>
    rw [Select.branchUses, List.append_subset] at huses
    rw [Select.branchBlocks, List.forall_mem_append] at hfrees
    rw [Select.renameBranches, Select.branchEvents, Select.branchEvents,
      hrenames.events_rename recurse hwithin huses.1 hfrees.1,
      hrenames.branchEvents_rename recurse hwithin huses.2 hfrees.2]

end

end Renames

/-! ## Renamed aliases in a run -/

theorem analyzeStatements_eq (options : Options) (statements : List Statement) :
    analyzeStatements options statements =
      ⟨(registryOf options statements).graph,
        issuesFrom 0 (statements.map (fun statement => ⟨statement, none⟩))⟩ := rfl

/-- A query may stand for another one in any run if it records the same. -/
theorem analyzeStatements_congr_select (options : Options) {query other : Select}
    (hevents : query.events options.recurseConditions ⟨[], []⟩ =
      other.events options.recurseConditions ⟨[], []⟩) (before after : List Statement) :
    analyzeStatements options (before ++ .select query :: after) =
      analyzeStatements options (before ++ .select other :: after) := by
  have hregistry : registryOf options (before ++ .select query :: after) =
      registryOf options (before ++ .select other :: after) := by
    simp only [registryOf_eq, List.flatMap_append, List.flatMap_cons, Statement.events, hevents]
  rw [analyzeStatements_eq, analyzeStatements_eq, hregistry, List.map_append, List.map_append,
    issuesFrom_append, issuesFrom_append]
  rfl

/-- Aliases may be renamed all at once, and even trade names, as long as they are told apart. -/
theorem analyzeStatements_rename (options : Options) {query : Select} {newName : String → String}
    (hrenames : Renames newName query.uses)
    (hfrees : ∀ block ∈ query.blocks ⟨[], []⟩, block.Frees options.recurseConditions newName)
    (before after : List Statement) :
    analyzeStatements options (before ++ .select (query.rename newName) :: after) =
      analyzeStatements options (before ++ .select query :: after) :=
  analyzeStatements_congr_select options
    (hrenames.events_rename options.recurseConditions (Scope.within_empty _)
      (List.Subset.refl _) hfrees) before after

/-- A name that is used nowhere is told apart from all others. -/
theorem renames_update {uses : List (NameUse × String)} {old new : String}
    (hnew : ∀ use, (use, new) ∉ uses) (hold : ∀ use, use.IsFixed → (use, old) ∉ uses) :
    Renames (Function.update id old new) uses where
  injOn := by
    have hfresh : ∀ name, (∃ use, (use, name) ∈ uses) → new ≠ name := by
      rintro name ⟨use, hname⟩ rfl
      exact hnew use hname
    intro first hfirst second hsecond heq
    rw [Function.update_apply, Function.update_apply] at heq
    split at heq <;> rename_i hfirstOld <;> split at heq <;> rename_i hsecondOld
    · rw [hfirstOld, hsecondOld]
    · exact absurd heq (hfresh second hsecond)
    · exact absurd heq.symm (hfresh first hfirst)
    · exact heq
  fixes := by
    intro use name hname hfixed
    refine Function.update_of_ne ?_ new id
    rintro rfl
    exact hold use hfixed hname

/-- An alias may be given any name that the query uses nowhere.  Its old name must not be that of a
common table or the last segment of a dotted name, and has to be bound wherever a block looks it up.
Then the query has the new name wherever it had the old one, and the result is the same, ids and
issues included, whatever is read before and after. -/
theorem analyzeStatements_renameAlias (options : Options) {query : Select} {old new : String}
    (hnew : ∀ use, (use, new) ∉ query.uses) (hcte : (.commonTable, old) ∉ query.uses)
    (hsegment : (.segment, old) ∉ query.uses)
    (hbound : ∀ block ∈ query.blocks ⟨[], []⟩,
      ∀ column ∈ block.inspected options.recurseConditions, column.1 = some old →
        (block.scope.bindings.lookup old).isSome)
    (before after : List Statement) :
    let newName := Function.update id old new
    (query.rename newName).uses = query.uses.map (Prod.map id newName) ∧
      analyzeStatements options (before ++ .select (query.rename newName) :: after) =
        analyzeStatements options (before ++ .select query :: after) := by
  intro newName
  have hold : ∀ use : NameUse, use.IsFixed → (use, old) ∉ query.uses := by
    intro use hfixed
    cases use with
    | commonTable => exact hcte
    | segment => exact hsegment
    | aliasName | qualifier => cases hfixed
  have hrenames : Renames newName query.uses := renames_update hnew hold
  refine ⟨hrenames.uses_rename (List.Subset.refl _),
    analyzeStatements_rename options hrenames ?_ before after⟩
  intro block hblock qualifier column hcolumn hfree
  refine Function.update_of_ne ?_ new id
  rintro rfl
  have hsome := hbound block hblock _ hcolumn rfl
  rw [hfree] at hsome
  cases hsome

/-- `WITH c AS (SELECT a.id FROM raw AS a) SELECT d.total FROM orders AS a
JOIN customers AS other ON a.customer = other.id, (SELECT a.total FROM lines) AS d,
(SELECT a.amount FROM sums AS a) AS e UNION SELECT a.id FROM c AS a` -/
def Select.aliasing : Select :=
  let condition : Expression :=
    .binary .eq (.column (some "a") "customer") (.column (some "other") "id")
  let inner (sources : List FromItem) (name : String) : Select :=
    { sources := sources, columns := [.column (some "a") name] }
  { ctes := [⟨"c", inner [{ source := .table "raw", aliasName := some "a" }] "id"⟩]
    sources :=
      [{ source := .table "orders", aliasName := some "a" },
        { source := .table "customers", aliasName := some "other", join := true,
          condition := some condition },
        { source := .subquery (inner [{ source := .table "lines" }] "total"),
          aliasName := some "d" },
        { source := .subquery (inner [{ source := .table "sums", aliasName := some "a" }] "amount"),
          aliasName := some "e" }]
    columns := [.column (some "d") "total"]
    union := [inner [{ source := .table "c", aliasName := some "a" }] "id"] }

/-- `a` is bound outside and again inside, to tables and a common table, and may be called `b`. -/
theorem analyzeStatements_aliasing :
    ((∀ use, (use, "b") ∉ Select.aliasing.uses) ∧
      (.commonTable, "a") ∉ Select.aliasing.uses ∧ (.segment, "a") ∉ Select.aliasing.uses ∧
      ∀ block ∈ Select.aliasing.blocks ⟨[], []⟩, ∀ column ∈ block.inspected false,
        column.1 = some "a" → (block.scope.bindings.lookup "a").isSome) ∧
      (.aliasName, "a") ∈ Select.aliasing.uses ∧
      (registryOf {} [.select .aliasing]).columnNames =
        [("raw", "id"), ("orders", "total"), ("orders", "customer"), ("customers", "id"),
          ("sums", "amount")] ∧
      (Select.aliasing.rename (Function.update id "a" "b")).uses =
        Select.aliasing.uses.map (Prod.map id (Function.update id "a" "b")) ∧
      analyzeStatements {} [.select (Select.aliasing.rename (Function.update id "a" "b"))] =
        analyzeStatements {} [.select .aliasing] := by
  have hnew : ∀ use, (use, "b") ∉ Select.aliasing.uses := by
    intro use
    cases use <;> decide
  have hcte : (.commonTable, "a") ∉ Select.aliasing.uses := by decide
  have hsegment : (.segment, "a") ∉ Select.aliasing.uses := by decide
  have hbound : ∀ block ∈ Select.aliasing.blocks ⟨[], []⟩, ∀ column ∈ block.inspected false,
      column.1 = some "a" → (block.scope.bindings.lookup "a").isSome := by decide
  exact ⟨⟨hnew, hcte, hsegment, hbound⟩, by decide, by decide,
    analyzeStatements_renameAlias {} hnew hcte hsegment hbound [] []⟩

end SqlLineage
