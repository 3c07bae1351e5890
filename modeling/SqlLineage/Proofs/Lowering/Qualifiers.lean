import SqlLineage.Proofs.Analysis.Blocks
import SqlLineage.Proofs.Lowering.JoinConditions
import SqlLineage.Proofs.Lowering.Places

/-!
# Qualifiers of a parsed query

A factor offers its alias as a qualifier for columns; a table without an alias offers its name, in
full or its last segment.  A query is qualified when every column qualifier in it is offered by a
factor of its own block, or by an earlier factor in a FROM list around it.  Some of the offers leave
no trace in the reduced query: a group of joins loses its alias, rows that come from no table and a
relation that is reshaped are reduced to nothing, and the last segment of a name need not be one of
its text.
-/

namespace SqlLineage

open Sql

/-! ## Factors at any depth -/

/-- The factors in all FROM clauses of a query.  Queries inside expressions are kept as text and have
none. -/
def Sql.Query.allFactors (query : Query) : List TableFactor :=
  query.places.flatMap (fun place => place.block.factors)

/-- The name of a factor that is a named table and no call. -/
def Sql.TableFactor.plainTable? : TableFactor → Option String
  | .table name none _ _ => some name.plain
  | _ => none

/-- The name of a table function. -/
def Sql.TableFactor.call? : TableFactor → Option String
  | .table name (some _) _ _ => some name.plain
  | _ => none

/-- The named tables in the FROM clauses of a query that are no calls. -/
def Sql.Query.plainTables (query : Query) : List String :=
  query.allFactors.filterMap TableFactor.plainTable?

/-- The table functions among the factors of a block. -/
def Sql.Select.calls (block : Sql.Select) : List String :=
  block.factors.filterMap TableFactor.call?

/-! ## What a factor offers -/

/-- The last segments of a dotted name: its last part, and what stands behind the last dot of its
text.  The two differ where a quoted part has a dot in it. -/
def Sql.ObjectName.lastSegments (name : ObjectName) : List String :=
  name.lastPart :: (lastSegment? name.plain).toList

/-- The qualifiers that a factor offers. -/
def Sql.TableFactor.handles : TableFactor → List String
  | .table name _ none _ => name.plain :: name.lastSegments
  | .table _ _ (some aliasName) _ => [aliasName.plain]
  | .derived _ _ aliasName => aliasName.toList.map TableAlias.plain
  | .nested _ aliasName => aliasName.toList.map TableAlias.plain
  | .rows _ aliasName => aliasName.toList.map TableAlias.plain
  | .reshaped _ _ aliasName => aliasName.toList.map TableAlias.plain

/-- The offers of a factor that may leave no trace in the reduced query. -/
def Sql.TableFactor.silentHandles : TableFactor → List String
  | .table name _ none _ => name.lastSegments
  | .nested _ aliasName => aliasName.toList.map TableAlias.plain
  | .rows _ aliasName => aliasName.toList.map TableAlias.plain
  | .reshaped _ _ aliasName => aliasName.toList.map TableAlias.plain
  | _ => []

/-- The silent offers of all factors of a query. -/
def Sql.Query.silentHandles (query : Query) : List String :=
  query.allFactors.flatMap TableFactor.silentHandles

/-! ## Qualifiers of a block -/

/-- The qualifiers in an expression. -/
def Sql.Expr.qualifiers : Expr → List String
  | .path parts =>
    match (parts.map Ident.value).dropLast with
    | [] => []
    | qualifier => [".".intercalate qualifier]
  | .paren inner => inner.qualifiers
  | .binary _ left right => left.qualifiers ++ right.qualifiers
  | .qualifiedWildcard name => [name.plain]
  | _ => []

/-- The qualifiers in an item of a projection. -/
def Sql.SelectItem.qualifiers : SelectItem → List String
  | .expr item _ => item.qualifiers
  | .qualifiedWildcard name _ => [name.plain]
  | .exprWildcard item _ => item.qualifiers
  | .wildcard _ => []

/-- The condition of a join, if it is written out. -/
def Sql.JoinConstraint.condition? : JoinConstraint → Option Expr
  | .on condition => some condition
  | _ => .none

/-- The join conditions of a relation and those joined to it. -/
def Sql.TableWithJoins.conditions (source : TableWithJoins) : List Expr :=
  source.allJoins.filterMap (fun join => join.constraint.condition?)

/-- The qualifiers in the projection, the join conditions and the predicate of a block. -/
def Sql.Select.qualifiers (block : Sql.Select) : List String :=
  block.projection.flatMap SelectItem.qualifiers
    ++ (block.sources.flatMap TableWithJoins.conditions).flatMap Expr.qualifiers
    ++ block.selection.toList.flatMap Expr.qualifiers

/-- The qualifiers that the factors of a block offer. -/
def Sql.Select.handles (block : Sql.Select) : List String :=
  block.factors.flatMap TableFactor.handles

/-! ## Qualifiers of what a block is reduced to -/

theorem Expression.qualifiers_ofPath (parts : List Ident) :
    (Expression.ofPath parts).qualifiers = (Expr.path parts).qualifiers := by
  rw [Expression.ofPath, Expr.qualifiers]
  cases hparts : (parts.map Ident.value).reverse with
  | nil =>
    rw [List.reverse_eq_nil_iff] at hparts
    rw [hparts]
    rfl
  | cons name rest =>
    have hvalues : parts.map Ident.value = rest.reverse ++ [name] := by
      rw [← List.reverse_reverse (parts.map Ident.value), hparts, List.reverse_cons]
    rw [hvalues, List.dropLast_concat]
    cases rest with
    | nil => rfl
    | cons last front =>
      obtain ⟨first, middle, hfirst⟩ := List.exists_cons_of_ne_nil
        (List.reverse_ne_nil_iff.2 (List.cons_ne_nil last front))
      rw [hfirst]
      simp only [qualifiers, Option.toList_some, hfirst]

/-- Reducing an expression adds no qualifier. -/
theorem Expression.mem_qualifiers_of_ofSyntax {expression : Expr} {qualifier : String}
    (hmem : qualifier ∈ (Expression.ofSyntax expression).qualifiers) :
    qualifier ∈ expression.qualifiers := by
  induction expression with
  | path parts => rwa [← Expression.qualifiers_ofPath parts]
  | paren inner ih =>
    rw [Expr.qualifiers]
    exact ih hmem
  | binary operator left right ihleft ihright =>
    rw [Expr.qualifiers, List.mem_append]
    rw [Expression.ofSyntax] at hmem
    cases hoperator : Operator.ofSyntax? operator with
    | none => simp [hoperator, qualifiers] at hmem
    | some kept =>
      rw [hoperator, qualifiers, List.mem_append] at hmem
      exact hmem.imp ihleft ihright
  | ident name => simp [Expression.ofSyntax, qualifiers] at hmem
  | wildcard => simp [Expression.ofSyntax, qualifiers] at hmem
  | qualifiedWildcard name => simp [Expression.ofSyntax, qualifiers] at hmem
  | other text => simp [Expression.ofSyntax, qualifiers] at hmem

theorem Expression.mem_qualifiers_of_ofItem {item : SelectItem} {qualifier : String}
    (hmem : qualifier ∈ (Expression.ofItem item).qualifiers) : qualifier ∈ item.qualifiers := by
  cases item with
  | expr expression aliasName => exact mem_qualifiers_of_ofSyntax hmem
  | wildcard options => simp [Expression.ofItem, qualifiers] at hmem
  | qualifiedWildcard name options =>
    simpa [Expression.ofItem, qualifiers, SelectItem.qualifiers] using hmem
  | exprWildcard expression options => simp [Expression.ofItem, qualifiers] at hmem

/-- The condition that a join keeps is the one that is written out. -/
theorem Expression.condition_of_ofJoin {kind : Sql.JoinKind} {constraint : JoinConstraint}
    {found : Expression} (hfound : Expression.ofJoin kind constraint = some found) :
    ∃ condition, constraint.condition? = some condition ∧
      Expression.ofSyntax condition = found := by
  match constraint with
  | .on condition =>
    refine ⟨condition, rfl, ?_⟩
    cases kind <;> simp_all [Expression.ofJoin]
  | .using _ => cases kind <;> simp [Expression.ofJoin] at hfound
  | .natural => cases kind <;> simp [Expression.ofJoin] at hfound
  | .none => cases kind <;> simp [Expression.ofJoin] at hfound

theorem condition_of_mem_ofList {sources : List TableWithJoins} {item : FromItem}
    {found : Expression} (hitem : item ∈ FromItem.ofList sources)
    (hfound : item.condition = some found) :
    ∃ condition ∈ sources.flatMap TableWithJoins.conditions,
      Expression.ofSyntax condition = found := by
  have hmem : found ∈ (FromItem.ofList sources).filterMap FromItem.condition :=
    List.mem_filterMap.2 ⟨item, hitem, hfound⟩
  rw [conditions_ofList] at hmem
  obtain ⟨join, hjoin, hcondition⟩ :=
    List.mem_filterMap.1 ((keptConditions_sublist _).subset hmem)
  obtain ⟨source, hsource, hinside⟩ := List.mem_flatMap.1 hjoin
  obtain ⟨condition, hwritten, heq⟩ := Expression.condition_of_ofJoin hcondition
  have hlisted : condition ∈ source.conditions := List.mem_filterMap.2 ⟨join, hinside, hwritten⟩
  exact ⟨condition, List.mem_flatMap.2 ⟨source, hsource, hlisted⟩, heq⟩

/-- The analysis looks at no other qualifiers of a block than those that are written in it. -/
theorem mem_qualifiers_of_inspected {recurse : Bool} {scope : Scope} {block : Sql.Select}
    {qualifier name : String}
    (hmem : (some qualifier, name) ∈ Block.inspected recurse
      ⟨scope, FromItem.ofList block.sources, block.projection.map Expression.ofItem,
        block.selection.map Expression.ofSyntax⟩) :
    qualifier ∈ block.qualifiers := by
  rw [Block.inspected, List.mem_append, List.mem_append] at hmem
  rw [Select.qualifiers, List.mem_append, List.mem_append]
  obtain (hprojection | hjoins) | hselection := hmem
  · left; left
    obtain ⟨expression, hexpression, hcolumn⟩ := List.mem_flatMap.1 hprojection
    obtain ⟨item, hitem, rfl⟩ := List.mem_map.1 hexpression
    have hqualifier := Expression.mem_qualifiers_of_operand hcolumn
    exact List.mem_flatMap.2 ⟨item, hitem, Expression.mem_qualifiers_of_ofItem hqualifier⟩
  · left; right
    obtain ⟨found, hfound, hcolumn⟩ := List.mem_flatMap.1 hjoins
    obtain ⟨item, hitem, hjoin⟩ := List.mem_filterMap.1 hfound
    obtain ⟨condition, hmem, rfl⟩ :=
      condition_of_mem_ofList hitem (FromItem.condition_of_joinCondition? hjoin)
    have hqualifier := Expression.mem_qualifiers_of_operands hcolumn
    exact List.mem_flatMap.2 ⟨condition, hmem, Expression.mem_qualifiers_of_ofSyntax hqualifier⟩
  · right
    obtain ⟨expression, hexpression, hcolumn⟩ := List.mem_flatMap.1 hselection
    rw [Option.mem_toList, Option.map_eq_some_iff] at hexpression
    obtain ⟨selection, hselection, rfl⟩ := hexpression
    have hqualifier := Expression.mem_qualifiers_of_operands hcolumn
    exact List.mem_flatMap.2 ⟨selection, Option.mem_toList.2 hselection,
      Expression.mem_qualifiers_of_ofSyntax hqualifier⟩

/-! ## Qualified queries -/

/-- The offers behind a step of the way to a block. -/
def Sql.Step.offers (outer : List String) : Step → List String
  | .behind factors => outer ++ factors.flatMap TableFactor.handles
  | _ => outer

/-- The offers of the earlier factors in the FROM clauses around a place. -/
def Sql.Place.offers (place : Place) : List String :=
  place.path.foldl Step.offers []

/-- Every qualifier in a query is offered by a factor of its own block, or by an earlier factor in a
FROM clause around it. -/
def Sql.Query.Qualified (query : Query) : Prop :=
  ∀ place ∈ query.places, place.kept →
    ∀ qualifier ∈ place.block.qualifiers, qualifier ∈ place.offers ++ place.block.handles

instance (query : Query) : Decidable query.Qualified :=
  inferInstanceAs (Decidable (∀ place ∈ query.places, place.kept →
    ∀ qualifier ∈ place.block.qualifiers, qualifier ∈ place.offers ++ place.block.handles))

end SqlLineage
