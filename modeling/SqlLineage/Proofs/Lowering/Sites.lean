import SqlLineage.Proofs.Analysis.Blocks
import SqlLineage.Proofs.Lowering.Places

/-!
# The blocks of a reduced query

Reducing a parsed query lays the branches of its set operations out in a row behind the first, and
moves the common tables that stand over the first branch to the front of the row.  So on the way to
a block the analysis has another scope than the common tables in view there.  A site is a block with
both.  The main statement says that the sites of a query are the blocks of the reduced query.
-/

namespace SqlLineage

open Sql

/-! ## Scopes on the way to a block -/

/-- The scopes of the analysis at a step of the way: the one it has there, and inside a set
operation the one behind all common tables that stand over its first block. -/
structure Sql.Scopes where
  current : Scope := {}
  row : Option Scope := none

/-- The scope of the branches of a set operation, over whose first block stand those common tables
more.  Inside another set operation it is one row with the branches of that. -/
def Sql.Scopes.branches (scopes : Scopes) (opening : List String) : Scope :=
  scopes.row.getD (scopes.current.addCtes opening)

/-- The scope behind factors. -/
def Scope.bindFactors (scope : Scope) (factors : List TableFactor) : Scope :=
  scope.bindItems (factors.filterMap TableFactor.item?)

/-- The scopes of the analysis behind a step. -/
def Sql.Step.scopes (scopes : Scopes) : Step → Scopes
  | .clause _ _ => ⟨scopes.current, none⟩
  | .pastCte name => ⟨scopes.current.addCte name, none⟩
  | .body names => ⟨scopes.current.addCtes names, scopes.row⟩
  | .left opening => ⟨scopes.current, some (scopes.branches opening)⟩
  | .right opening => ⟨scopes.branches opening, some (scopes.branches opening)⟩
  | .behind factors => ⟨scopes.current.bindFactors factors, none⟩
  | .dropped => scopes

/-- A query block where it stands: the common tables in view there, and the scope that the analysis
has behind the relations of the block. -/
structure Sql.Site where
  visible : List String
  scope : Scope
  block : Sql.Select

/-- The block that a site is reduced to. -/
def Sql.Site.reduced (site : Site) : Block :=
  ⟨site.scope, FromItem.ofList site.block.sources,
    site.block.projection.map Expression.ofItem, site.block.selection.map Expression.ofSyntax⟩

namespace Sql.Place

/-- The scope of the analysis at a place, before the relations of its block. -/
def scopeUnder (scopes : Scopes) (place : Place) : Scope :=
  (place.path.foldl Step.scopes scopes).current

/-- The block that a place is reduced to. -/
def reducedUnder (scopes : Scopes) (place : Place) : Block :=
  Block.of (place.scopeUnder scopes) (FromItem.ofList place.block.sources)
    (place.block.projection.map Expression.ofItem) (place.block.selection.map Expression.ofSyntax)

/-- The blocks that the reduction keeps of places. -/
def blocks (scopes : Scopes) (places : List Place) : List Block :=
  (places.filter kept).map (reducedUnder scopes)

/-- The site of a place in a query that nothing is around. -/
def site (place : Place) : Site :=
  ⟨place.visible, (place.scopeUnder {}).bindItems (FromItem.ofList place.block.sources),
    place.block⟩

@[simp]
theorem blocks_append (scopes : Scopes) (first second : List Place) :
    blocks scopes (first ++ second) = blocks scopes first ++ blocks scopes second := by
  simp [blocks]

theorem blocks_below {step : Step} (hstep : step.isDropped = false) (scopes : Scopes)
    (places : List Place) :
    blocks scopes (places.map (below step)) = blocks (step.scopes scopes) places := by
  have hkept : kept ∘ below step = kept := funext fun place => by simp [hstep]
  rw [blocks, List.filter_map, List.map_map, hkept]
  rfl

theorem blocks_dropped (scopes : Scopes) (places : List Place) :
    blocks scopes (places.map (below .dropped)) = [] := by
  rw [blocks, List.map_eq_nil_iff, List.filter_eq_nil_iff]
  intro place hplace
  simp [kept_of_mem_dropped hplace]

end Sql.Place

/-- The sites of a query that nothing is around. -/
def Sql.Query.rootSites (query : Query) : List Site :=
  (query.places.filter Place.kept).map Place.site

theorem mem_rootSites {query : Query} {site : Site} :
    site ∈ query.rootSites ↔ ∃ place ∈ query.places, place.kept ∧ place.site = site := by
  simp [Query.rootSites, and_assoc]

/-! ## What reducing keeps -/

/-- A place in the joins binds nothing. -/
theorem Scope.bindItem_bare (scope : Scope) (item : FromItem) :
    scope.bindItem item.bare = scope.bindItem item := by
  obtain ⟨operand, aliasName, _, _⟩ := item
  cases operand with
  | table name => rfl
  | subquery query => cases aliasName <;> rfl

theorem Scope.bindItems_bare (scope : Scope) (items : List FromItem) :
    scope.bindItems (items.map FromItem.bare) = scope.bindItems items := by
  rw [bindItems, bindItems, List.foldl_map]
  simp only [bindItem_bare]

theorem Scope.bindItems_ofTable (scope : Scope) (source : TableWithJoins) :
    scope.bindItems (FromItem.ofTable source) = scope.bindFactors source.factors := by
  rw [bindFactors, ← items_ofTable, bindItems_bare]

/-- What a factor binds does not depend on how it is joined. -/
theorem Scope.bindItems_ofFactor (scope : Scope) (join : Bool) (condition : Option Expression)
    (factor : TableFactor) :
    scope.bindItems (FromItem.ofFactor join condition factor) =
      scope.bindFactors factor.factors := by
  rw [bindFactors, ← items_ofFactor join condition, bindItems_bare]

theorem Scope.bindItems_ofList (scope : Scope) (sources : List TableWithJoins) :
    scope.bindItems (FromItem.ofList sources) =
      scope.bindFactors (sources.flatMap TableWithJoins.factors) := by
  rw [bindFactors, ← items_ofList, bindItems_bare]

theorem Scope.bindFactors_append (scope : Scope) (first second : List TableFactor) :
    scope.bindFactors (first ++ second) = (scope.bindFactors first).bindFactors second := by
  rw [bindFactors, List.filterMap_append, bindItems_append]
  rfl

@[simp]
theorem Scope.ctes_bindFactors (scope : Scope) (factors : List TableFactor) :
    (scope.bindFactors factors).ctes = scope.ctes :=
  ctes_bindItems scope _

theorem Scope.addCtes_append (scope : Scope) (first second : List String) :
    scope.addCtes (first ++ second) = (scope.addCtes first).addCtes second :=
  List.foldl_append

theorem FromItem.blocks_regroup (scope : Scope) (join : Bool) (condition : Option Expression)
    (items : List FromItem) :
    FromItem.blocks scope (FromItem.regroup join condition items) =
      FromItem.blocks scope items := by
  match items with
  | [] => rfl
  | ⟨.table _, _, _, _⟩ :: _ => rfl
  | ⟨.subquery _, some _, _, _⟩ :: _ => rfl
  | ⟨.subquery _, none, _, _⟩ :: _ => rfl

theorem CommonTable.names_ofList (ctes : List Cte) :
    (CommonTable.ofList ctes).map CommonTable.name = Cte.names ctes := by
  induction ctes with
  | nil => rfl
  | cons cte rest ih =>
    obtain ⟨aliasName, materialized, query, source⟩ := cte
    rw [CommonTable.ofList, List.map_cons, ih]
    rfl

theorem CommonTable.blocks_append (scope : Scope) (first second : List CommonTable) :
    CommonTable.blocks scope (first ++ second) =
      CommonTable.blocks scope first
        ++ CommonTable.blocks (scope.addCtes (first.map CommonTable.name)) second := by
  induction first generalizing scope with
  | nil => simp [CommonTable.blocks]
  | cons cte rest ih =>
    obtain ⟨name, query⟩ := cte
    simp [CommonTable.blocks, ih, List.append_assoc]

theorem SetExpr.opening_eq (body : SetExpr) :
    (Select.ofBody body).ctes.map CommonTable.name = body.opening := by
  match body with
  | .select ⟨_, _, _, _, _, _, _, _⟩ => rfl
  | .query ⟨_, ctes, body, _⟩ =>
    rw [Select.ofBody, Select.ofQuery, SetExpr.opening]
    simp only [List.map_append, CommonTable.names_ofList, SetExpr.opening_eq body]
  | .operation _ left _ =>
    rw [Select.ofBody, SetExpr.opening]
    exact SetExpr.opening_eq left
  | .values _ | .table _ | .insert _ | .update _ | .delete _ | .merge _ | .directory _ => rfl

/-- The blocks of a query besides those of its common tables and its further branches. -/
def Select.headBlocks (scope : Scope) (query : Select) : List Block :=
  FromItem.blocks scope query.sources
    ++ [Block.of scope query.sources query.columns query.selection]

/-- The blocks of a query that may stand first in a row of branches.  The further branches have the
scope of the row. -/
def Select.rowBlocks (scopes : Scopes) (query : Select) : List Block :=
  CommonTable.blocks scopes.current query.ctes
    ++ Select.headBlocks (scopes.current.addCtes (query.ctes.map CommonTable.name)) query
    ++ Select.branchBlocks (scopes.branches (query.ctes.map CommonTable.name)) query.union

theorem Select.blocks_eq (scope : Scope) (query : Select) :
    query.blocks scope = query.rowBlocks ⟨scope, none⟩ := by
  obtain ⟨ctes, sources, columns, selection, union⟩ := query
  rfl

/-- Behind its own common tables, a query has the blocks of what it is without them. -/
theorem Select.rowBlocks_behind (scopes : Scopes) (ctes : List CommonTable) (query : Select) :
    Select.rowBlocks scopes { query with ctes := ctes ++ query.ctes } =
      CommonTable.blocks scopes.current ctes
        ++ query.rowBlocks ⟨scopes.current.addCtes (ctes.map CommonTable.name), scopes.row⟩ := by
  simp only [rowBlocks, CommonTable.blocks_append, List.map_append, Scopes.branches,
    Scope.addCtes_append, List.append_assoc]
  rfl

/-- The blocks of a set operation are those of its operands, with the right one behind the row that
the left one starts. -/
theorem Select.rowBlocks_operation (scopes : Scopes) (first branch : Select) :
    Select.rowBlocks scopes
        { first with union := first.union ++ { branch with union := [] } :: branch.union } =
      first.rowBlocks ⟨scopes.current, some (scopes.branches (first.ctes.map CommonTable.name))⟩
        ++ branch.rowBlocks ⟨scopes.branches (first.ctes.map CommonTable.name),
          some (scopes.branches (first.ctes.map CommonTable.name))⟩ := by
  simp only [rowBlocks, Select.branchBlocks_append, Select.branchBlocks, Select.blocks_eq,
    Scopes.branches, Option.getD_some, List.append_nil, List.append_assoc]
  rfl

/-! ## The places are the blocks -/

mutual

theorem blocks_ofQuery (scopes : Scopes) (query : Query) :
    (Select.ofQuery query).rowBlocks scopes = Place.blocks scopes query.places := by
  match query with
  | ⟨recursive, ctes, body, _⟩ =>
    rw [Select.ofQuery, Select.rowBlocks_behind, CommonTable.names_ofList, Query.places,
      Place.blocks_append, Place.blocks_below rfl, Place.blocks_below rfl, blocks_ofCtes,
      blocks_ofBody _ body]
    rfl

theorem blocks_ofCtes (scopes : Scopes) (ctes : List Cte) :
    CommonTable.blocks scopes.current (CommonTable.ofList ctes) =
      Place.blocks ⟨scopes.current, none⟩ (Cte.places ctes) := by
  match ctes with
  | [] => rfl
  | ⟨aliasName, _, query, _⟩ :: rest =>
    rw [CommonTable.ofList, CommonTable.blocks, Cte.places, Place.blocks_append,
      Place.blocks_below rfl, Select.blocks_eq, blocks_ofQuery _ query]
    exact congrArg _ (blocks_ofCtes ⟨scopes.current.addCte aliasName.plain, none⟩ rest)

theorem blocks_ofBody (scopes : Scopes) (body : SetExpr) :
    (Select.ofBody body).rowBlocks scopes = Place.blocks scopes body.places := by
  match body with
  | .select ⟨_, _, projection, _, sources, _, selection, _⟩ =>
    have hsources := blocks_ofSources scopes [] sources
    rw [SetExpr.places, Select.places, Place.blocks_append, ← hsources, Select.ofBody,
      Select.rowBlocks]
    exact List.append_nil _
  | .query query => exact blocks_ofQuery scopes query
  | .operation _ left right =>
    rw [Select.ofBody, Select.rowBlocks_operation, SetExpr.opening_eq, SetExpr.places,
      Place.blocks_append, Place.blocks_below rfl, Place.blocks_below rfl, blocks_ofBody _ left,
      blocks_ofBody _ right]
    rfl
  | .insert ⟨_, _, _, _, some rows, _⟩ =>
    rw [SetExpr.places, Insert.places, Place.blocks_append, Place.blocks_dropped]
    rfl
  | .insert ⟨_, _, _, _, none, _⟩ => rfl
  | .update ⟨_, _, _, _, _, _, _⟩ =>
    rw [SetExpr.places, Update.places, Place.blocks_append, Place.blocks_dropped]
    rfl
  | .delete ⟨_, _, _, _, _, _⟩ =>
    rw [SetExpr.places, Delete.places, Place.blocks_append, Place.blocks_dropped]
    rfl
  | .values _ | .table _ | .merge _ | .directory _ => rfl

theorem blocks_ofSources (scopes : Scopes) (before : List TableFactor)
    (sources : List TableWithJoins) :
    FromItem.blocks (scopes.current.bindFactors before) (FromItem.ofList sources) =
      Place.blocks scopes (TableWithJoins.places before sources) := by
  match sources with
  | [] => rfl
  | source :: rest =>
    rw [FromItem.ofList, FromItem.blocks_append, TableWithJoins.places, Place.blocks_append,
      Scope.bindItems_ofTable, ← Scope.bindFactors_append, blocks_ofTable scopes before source,
      blocks_ofSources scopes _ rest]

theorem blocks_ofTable (scopes : Scopes) (before : List TableFactor) (source : TableWithJoins) :
    FromItem.blocks (scopes.current.bindFactors before) (FromItem.ofTable source) =
      Place.blocks scopes (TableWithJoins.ownPlaces before source) := by
  match source with
  | ⟨relation, joins⟩ =>
    rw [FromItem.ofTable, FromItem.blocks_append, TableWithJoins.ownPlaces, Place.blocks_append,
      Scope.bindItems_ofFactor, ← Scope.bindFactors_append,
      blocks_ofFactor scopes before false none relation, blocks_ofJoins scopes _ joins]

theorem blocks_ofJoins (scopes : Scopes) (before : List TableFactor) (joins : List Join) :
    FromItem.blocks (scopes.current.bindFactors before) (FromItem.ofJoins joins) =
      Place.blocks scopes (Join.places before joins) := by
  match joins with
  | [] => rfl
  | ⟨_, kind, constraint, relation⟩ :: rest =>
    rw [FromItem.ofJoins, FromItem.blocks_append, Join.places, Place.blocks_append,
      Scope.bindItems_ofFactor, ← Scope.bindFactors_append,
      blocks_ofFactor scopes before true (Expression.ofJoin kind constraint) relation,
      blocks_ofJoins scopes _ rest]

theorem blocks_ofFactor (scopes : Scopes) (before : List TableFactor) (join : Bool)
    (condition : Option Expression) (factor : TableFactor) :
    FromItem.blocks (scopes.current.bindFactors before)
        (FromItem.ofFactor join condition factor) =
      Place.blocks scopes (TableFactor.places before factor) := by
  match factor with
  | .table _ _ _ _ => rfl
  | .derived _ query _ =>
    rw [FromItem.ofFactor, FromItem.blocks, FromItem.blocks, FromItem.ownBlocks, List.append_nil,
      Select.blocks_eq, blocks_ofQuery _ query, TableFactor.places, Place.blocks_below rfl]
    rfl
  | .nested tables _ =>
    rw [FromItem.ofFactor, FromItem.blocks_regroup, TableFactor.places,
      blocks_ofTable scopes before tables]
  | .rows _ _ => rfl
  | .reshaped _ _ _ =>
    rw [TableFactor.places, Place.blocks_dropped]
    rfl

end

/-- The blocks of a reduced query are those of its sites. -/
theorem Sql.Query.blocks_rootSites (query : Query) :
    (Select.ofQuery query).blocks ⟨[], []⟩ = query.rootSites.map Site.reduced := by
  rw [Select.blocks_eq, blocks_ofQuery, rootSites, List.map_map]
  rfl

/-! ## What a site reads -/

theorem FromItem.read?_eq_some_iff {scope : Scope} {item : FromItem} {name : String} :
    item.read? scope = some name ↔ item.tableName? = some name ∧ name ∉ scope.ctes := by
  obtain ⟨source, aliasName, join, condition⟩ := item
  cases source with
  | table table =>
    rw [read?, tableName?]
    by_cases hcte : scope.isCte table
    · have hmem : table ∈ scope.ctes := Scope.isCte_iff.1 hcte
      rw [if_pos hcte]
      suffices table = name → name ∈ scope.ctes by simpa
      rintro rfl
      exact hmem
    · have hmem : table ∉ scope.ctes := fun hmem => hcte (Scope.isCte_iff.2 hmem)
      rw [if_neg hcte]
      suffices table = name → name ∉ scope.ctes by simpa
      rintro rfl
      exact hmem
  | subquery query => simp [read?, tableName?]

/-- The block of a site reads the tables in its FROM clause that are no common tables in the scope
of the analysis. -/
theorem Sql.Site.mem_reduced_reads {site : Site} {name : String} :
    name ∈ site.reduced.reads ↔ name ∈ site.block.tables ∧ name ∉ site.scope.ctes := by
  have htables : site.block.tables =
      (FromItem.ofList site.block.sources).filterMap FromItem.tableName? :=
    (tableNames_ofList site.block.sources).symm
  rw [htables, Block.reads, List.mem_filterMap, List.mem_filterMap]
  constructor
  · rintro ⟨item, hitem, hread⟩
    obtain ⟨hname, hcte⟩ := FromItem.read?_eq_some_iff.1 hread
    exact ⟨⟨item, hitem, hname⟩, hcte⟩
  · rintro ⟨⟨item, hitem, hname⟩, hcte⟩
    exact ⟨item, hitem, FromItem.read?_eq_some_iff.2 ⟨hname, hcte⟩⟩

end SqlLineage
