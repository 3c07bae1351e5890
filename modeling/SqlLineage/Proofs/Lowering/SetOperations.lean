import SqlLineage.Proofs.Analysis.Events
import SqlLineage.Proofs.Registry.Inventory
import SqlLineage.Statement.OfSyntax

/-!
# Set operations, branch by branch

Reducing a set operation turns the tree of its operands into one row of branches: the first block,
and the others behind it.  The row of an operation is the row of its left operand followed by that
of its right one, whichever way the tree leans.  As long as no operand brings common tables of its
own, reading the row is reading the blocks at the leaves of the tree from left to right, each under
the scope that the whole tree has.  So what one branch binds is never in view in another.
-/

namespace SqlLineage

open Sql

/-! ## Leaves -/

/-- No operand of a set operation carries a WITH clause. -/
def Sql.SetExpr.BareOperands : SetExpr → Prop
  | .query ⟨_, ctes, body, _⟩ => ctes = [] ∧ body.BareOperands
  | .operation _ left right => left.BareOperands ∧ right.BareOperands
  | _ => True

/-- The query blocks at the leaves of a set operation, from left to right.  Rows that come from no
block, such as those of VALUES, are left out. -/
def Sql.SetExpr.leaves : SetExpr → List Sql.Select
  | .select block => [block]
  | .query ⟨_, _, body, _⟩ => body.leaves
  | .operation _ left right => left.leaves ++ right.leaves
  | _ => []

/-- Reads a block after others were done, under a scope that those have not changed. -/
def Sql.Select.readAfter (recurse : Bool) (scope : Scope) (done : Registry × List String)
    (block : Sql.Select) : Registry × List String :=
  let (registry, reads) := analyzeSelect recurse (Select.ofBlock block) scope done.1
  (registry, done.2 ++ reads)

/-- Reads blocks one after another, each under the same scope. -/
def Sql.Select.readInTurn (recurse : Bool) (scope : Scope) (blocks : List Sql.Select)
    (done : Registry × List String) : Registry × List String :=
  blocks.foldl (Select.readAfter recurse scope) done

/-! ## Rows of branches -/

/-- A query as the row of its branches, without what stands in front of the row. -/
def Select.row (query : Select) : List Select :=
  { query with ctes := [], union := [] } :: query.union

theorem row_ofBody_operation {operator : String} {left right : SetExpr}
    (hright : (Select.ofBody right).ctes = []) :
    (Select.ofBody (.operation operator left right)).row =
      (Select.ofBody left).row ++ (Select.ofBody right).row := by
  rw [Select.ofBody, Select.row, Select.row, Select.row, ← hright]
  rfl

/-- A body whose operands carry no WITH clause has nothing in front of its row. -/
theorem ctes_ofBody {body : SetExpr} (hbare : body.BareOperands) :
    (Select.ofBody body).ctes = [] := by
  match body with
  | .select ⟨_, _, _, _, _, _, _, _⟩ => rfl
  | .query ⟨_, ctes, body, _⟩ =>
    rw [SetExpr.BareOperands] at hbare
    rw [Select.ofBody, Select.ofQuery, hbare.1, CommonTable.ofList, List.nil_append]
    exact ctes_ofBody hbare.2
  | .operation _ left _ =>
    rw [SetExpr.BareOperands] at hbare
    rw [Select.ofBody]
    exact ctes_ofBody hbare.1
  | .values _ | .table _ | .insert _ | .update _ | .delete _ | .merge _ | .directory _ => rfl

section Rows

variable (recurse : Bool) (scope : Scope) (registry : Registry)

/-- A query is read by reading its common tables, then its row under the scope behind them. -/
theorem analyzeSelect_row (query : Select) :
    analyzeSelect recurse query scope registry =
      let (outer, between, reads) := analyzeCtes recurse query.ctes scope registry
      let (after, more) := analyzeBranches recurse query.row outer between
      (after, reads ++ more) := by
  obtain ⟨ctes, sources, columns, selection, union⟩ := query
  simp only [Select.row, analyzeSelect, analyzeCtes, analyzeBranches, List.nil_append,
    List.append_nil, List.append_assoc]

theorem analyzeBranches_append (first second : List Select) :
    analyzeBranches recurse (first ++ second) scope registry =
      let (between, reads) := analyzeBranches recurse first scope registry
      let (after, more) := analyzeBranches recurse second scope between
      (after, reads ++ more) := by
  induction first generalizing registry with
  | nil => simp only [List.nil_append, analyzeBranches]
  | cons branch rest ih =>
    simp only [List.cons_append, analyzeBranches, ih, List.append_assoc]

theorem Select.branchEvents_append (first second : List Select) :
    Select.branchEvents recurse scope (first ++ second) =
      Select.branchEvents recurse scope first ++ Select.branchEvents recurse scope second := by
  induction first with
  | nil => rfl
  | cons branch rest ih => simp only [List.cons_append, branchEvents, ih, List.append_assoc]

theorem Select.events_row (query : Select) :
    query.events recurse scope =
      CommonTable.events recurse scope query.ctes
        ++ Select.branchEvents recurse (scope.addCtes (query.ctes.map CommonTable.name))
          query.row := by
  obtain ⟨ctes, sources, columns, selection, union⟩ := query
  simp only [row, events, branchEvents, CommonTable.events, List.map_nil, Scope.addCtes_nil,
    List.nil_append, List.append_nil, List.append_assoc]

end Rows

/-! ## Reading the leaves -/

section Leaves

variable (recurse : Bool) (scope : Scope)

/-- Blocks that are read after others add what they read to what those have read. -/
theorem readInTurn_eq (blocks : List Sql.Select) (registry : Registry) (reads : List String) :
    Select.readInTurn recurse scope blocks (registry, reads) =
      let (after, more) := Select.readInTurn recurse scope blocks (registry, [])
      (after, reads ++ more) := by
  induction blocks generalizing registry reads with
  | nil => simp [Select.readInTurn]
  | cons block rest ih =>
    simp only [Select.readInTurn, List.foldl_cons, Select.readAfter] at ih ⊢
    rw [ih, ih _ ([] ++ _), List.nil_append, List.append_assoc]

/-- The row of a body is read by reading its leaves in turn. -/
theorem analyzeBranches_row {body : SetExpr} (hbare : body.BareOperands) (registry : Registry) :
    analyzeBranches recurse (Select.ofBody body).row scope registry =
      Select.readInTurn recurse scope body.leaves (registry, []) := by
  match body with
  | .select ⟨_, _, projection, _, sources, _, selection, _⟩ =>
    simp only [Select.ofBody, Select.ofBlock, Select.row, analyzeBranches, SetExpr.leaves,
      Select.readInTurn, Select.readAfter, List.foldl_cons, List.foldl_nil, List.append_nil,
      List.nil_append]
  | .query ⟨_, ctes, body, _⟩ =>
    rw [SetExpr.BareOperands] at hbare
    rw [Select.ofBody, Select.ofQuery, SetExpr.leaves]
    exact analyzeBranches_row hbare.2 registry
  | .operation _ left right =>
    rw [SetExpr.BareOperands] at hbare
    rw [row_ofBody_operation (ctes_ofBody hbare.2), analyzeBranches_append,
      analyzeBranches_row hbare.1 registry, SetExpr.leaves]
    simp only [analyzeBranches_row hbare.2, Select.readInTurn, List.foldl_append]
    exact (readInTurn_eq recurse scope right.leaves _ _).symm
  | .values _ | .table _ | .insert _ | .update _ | .delete _ | .merge _ | .directory _ => rfl

/-- The row of a body records what its leaves record, each by itself. -/
theorem branchEvents_row {body : SetExpr} (hbare : body.BareOperands) :
    Select.branchEvents recurse scope (Select.ofBody body).row =
      body.leaves.flatMap (fun leaf => (Select.ofBlock leaf).events recurse scope) := by
  match body with
  | .select ⟨_, _, projection, _, sources, _, selection, _⟩ =>
    simp only [Select.ofBody, Select.ofBlock, Select.row, Select.branchEvents, SetExpr.leaves,
      List.flatMap_cons, List.flatMap_nil]
  | .query ⟨_, ctes, body, _⟩ =>
    rw [SetExpr.BareOperands] at hbare
    rw [Select.ofBody, Select.ofQuery, SetExpr.leaves]
    exact branchEvents_row hbare.2
  | .operation _ left right =>
    rw [SetExpr.BareOperands] at hbare
    rw [row_ofBody_operation (ctes_ofBody hbare.2), Select.branchEvents_append,
      branchEvents_row hbare.1, branchEvents_row hbare.2, SetExpr.leaves, List.flatMap_append]
  | .values _ | .table _ | .insert _ | .update _ | .delete _ | .merge _ | .directory _ => rfl

end Leaves

/-- A set operation whose operands carry no WITH clause is read leaf by leaf, from left to right,
behind the common tables of the query itself.  What a leaf records depends on itself and on the
scope around the tree only, so no alias of another leaf takes part in it. -/
theorem analyzeSelect_leaves (recurse : Bool) {query : Query}
    (hbare : query.body.BareOperands) (scope : Scope) :
    (∀ registry,
      analyzeSelect recurse (Select.ofQuery query) scope registry =
        let (outer, done) := analyzeCtes recurse (CommonTable.ofList query.ctes) scope registry
        Select.readInTurn recurse outer query.body.leaves done) ∧
      (Select.ofQuery query).events recurse scope =
        CommonTable.events recurse scope (CommonTable.ofList query.ctes)
          ++ query.body.leaves.flatMap fun leaf => (Select.ofBlock leaf).events recurse
            (scope.addCtes ((CommonTable.ofList query.ctes).map CommonTable.name)) := by
  obtain ⟨recursive, ctes, body, tail⟩ := query
  have hctes : (Select.ofQuery ⟨recursive, ctes, body, tail⟩).ctes = CommonTable.ofList ctes := by
    rw [Select.ofQuery, ctes_ofBody hbare, List.append_nil]
  have hrow : (Select.ofQuery ⟨recursive, ctes, body, tail⟩).row = (Select.ofBody body).row := by
    rw [Select.ofQuery]
    rfl
  constructor
  · intro registry
    rw [analyzeSelect_row, hctes, hrow]
    simp only [analyzeBranches_row recurse _ hbare]
    exact (readInTurn_eq recurse _ body.leaves _ _).symm
  · rw [Select.events_row, hctes, hrow, branchEvents_row recurse _ hbare]

/-- `SELECT qualifier.column FROM table AS aliasName` -/
def Sql.SetExpr.selecting (qualifier column table : String) (aliasName : Option String) :
    SetExpr :=
  let named := aliasName.map fun word => ⟨⟨word, none⟩, ""⟩
  .select
    { projection := [.expr (.path [⟨qualifier, none⟩, ⟨column, none⟩]) none]
      sources := [⟨.table ⟨[.ident ⟨table, none⟩]⟩ none named "", []⟩] }

/-- `SELECT x.a FROM t AS x UNION (SELECT x.b FROM u EXCEPT SELECT t.c FROM s AS t)` -/
def Sql.Query.excepting : Query :=
  let operand : SetExpr :=
    .operation "EXCEPT" (.selecting "x" "b" "u" none) (.selecting "t" "c" "s" (some "t"))
  ⟨false, [], .operation "UNION" (.selecting "x" "a" "t" (some "x"))
    (.query ⟨false, [], operand, ""⟩), ""⟩

/-- The alias `x` of the first leaf means nothing in the second, nor the table `t` in the third. -/
theorem analyzeSelect_excepting :
    Query.excepting.body.BareOperands ∧
      Query.excepting.body.leaves.length = 3 ∧
      analyzeSelect false (Select.ofQuery .excepting) ⟨[], []⟩ {} =
        Select.readInTurn false ⟨[], []⟩ Query.excepting.body.leaves ({}, []) ∧
      (analyzeSelect false (Select.ofQuery .excepting) ⟨[], []⟩ {}).1.columnNames =
        [("t", "a"), ("x", "b"), ("s", "c")] := by
  have hbare : Query.excepting.body.BareOperands := ⟨trivial, rfl, trivial, trivial⟩
  have hread := (analyzeSelect_leaves false hbare ⟨[], []⟩).1 {}
  exact ⟨hbare, rfl, hread, by decide⟩

end SqlLineage
