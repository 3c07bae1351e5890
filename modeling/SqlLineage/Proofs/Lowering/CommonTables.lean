import SqlLineage.Proofs.Lowering.Sites

/-!
# Common tables in reduced queries

A common table is in view in the later ones of its WITH clause and in the body of the query that
carries the clause.  The tables that a query leaves free are those that stand in a FROM clause where
no common table of that name is in view.  The analysis of the reduced query answers other tables in
three cases.  A common table of a first operand, which stands in front of the whole row of branches
after the reduction, captures the tables of its name in the other operands.  A common table of a
later operand that is itself a row of branches reaches the first of these only, which leaves its
name exposed in the others.  And the reduction drops relations that are reshaped, and all but an
empty block of a common table that changes rows.  The answer is right exactly if every captured or
dropped name is read elsewhere, and every exposed name is free elsewhere.
-/

namespace SqlLineage

open Sql

/-! ## Free tables -/

/-- The tables in the FROM clause of a place that no common table in view binds. -/
def Sql.Place.free (place : Place) : List String :=
  place.block.tables.filter (fun name => name ∉ place.visible)

/-- The tables in the FROM clauses of a query that no common table binds. -/
def Sql.Query.freeTables (query : Query) : List String :=
  query.places.flatMap Place.free

/-- The free tables at places that the reduction does not keep. -/
def Sql.Query.droppedTables (query : Query) : List String :=
  (query.places.filter (fun place => !place.kept)).flatMap Place.free

/-- The tables of a site that no common table in view binds. -/
def Sql.Site.free (site : Site) : List String :=
  site.block.tables.filter (fun name => name ∉ site.visible)

/-- The tables of a site that no common table in the scope of the analysis binds. -/
def Sql.Site.read (site : Site) : List String :=
  site.block.tables.filter (fun name => name ∉ site.scope.ctes)

/-- The free tables of a site that the scope of the analysis binds all the same. -/
def Sql.Site.captured (site : Site) : List String :=
  site.free.filter (fun name => name ∈ site.scope.ctes)

/-- The tables of a site that the scope of the analysis leaves free although a common table in view
binds them. -/
def Sql.Site.exposed (site : Site) : List String :=
  site.read.filter (fun name => name ∈ site.visible)

theorem mem_free {site : Site} {name : String} :
    name ∈ site.free ↔ name ∈ site.block.tables ∧ name ∉ site.visible := by
  simp [Site.free]

theorem mem_read {site : Site} {name : String} :
    name ∈ site.read ↔ name ∈ site.block.tables ∧ name ∉ site.scope.ctes := by
  simp [Site.read]

/-- The free tables of a query are those of its sites and those that are dropped. -/
theorem mem_freeTables {query : Query} {name : String} :
    name ∈ query.freeTables ↔
      name ∈ query.rootSites.flatMap Site.free ∨ name ∈ query.droppedTables := by
  have hsplit := (List.filter_append_perm Place.kept query.places).flatMap_right Place.free
  rw [Query.freeTables, ← hsplit.mem_iff, List.flatMap_append, List.mem_append, Query.rootSites,
    List.flatMap_map]
  rfl

/-! ## The tables that the analysis answers -/

theorem mem_reads_reduced {site : Site} {name : String} :
    name ∈ site.reduced.reads ↔ name ∈ site.read := by
  rw [Site.mem_reduced_reads, mem_read]

/-- The analysis of a reduced query answers the tables that its sites read. -/
theorem mem_reads_ofQuery {recurse : Bool} {registry : Registry} {name : String} (query : Query) :
    name ∈ (analyzeSelect recurse (Select.ofQuery query) ⟨[], []⟩ registry).2 ↔
      name ∈ query.rootSites.flatMap Site.read := by
  rw [mem_reads_analyzeSelect, Query.blocks_rootSites]
  simp [mem_reads_reduced]

/-! ## When the two agree -/

/-- Common tables keep their places, and tables are not dropped, as far as the tables of a query
tell: a captured or a dropped name is read at another place, and an exposed name is free at another
place. -/
structure Sql.Query.KeepsScoping (query : Query) : Prop where
  captured_read : ∀ name ∈ query.rootSites.flatMap Site.captured,
    name ∈ query.rootSites.flatMap Site.read
  exposed_free : ∀ name ∈ query.rootSites.flatMap Site.exposed, name ∈ query.freeTables
  dropped_read : ∀ name ∈ query.droppedTables, name ∈ query.rootSites.flatMap Site.read

theorem keepsScoping_iff {query : Query} :
    query.KeepsScoping ↔
      ∀ name, name ∈ query.rootSites.flatMap Site.read ↔ name ∈ query.freeTables := by
  constructor
  · intro hkeeps name
    constructor
    · intro hread
      obtain ⟨site, hsite, hname⟩ := List.mem_flatMap.1 hread
      by_cases hvisible : name ∈ site.visible
      · apply hkeeps.exposed_free
        exact List.mem_flatMap.2 ⟨site, hsite, by simp [Site.exposed, hname, hvisible]⟩
      · have hfree : name ∈ site.free := mem_free.2 ⟨(mem_read.1 hname).1, hvisible⟩
        exact mem_freeTables.2 (.inl (List.mem_flatMap.2 ⟨site, hsite, hfree⟩))
    · intro hfree
      obtain hkept | hdropped := mem_freeTables.1 hfree
      · obtain ⟨site, hsite, hname⟩ := List.mem_flatMap.1 hkept
        by_cases hcte : name ∈ site.scope.ctes
        · apply hkeeps.captured_read
          exact List.mem_flatMap.2 ⟨site, hsite, by simp [Site.captured, hname, hcte]⟩
        · exact List.mem_flatMap.2 ⟨site, hsite, mem_read.2 ⟨(mem_free.1 hname).1, hcte⟩⟩
      · exact hkeeps.dropped_read name hdropped
  · intro hagree
    constructor
    · intro name hcaptured
      obtain ⟨site, hsite, hname⟩ := List.mem_flatMap.1 hcaptured
      have hfree : name ∈ query.rootSites.flatMap Site.free :=
        List.mem_flatMap.2 ⟨site, hsite, (List.mem_filter.1 hname).1⟩
      exact (hagree name).2 (mem_freeTables.2 (.inl hfree))
    · intro name hexposed
      obtain ⟨site, hsite, hname⟩ := List.mem_flatMap.1 hexposed
      rw [← hagree name]
      exact List.mem_flatMap.2 ⟨site, hsite, (List.mem_filter.1 hname).1⟩
    · intro name hdropped
      exact (hagree name).2 (mem_freeTables.2 (.inr hdropped))

/-- The analysis of a reduced query answers its free tables exactly if common tables keep their
places, and the dropped tables are read elsewhere. -/
theorem reads_eq_freeTables_iff (recurse : Bool) (query : Query) (registry : Registry) :
    (∀ name, name ∈ (analyzeSelect recurse (Select.ofQuery query) ⟨[], []⟩ registry).2 ↔
        name ∈ query.freeTables) ↔
      query.KeepsScoping := by
  rw [keepsScoping_iff]
  exact forall_congr' fun name => by rw [mem_reads_ofQuery query]

/-- `SELECT a FROM table` -/
def Sql.SetExpr.reading (table : String) : SetExpr :=
  .select { projection := [.expr (.ident ⟨"a", none⟩) none], sources := [⟨.named table, []⟩] }

/-- `name AS (body)` -/
def Sql.Cte.binding (name : String) (body : SetExpr) : Cte :=
  ⟨⟨⟨name, none⟩, ""⟩, "", ⟨false, [], body, ""⟩, none⟩

/-- `(WITH c AS (SELECT a FROM base) SELECT a FROM c) UNION SELECT a FROM c` -/
def Sql.Query.capturing : Query :=
  let cte : Cte := ⟨⟨⟨"c", none⟩, ""⟩, "", ⟨false, [], .reading "base", ""⟩, none⟩
  ⟨false, [], .operation "UNION" (.query ⟨false, [cte], .reading "c", ""⟩) (.reading "c"), ""⟩

/-- `SELECT a FROM t UNION
(WITH c AS (SELECT a FROM base) SELECT a FROM c UNION SELECT a FROM c)` -/
def Sql.Query.exposing : Query :=
  let cte : Cte := ⟨⟨⟨"c", none⟩, ""⟩, "", ⟨false, [], .reading "base", ""⟩, none⟩
  let branches : SetExpr := .operation "UNION" (.reading "c") (.reading "c")
  ⟨false, [], .operation "UNION" (.reading "t") (.query ⟨false, [cte], branches, ""⟩), ""⟩

theorem reads_ne_freeTables :
    (¬ ∀ name, name ∈ (analyzeSelect false (Select.ofQuery .capturing) ⟨[], []⟩ {}).2 ↔
        name ∈ Query.capturing.freeTables) ∧
      ¬ ∀ name, name ∈ (analyzeSelect false (Select.ofQuery .exposing) ⟨[], []⟩ {}).2 ↔
        name ∈ Query.exposing.freeTables := by
  constructor
  · intro hagree
    have hfree : "c" ∈ Query.capturing.freeTables := by decide
    have hread : "c" ∉ (analyzeSelect false (Select.ofQuery .capturing) ⟨[], []⟩ {}).2 := by
      decide
    exact hread ((hagree "c").2 hfree)
  · intro hagree
    have hfree : "c" ∉ Query.exposing.freeTables := by decide
    have hread : "c" ∈ (analyzeSelect false (Select.ofQuery .exposing) ⟨[], []⟩ {}).2 := by
      decide
    exact hfree ((hagree "c").1 hread)

end SqlLineage
