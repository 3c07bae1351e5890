import SqlLineage.Proofs.Graph.WellFormed
import SqlLineage.Proofs.Lowering.Coverage

/-!
# Phantom tables

A table node is a phantom if no FROM clause of the statement has a plain table of its name.  A
qualified query has two sources of them.  The name of a table function is registered like that of a
table, and an offer that leaves no trace in the reduced query is taken for the name of a table where
it stands before a column.  All other qualifiers are harmless.
-/

namespace SqlLineage

open Sql

/-- The factors at a site are among those of the query. -/
theorem factors_of_mem_rootSites {query : Query} {site : Site} (hsite : site ∈ query.rootSites) :
    site.block.factors ⊆ query.allFactors := by
  obtain ⟨place, hplace, -, rfl⟩ := mem_rootSites.1 hsite
  exact fun factor hfactor => List.mem_flatMap.2 ⟨place, hplace, hfactor⟩

/-! ## Qualifiers that are taken for tables -/

theorem Scope.resolve_of_unbound {scope : Scope} {qualifier : String}
    (hbinding : scope.bindings.lookup qualifier = none) (hcte : qualifier ∉ scope.ctes) :
    scope.resolve (some qualifier) = qualifier := by
  simp [resolve, hbinding, isCte, hcte]

theorem Scope.resolve_of_table {scope : Scope} {qualifier name : String}
    (hbinding : scope.bindings.lookup qualifier = some (.table name)) :
    scope.resolve (some qualifier) = name := by
  simp [resolve, hbinding]

/-- A known owner is what a qualifier is bound to, or is the qualifier itself. -/
theorem Scope.owner_of_resolve {scope : Scope} {qualifier : Option String} {name : String}
    (hresolve : scope.resolve qualifier = name) (hknown : name ≠ unknownTable) :
    ∃ written, qualifier = some written ∧
      (scope.bindings.lookup written = some (.table name) ∨
        written = name ∧ scope.bindings.lookup written = none ∧ written ∉ scope.ctes) := by
  cases qualifier with
  | none => exact absurd hresolve.symm hknown
  | some written =>
    refine ⟨written, rfl, ?_⟩
    rw [resolve] at hresolve
    cases hlookup : scope.bindings.lookup written with
    | some binding =>
      rw [hlookup] at hresolve
      cases binding with
      | table owner => exact .inl (by rw [← hresolve])
      | derived => exact absurd hresolve.symm hknown
    | none =>
      rw [hlookup] at hresolve
      by_cases hcte : scope.isCte written
      · rw [if_pos hcte] at hresolve
        exact absurd hresolve.symm hknown
      · rw [if_neg hcte] at hresolve
        exact .inr ⟨hresolve, rfl, fun hmem => hcte (Scope.isCte_iff.2 hmem)⟩

/-- The qualifiers at a site that the analysis takes for the names of tables. -/
def Sql.Site.verbatim (recurse : Bool) (site : Site) : List String :=
  ((site.reduced.inspected recurse).filterMap Prod.fst).filter fun qualifier =>
    qualifier ≠ unknownTable ∧ site.scope.bindings.lookup qualifier = none
      ∧ qualifier ∉ site.scope.ctes

theorem mem_verbatim {recurse : Bool} {site : Site} {qualifier : String} :
    qualifier ∈ site.verbatim recurse ↔
      (∃ name, (some qualifier, name) ∈ site.reduced.inspected recurse) ∧
        qualifier ≠ unknownTable ∧ site.scope.bindings.lookup qualifier = none ∧
          qualifier ∉ site.scope.ctes := by
  simp [Site.verbatim]

/-- A table that a site registers is read there, or owns a column there through a binding or by its
own name. -/
theorem registers_iff {recurse : Bool} {site : Site} {name : String} :
    site.reduced.Registers recurse name ↔
      (name ∈ site.block.tables ∧ name ∉ site.scope.ctes) ∨ name ∈ site.verbatim recurse ∨
        name ≠ unknownTable ∧ ∃ qualifier column,
          (some qualifier, column) ∈ site.reduced.inspected recurse ∧
            site.scope.bindings.lookup qualifier = some (.table name) := by
  rw [Block.Registers, Site.mem_reduced_reads]
  apply or_congr_right
  constructor
  · rintro ⟨hknown, ⟨qualifier, column⟩, hcolumn, hresolve⟩
    obtain ⟨written, rfl, hbound | ⟨rfl, hbinding, hcte⟩⟩ :=
      Scope.owner_of_resolve hresolve hknown
    · exact .inr ⟨hknown, written, column, hcolumn, hbound⟩
    · exact .inl (mem_verbatim.2 ⟨⟨column, hcolumn⟩, hknown, hbinding, hcte⟩)
  · rintro (hverbatim | ⟨hknown, qualifier, column, hcolumn, hbound⟩)
    · obtain ⟨⟨column, hcolumn⟩, hknown, hbinding, hcte⟩ := mem_verbatim.1 hverbatim
      exact ⟨hknown, (some name, column), hcolumn, Scope.resolve_of_unbound hbinding hcte⟩
    · exact ⟨hknown, (some qualifier, column), hcolumn, Scope.resolve_of_table hbound⟩

/-! ## Statements without phantom tables -/

/-- Table functions and silent offers share their names with plain tables wherever the analysis
takes them for tables. -/
structure Sql.Query.PhantomFree (recurse : Bool) (query : Query) : Prop where
  calls_plain : ∀ site ∈ query.rootSites, ∀ call ∈ site.block.calls,
    call ∈ site.scope.ctes ∨ call ∈ query.plainTables
  handles_plain : ∀ site ∈ query.rootSites, ∀ handle ∈ site.verbatim recurse,
    handle ∈ query.silentHandles → handle ∈ query.plainTables

theorem Sql.TableFactor.tableName?_eq_some_iff {factor : TableFactor} {name : String} :
    factor.tableName? = some name ↔ factor.plainTable? = some name ∨ factor.call? = some name := by
  match factor with
  | .table _ none _ _ => simp [tableName?, plainTable?, call?]
  | .table _ (some _) _ _ => simp [tableName?, plainTable?, call?]
  | .derived _ _ _ => simp [tableName?, plainTable?, call?]
  | .nested _ _ => simp [tableName?, plainTable?, call?]
  | .rows _ _ | .reshaped _ _ _ => simp [tableName?, plainTable?, call?]

/-- Without phantoms among the calls, the factors of all sites are accounted for. -/
theorem Sql.Query.PhantomFree.accounted {recurse : Bool} {query : Query}
    (hfree : query.PhantomFree recurse) {site : Site} (hsite : site ∈ query.rootSites) :
    site.Accounted query.plainTables query.silentHandles := by
  intro factor hfactor
  have hall : factor ∈ query.allFactors := factors_of_mem_rootSites hsite hfactor
  constructor
  · intro name hname
    obtain hplain | hcall := TableFactor.tableName?_eq_some_iff.1 hname
    · exact .inr (List.mem_filterMap.2 ⟨factor, hall, hplain⟩)
    · exact hfree.calls_plain site hsite name (List.mem_filterMap.2 ⟨factor, hfactor, hcall⟩)
  · intro handle hhandle
    exact List.mem_flatMap.2 ⟨factor, hall, hhandle⟩

theorem phantomFree_iff {recurse : Bool} {query : Query} (hqualified : query.Qualified) :
    query.PhantomFree recurse ↔
      ∀ site ∈ query.rootSites, ∀ name, site.reduced.Registers recurse name →
        name ∈ query.plainTables := by
  constructor
  · intro hfree site hsite name hregisters
    have haccounted := hfree.accounted hsite
    have hcovers : site.scope.Covers query.plainTables query.silentHandles
        site.block.qualifiers :=
      covered_of_mem_rootSites hqualified (fun other hother => hfree.accounted hother) site hsite
    obtain ⟨htable, hcte⟩ | hverbatim | ⟨-, qualifier, _, _, hbound⟩ :=
      registers_iff.1 hregisters
    · obtain ⟨factor, hfactor, hname⟩ := List.mem_filterMap.1 htable
      exact ((haccounted factor hfactor).table name hname).resolve_left hcte
    · obtain ⟨⟨column, hcolumn⟩, -, hunbound, -⟩ := mem_verbatim.1 hverbatim
      have hwritten : name ∈ site.block.qualifiers := mem_qualifiers_of_inspected hcolumn
      obtain ⟨binding, hbinding⟩ | hplain | hsilent := hcovers.handles_bound name hwritten
      · rw [hunbound] at hbinding
        cases hbinding
      · exact hplain
      · exact hfree.handles_plain site hsite name hverbatim hsilent
    · obtain ⟨before, after, hbindings, -⟩ := List.lookup_eq_some_iff.1 hbound
      exact hcovers.owners_plain qualifier name (by simp [hbindings])
  · intro hplain
    constructor
    · intro site hsite call hcall
      by_cases hcte : call ∈ site.scope.ctes
      · exact .inl hcte
      · right
        obtain ⟨factor, hfactor, hname⟩ := List.mem_filterMap.1 hcall
        have htable : call ∈ site.block.tables := List.mem_filterMap.2
          ⟨factor, hfactor, TableFactor.tableName?_eq_some_iff.2 (.inr hname)⟩
        exact hplain site hsite call (registers_iff.2 (.inl ⟨htable, hcte⟩))
    · intro site hsite handle hverbatim _
      exact hplain site hsite handle (registers_iff.2 (.inr (.inl hverbatim)))

/-- What a change of rows was reduced to on the way to the statement. -/
theorem eq_ok_of_bind {α : Type} {change : Except Malformation α} {finish : α → Statement}
    {statement : Statement}
    (hlower : (change >>= fun inner => pure (finish inner)) = .ok statement) :
    ∃ inner, change = .ok inner ∧ finish inner = statement := by
  cases change with
  | error malformation => cases hlower
  | ok inner => exact ⟨inner, rfl, Except.ok.inj hlower⟩

/-- A change of rows behind common tables is reduced to no SELECT. -/
theorem bind_ne_select {α : Type} {change : Except Malformation α} {finish : α → Statement}
    {select : Select} (hfinish : ∀ inner, finish inner ≠ .select select) :
    (change >>= fun inner => pure (finish inner)) ≠ .ok (.select select) := by
  intro hselect
  cases change with
  | error malformation => cases hselect
  | ok inner =>
    injection hselect with hstatement
    exact hfinish inner hstatement

/-- A query that is a statement is reduced to a SELECT as a whole. -/
theorem Statement.ofSyntax_query {query : Query} {select : Select}
    (hselect : Statement.ofSyntax (.query query) = .ok (.select select)) :
    select = Select.ofQuery query := by
  obtain ⟨recursive, ctes, body, tail⟩ := query
  cases body with
  | insert change => exact absurd hselect (bind_ne_select fun _ => nofun)
  | update change => exact absurd hselect (bind_ne_select fun _ => nofun)
  | delete change => exact absurd hselect (bind_ne_select fun _ => nofun)
  | directory text => cases hselect
  | select _ | query _ | operation _ _ _ | values _ | table _ | merge _ =>
    injection hselect with hstatement
    injection hstatement with hquery
    exact hquery.symm

theorem Registry.forall_graph_tables {registry : Registry} {property : String → Prop} :
    (∀ table ∈ registry.graph.tables, property table.label) ↔
      ∀ name ∈ registry.names, property name := by
  rw [graph_tables, names, List.forall_mem_map, List.forall_mem_map]
  rfl

/-- A SELECT registers the tables that its sites do. -/
theorem mem_names_select {options : Options} {query : Query} {name : String} :
    name ∈ (registryOf options [.select (Select.ofQuery query)]).names ↔
      ∃ site ∈ query.rootSites, site.reduced.Registers options.recurseConditions name := by
  have hregistry : registryOf options [.select (Select.ofQuery query)] =
      (analyzeSelect options.recurseConditions (Select.ofQuery query) ⟨[], []⟩ {}).1 := rfl
  rw [hregistry, mem_names_analyzeSelect, Query.blocks_rootSites]
  simp [Registry.names]

/-- Every table node of a qualified SELECT stands for a plain table of the statement exactly if the
statement is free of phantoms. -/
theorem tables_plain_iff (options : Options) {query : Query} {select : Select}
    (hselect : Statement.ofSyntax (.query query) = .ok (.select select))
    (hqualified : query.Qualified) :
    (∀ table ∈ (analyzeStatements options [.select select]).graph.tables,
        table.label ∈ query.plainTables) ↔
      query.PhantomFree options.recurseConditions := by
  obtain rfl := Statement.ofSyntax_query hselect
  rw [phantomFree_iff hqualified, analyzeStatements_graph, Registry.forall_graph_tables]
  constructor
  · intro hplain site hsite name hregisters
    exact hplain name (mem_names_select.2 ⟨site, hsite, hregisters⟩)
  · intro hplain name hname
    obtain ⟨site, hsite, hregisters⟩ := mem_names_select.1 hname
    exact hplain site hsite name hregisters

/-- `SELECT qualifier.x FROM sources` -/
def Sql.Query.selecting (qualifier : String) (sources : List TableWithJoins) : Query :=
  ⟨false, [], .select
    { projection := [.expr (.path [⟨qualifier, none⟩, ⟨"x", none⟩]) none], sources := sources }, ""⟩

/-- `SELECT g.x FROM generate_series(1, 10) AS g` -/
def Sql.Query.calling : Query :=
  let call : TableFactor :=
    .table ⟨[.ident ⟨"generate_series", none⟩]⟩ (some "1, 10") (some ⟨⟨"g", none⟩, ""⟩) ""
  .selecting "g" [⟨call, []⟩]

/-- `SELECT r.x FROM t, UNNEST(t.a) AS r` -/
def Sql.Query.unnesting : Query :=
  let rows : TableFactor := .rows "UNNEST(t.a)" (some ⟨⟨"r", none⟩, ""⟩)
  .selecting "r" [⟨.named "t", []⟩, ⟨rows, []⟩]

/-- `SELECT j.x FROM (t JOIN u USING(id)) AS j` -/
def Sql.Query.grouping : Query :=
  let joins : TableWithJoins := ⟨.named "t", [⟨false, .join, .using "(id)", .named "u"⟩]⟩
  .selecting "j" [⟨.nested joins (some ⟨⟨"j", none⟩, ""⟩), []⟩]

theorem not_phantomFree_unnesting :
    Statement.ofSyntax (.query .unnesting) = .ok (.select (Select.ofQuery .unnesting)) ∧
      Query.unnesting.Qualified ∧ ¬ Query.unnesting.PhantomFree false := by
  have hselect : Statement.ofSyntax (.query .unnesting) =
      .ok (.select (Select.ofQuery .unnesting)) := rfl
  have hqualified : Query.unnesting.Qualified := by decide
  refine ⟨hselect, hqualified, ?_⟩
  intro hfree
  have hplain := (tables_plain_iff {} hselect hqualified).2 hfree
  revert hplain
  decide

theorem exists_table_not_plain :
    (Query.calling.Qualified ∧
      ¬ ∀ table ∈ (analyzeStatements {} [.select (Select.ofQuery .calling)]).graph.tables,
        table.label ∈ Query.calling.plainTables) ∧
    (Query.unnesting.Qualified ∧
      ¬ ∀ table ∈ (analyzeStatements {} [.select (Select.ofQuery .unnesting)]).graph.tables,
        table.label ∈ Query.unnesting.plainTables) ∧
    (Query.grouping.Qualified ∧
      ¬ ∀ table ∈ (analyzeStatements {} [.select (Select.ofQuery .grouping)]).graph.tables,
        table.label ∈ Query.grouping.plainTables) := by
  exact ⟨⟨by decide, by decide⟩, ⟨by decide, by decide⟩, by decide, by decide⟩

end SqlLineage
