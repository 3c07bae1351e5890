import SqlLineage.Proofs.Analysis.BlockScopes
import SqlLineage.Proofs.Analysis.Statements
import SqlLineage.Proofs.Lowering.CommonTables
import SqlLineage.Proofs.Lowering.PhantomTables

/-!
# Recursive common tables

Under WITH RECURSIVE a common table is in view in its own body.  The analysis brings it into its
scope only behind that body.  Everywhere else in the statement the name is hidden: no block
registers a table of it.  So a statement that does not write a table of that name registers one
exactly if the body refers to itself, be it in a FROM clause or by the qualifier of a column, at a
place where the analysis sees no other common table of that name.
-/

namespace SqlLineage

open Sql Registry

/-! ## Hidden names -/

/-- No block registers a table whose name is hidden. -/
theorem Block.not_registers_of_hides {recurse : Bool} {block : Block} {name : String}
    (hhides : block.scope.Hides name) : ¬ block.Registers recurse name := by
  rintro (hread | ⟨hknown, ⟨qualifier, column⟩, -, hresolve⟩)
  · obtain ⟨item, -, hitem⟩ := List.mem_filterMap.1 hread
    exact (FromItem.read?_eq_some_iff.1 hitem).2 hhides.cte
  · obtain ⟨written, -, hbound | ⟨rfl, -, hcte⟩⟩ := Scope.owner_of_resolve hresolve hknown
    · obtain ⟨before, after, hbindings, -⟩ := List.lookup_eq_some_iff.1 hbound
      exact hhides.misses written (by simp [hbindings])
    · exact hcte hhides.cte

/-- The common tables over a statement. -/
def Statement.ctes : Statement → List CommonTable
  | .select query => query.ctes
  | .insert change => change.ctes
  | .update change => change.ctes
  | .delete change => change.ctes
  | _ => []

section Hidden

variable {name : String} {scope : Scope}

theorem hides_of_mem_blocks (hhides : scope.Hides name) (query : Select) :
    ∀ block ∈ query.blocks scope, block.scope.Hides name :=
  kept_of_mem_blocks (Scope.kept_hides name) hhides fun _ _ _ _ => trivial

theorem hides_of_mem_headBlocks (hhides : scope.Hides name) (sources : List FromItem)
    (columns : List Expression) (selection : Option Expression) :
    ∀ block ∈ FromItem.blocks scope sources ++ [Block.of scope sources columns selection],
      block.scope.Hides name := by
  rw [List.forall_mem_append, List.forall_mem_singleton]
  exact ⟨kept_of_mem_itemBlocks (Scope.kept_hides name) hhides (fun _ _ _ _ => trivial)
      fun _ _ _ _ => trivial,
    (Scope.kept_hides name).bindItems hhides fun _ _ _ _ => trivial⟩

theorem Scope.hides_first (name : String) : (Scope.addCte ⟨[], []⟩ name).Hides name :=
  ⟨List.mem_cons_self, Scope.misses_empty name⟩

theorem CommonTable.scope_hides (name : String) (inner : Select) (more : List CommonTable) :
    (CommonTable.scope (⟨name, inner⟩ :: more)).Hides name :=
  (Scope.kept_hides name).addCtes (Scope.hides_first name) _

theorem CommonTable.blocks_hide (name : String) (inner : Select) (more : List CommonTable) :
    ∃ others, CommonTable.blocks ⟨[], []⟩ (⟨name, inner⟩ :: more) =
        inner.blocks ⟨[], []⟩ ++ others ∧ ∀ block ∈ others, block.scope.Hides name := by
  rw [CommonTable.blocks]
  exact ⟨_, rfl, kept_of_mem_cteBlocks (Scope.kept_hides name) (Scope.hides_first name)
    fun _ _ _ _ => trivial⟩

end Hidden

/-- The blocks of a statement are those of the body of its first common table, and blocks that hide
the name of that table. -/
theorem Statement.blocks_hide {statement : Statement} {name : String} {inner : Select}
    {more : List CommonTable} (hctes : statement.ctes = ⟨name, inner⟩ :: more)
    (hdeclared : name ∉ statement.declared) :
    ∃ others, statement.blocks = inner.blocks ⟨[], []⟩ ++ others ∧
      ∀ block ∈ others, block.scope.Hides name := by
  obtain ⟨bodies, hbodies, hhidden⟩ := CommonTable.blocks_hide name inner more
  have hscope := CommonTable.scope_hides name inner more
  cases statement with
  | select query =>
    change query.ctes = _ at hctes
    rw [Statement.blocks, Select.blocks_eq, Select.rowBlocks, hctes, hbodies, List.append_assoc,
      List.append_assoc]
    refine ⟨_, rfl, List.forall_mem_append.2 ⟨hhidden, List.forall_mem_append.2 ⟨?_, ?_⟩⟩⟩
    · exact hides_of_mem_headBlocks hscope query.sources query.columns query.selection
    · exact kept_of_mem_branchBlocks (Scope.kept_hides name) hscope fun _ _ _ _ => trivial
  | insert change =>
    change change.ctes = _ at hctes
    rw [Statement.blocks, hctes, hbodies, List.append_assoc]
    refine ⟨_, rfl, List.forall_mem_append.2 ⟨hhidden, ?_⟩⟩
    cases change.source with
    | query rows => exact hides_of_mem_blocks hscope rows
    | values => exact fun _ hblock => absurd hblock List.not_mem_nil
    | defaultValues => exact fun _ hblock => absurd hblock List.not_mem_nil
  | update change =>
    change change.ctes = _ at hctes
    rw [Statement.declared, List.mem_singleton] at hdeclared
    rw [Statement.blocks, hctes, hbodies, List.append_assoc]
    exact ⟨_, rfl, List.forall_mem_append.2 ⟨hhidden,
      hides_of_mem_headBlocks (hscope.bindTable (Ne.symm hdeclared) _) _ _ _⟩⟩
  | delete change =>
    change change.ctes = _ at hctes
    rw [Statement.declared, List.mem_singleton] at hdeclared
    rw [Statement.blocks, hctes, hbodies, List.append_assoc]
    exact ⟨_, rfl, List.forall_mem_append.2 ⟨hhidden,
      hides_of_mem_headBlocks (hscope.bindTable (Ne.symm hdeclared) _) _ _ _⟩⟩
  | createTable create => cases hctes
  | createView create => cases hctes
  | alterTable table => cases hctes
  | unsupported kind => cases hctes

/-- Such a statement registers a table of that name exactly if the body does. -/
theorem Statement.registers_first_iff {recurse : Bool} {statement : Statement} {name : String}
    {inner : Select} {more : List CommonTable} (hctes : statement.ctes = ⟨name, inner⟩ :: more)
    (hdeclared : name ∉ statement.declared) :
    statement.Registers recurse name ↔
      ∃ block ∈ inner.blocks ⟨[], []⟩, block.Registers recurse name := by
  obtain ⟨others, hblocks, hhidden⟩ := Statement.blocks_hide hctes hdeclared
  have hothers : ¬ ∃ block ∈ others, block.Registers recurse name := by
    rintro ⟨block, hblock, hregisters⟩
    exact Block.not_registers_of_hides (hhidden block hblock) hregisters
  rw [Statement.Registers, hblocks]
  simp only [List.mem_append, or_and_right, exists_or, hdeclared, hothers, false_or, or_false]

/-! ## The common tables of a reduced statement -/

/-- The common tables over a statement stay over what it is reduced to. -/
theorem Statement.ctes_ofSyntax {recursive : Bool} {ctes : List Cte} {body : SetExpr}
    {tail : String} {statement : Statement}
    (hlower : Statement.ofSyntax (.query ⟨recursive, ctes, body, tail⟩) = .ok statement) :
    (∃ text, body = .directory text ∧ statement = .unsupported (kindOfText text)) ∨
      ∃ more, statement.ctes = CommonTable.ofList ctes ++ more := by
  cases body with
  | insert _ | update _ | delete _ =>
    obtain ⟨inner, -, rfl⟩ := eq_ok_of_bind hlower
    exact .inr ⟨[], (List.append_nil _).symm⟩
  | directory text =>
    cases hlower
    exact .inl ⟨text, rfl, rfl⟩
  | select _ | query _ | operation _ _ _ | values _ | table _ | merge _ =>
    cases hlower
    exact .inr ⟨_, by rw [Statement.ctes, Select.ofQuery]⟩

/-! ## References of a body to a name -/

/-- The blocks of a query register a table exactly if one of them reads it, or has its name as a
qualifier that no relation offers. -/
theorem exists_block_registers_iff {recurse : Bool} {query : Query} {name : String} :
    (∃ block ∈ (Select.ofQuery query).blocks ⟨[], []⟩, block.Registers recurse name) ↔
      ∃ site ∈ query.rootSites, name ∈ site.read ∨ name ∈ site.verbatim recurse := by
  constructor
  · rintro ⟨block, hblock, hregisters⟩
    by_contra hnone
    push Not at hnone
    -- A qualifier is bound to a table only behind a relation that reads it, and none does.
    have hmisses : ∀ other ∈ (Select.ofQuery query).blocks ⟨[], []⟩,
        other.scope.Misses name := by
      apply kept_of_mem_blocks (Scope.kept_misses name) (Scope.misses_empty name)
      intro reader hreader table htable heq
      rw [Query.blocks_rootSites, List.mem_map] at hreader
      obtain ⟨site, hsite, rfl⟩ := hreader
      exact (hnone site hsite).1 (mem_reads_reduced.1 (heq ▸ htable))
    have hbindings := hmisses block hblock
    rw [Query.blocks_rootSites, List.mem_map] at hblock
    obtain ⟨site, hsite, rfl⟩ := hblock
    obtain hread | hverbatim | ⟨-, qualifier, _, -, hbound⟩ := registers_iff.1 hregisters
    · exact (hnone site hsite).1 (mem_read.2 hread)
    · exact (hnone site hsite).2 hverbatim
    · obtain ⟨before, after, heq, -⟩ := List.lookup_eq_some_iff.1 hbound
      exact hbindings qualifier (by simp [Site.reduced, heq])
  · rintro ⟨site, hsite, hreferred⟩
    refine ⟨site.reduced, ?_, registers_iff.2 ?_⟩
    · rw [Query.blocks_rootSites]
      exact List.mem_map_of_mem hsite
    · obtain hread | hverbatim := hreferred
      · exact .inl (mem_read.1 hread)
      · exact .inr (.inl hverbatim)

/-! ## Statements behind a recursive common table -/

/-- No table node of that label, and no edge that starts or ends at one. -/
structure Graph.Avoids (graph : Graph) (label : String) : Prop where
  tables : ∀ table ∈ graph.tables, table.label ≠ label
  edges : ∀ edge ∈ graph.edges,
    graph.tableLabel? edge.source ≠ some label ∧ graph.tableLabel? edge.target ≠ some label

theorem Graph.avoids_iff {graph : Graph} {label : String} :
    graph.Avoids label ↔ ¬ ∃ table ∈ graph.tables, table.label = label := by
  constructor
  · rintro havoids ⟨table, htable, hlabel⟩
    exact havoids.tables table htable hlabel
  · intro hnone
    have hlookup : ∀ id, graph.tableLabel? id ≠ some label := by
      intro id hfound
      obtain ⟨table, htable, hlabel⟩ := Option.map_eq_some_iff.1 hfound
      exact hnone ⟨table, List.mem_of_find?_eq_some htable, hlabel⟩
    exact ⟨fun table htable hlabel => hnone ⟨table, htable, hlabel⟩,
      fun edge _ => ⟨hlookup edge.source, hlookup edge.target⟩⟩

/-- The graph of a statement behind a recursive common table that it does not write has no table of
that name exactly if the body of the common table nowhere reads its own name, and nowhere has it as
a qualifier that the analysis takes for a table.  A statement that is not analysed at all has no
table. -/
theorem recursive_avoids_iff (options : Options) {cte : Cte} {rest : List Cte} {body : SetExpr}
    {tail : String} {statement : Statement}
    (hlower : Statement.ofSyntax (.query ⟨true, cte :: rest, body, tail⟩) = .ok statement)
    (hwrites : cte.aliasName.plain ∉ statement.declared) :
    (analyzeStatements options [statement]).graph.Avoids cte.aliasName.plain ↔
      (∃ text, body = .directory text) ∨
        ∀ site ∈ cte.query.rootSites, cte.aliasName.plain ∉ site.read ∧
          cte.aliasName.plain ∉ site.verbatim options.recurseConditions := by
  rw [Graph.avoids_iff, exists_table_label_iff]
  simp only [List.mem_singleton, exists_eq_left]
  obtain ⟨text, rfl, rfl⟩ | ⟨more, hctes⟩ := Statement.ctes_ofSyntax hlower
  · simp [Statement.Registers, Statement.declared, Statement.blocks]
  · obtain ⟨aliasName, materialized, query, source⟩ := cte
    rw [CommonTable.ofList, List.cons_append] at hctes
    have hbody : ¬ ∃ text, body = .directory text := by
      rintro ⟨text, rfl⟩
      cases hlower
      cases hctes
    rw [Statement.registers_first_iff hctes hwrites, exists_block_registers_iff]
    simp only [hbody, false_or]
    push Not
    rfl

/-- `WITH RECURSIVE c AS (SELECT a FROM base UNION SELECT a FROM c) SELECT a FROM c` -/
def Sql.Query.recurring : Query :=
  let rows : SetExpr := .operation "UNION" (.reading "base") (.reading "c")
  ⟨true, [.binding "c" rows], .reading "c", ""⟩

theorem recurring_not_avoids :
    Statement.ofSyntax (.query .recurring) = .ok (.select (Select.ofQuery .recurring)) ∧
      "c" ∉ (Statement.select (Select.ofQuery .recurring)).declared ∧
      ¬ (analyzeStatements {} [.select (Select.ofQuery .recurring)]).graph.Avoids "c" := by
  refine ⟨rfl, List.not_mem_nil, fun havoids => ?_⟩
  have htables := havoids.tables
  revert htables
  decide

/-- `WITH RECURSIVE c AS (SELECT a FROM base
UNION SELECT a FROM (WITH c AS (SELECT a FROM seed) SELECT a FROM c) AS d) SELECT a FROM c` -/
def Sql.Query.shadowing : Query :=
  let derived : TableFactor := .derived false
    ⟨false, [.binding "c" (.reading "seed")], .reading "c", ""⟩ (some ⟨⟨"d", none⟩, ""⟩)
  let rows : SetExpr := .operation "UNION" (.reading "base")
    (.select { projection := [.expr (.ident ⟨"a", none⟩) none], sources := [⟨derived, []⟩] })
  ⟨true, [.binding "c" rows], .reading "c", ""⟩

theorem shadowing_avoids :
    Statement.ofSyntax (.query .shadowing) = .ok (.select (Select.ofQuery .shadowing)) ∧
      "c" ∉ (Statement.select (Select.ofQuery .shadowing)).declared ∧
      (analyzeStatements {} [.select (Select.ofQuery .shadowing)]).graph.Avoids "c" := by
  have hlower : Statement.ofSyntax (.query .shadowing) =
      .ok (.select (Select.ofQuery .shadowing)) := rfl
  refine ⟨hlower, List.not_mem_nil, ?_⟩
  exact (recursive_avoids_iff {} hlower List.not_mem_nil).2 (.inr (by decide))

end SqlLineage
