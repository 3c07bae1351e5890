import SqlLineage.Proofs.Analysis.Recording
import SqlLineage.Proofs.Graph.Extension

/-!
# Scripts in another order, and scripts run twice

The events of a statement do not depend on what ran before it.  So a script registers the same
tables and columns in every order of its statements, and running it again registers nothing.  Where
targets are linked to what their own statement reads, the same holds of the edges: another order
permutes them, and a second run repeats them.
-/

namespace SqlLineage

open Registry

/-- What a script records, in order. -/
def Statement.script (recurse : Bool) (statements : List Statement) : List Event :=
  statements.flatMap (Statement.events recurse)

theorem registryOf_eq_script (linking : SourceLinking) (recurse : Bool)
    (statements : List Statement) :
    registryOf ⟨linking, recurse⟩ statements =
      Registry.recordAll linking {} (Statement.script recurse statements) :=
  registryOf_eq ⟨linking, recurse⟩ statements

theorem links_registryOf (recurse : Bool) (statements : List Statement) :
    (registryOf ⟨.statementSources, recurse⟩ statements).links =
      (Statement.script recurse statements).flatMap Event.links := by
  rw [registryOf_eq_script, links_recordAll_statementSources]
  rfl

/-! ## Another order -/

section Order

variable {statements others : List Statement}

theorem Statement.script_perm (hperm : statements.Perm others) (recurse : Bool) :
    (Statement.script recurse statements).Perm (Statement.script recurse others) :=
  hperm.flatMap_right _

theorem names_registryOf_perm (hperm : statements.Perm others) (options : Options) :
    (registryOf options statements).names.Perm (registryOf options others).names := by
  have hfirst := (registryOf_wellFormed options statements).names_nodup
  have hsecond := (registryOf_wellFormed options others).names_nodup
  apply (List.perm_ext_iff_of_nodup hfirst hsecond).mpr
  intro name
  simp only [mem_names_registryOf, hperm.mem_iff]

theorem columnNames_registryOf_perm (hperm : statements.Perm others) (linking : SourceLinking)
    (recurse : Bool) :
    (registryOf ⟨linking, recurse⟩ statements).columnNames.Perm
      (registryOf ⟨linking, recurse⟩ others).columnNames := by
  have hfirst := (registryOf_wellFormed ⟨linking, recurse⟩ statements).columnNames_nodup
  have hsecond := (registryOf_wellFormed ⟨linking, recurse⟩ others).columnNames_nodup
  apply (List.perm_ext_iff_of_nodup hfirst hsecond).mpr
  intro entry
  have hcolumns := (Statement.script_perm hperm recurse).flatMap_right Event.columns
  rw [registryOf_eq_script, registryOf_eq_script, mem_columnNames_recordAll,
    mem_columnNames_recordAll, hcolumns.mem_iff]

theorem links_registryOf_perm (hperm : statements.Perm others) (recurse : Bool) :
    (registryOf ⟨.statementSources, recurse⟩ statements).links.Perm
      (registryOf ⟨.statementSources, recurse⟩ others).links := by
  rw [links_registryOf, links_registryOf]
  exact (Statement.script_perm hperm recurse).flatMap_right Event.links

/-- The order of statements decides on no table, no column and, where targets are linked to what
their own statement reads, on no edge. -/
theorem analyzeStatements_perm (hperm : statements.Perm others) (recurse : Bool) :
    (∀ linking : SourceLinking,
      let graph := (analyzeStatements ⟨linking, recurse⟩ statements).graph
      let other := (analyzeStatements ⟨linking, recurse⟩ others).graph
      (graph.tables.map TableNode.label).Perm (other.tables.map TableNode.label) ∧
        graph.columnLabels.Perm other.columnLabels) ∧
    (analyzeStatements ⟨.statementSources, recurse⟩ statements).graph.outline.edges.Perm
      (analyzeStatements ⟨.statementSources, recurse⟩ others).graph.outline.edges := by
  constructor
  · intro linking graph other
    simp only [graph, other, analyzeStatements_graph, graph_labels, graph_columnLabels]
    exact ⟨names_registryOf_perm hperm _, columnNames_registryOf_perm hperm linking recurse⟩
  · rw [analyzeStatements_outline, analyzeStatements_outline]
    have hnames := names_registryOf_perm hperm ⟨.statementSources, recurse⟩
    have hlinks := links_registryOf_perm hperm recurse
    have hdraws : ∀ link, (registryOf ⟨.statementSources, recurse⟩ statements).Draws link ↔
        (registryOf ⟨.statementSources, recurse⟩ others).Draws link :=
      draws_congr fun name => hnames.mem_iff
    simp only [hdraws]
    exact (hlinks.filter _).map Link.edge

end Order

/-- `SELECT t.a FROM t` -/
def Statement.readingT : Statement :=
  .select { sources := [{ source := .table "t" }], columns := [.column (some "t") "a"] }

/-- `INSERT INTO t SELECT u.b FROM u` -/
def Statement.fillingT : Statement :=
  .insert
    { table := "t"
      source := .query
        { sources := [{ source := .table "u" }], columns := [.column (some "u") "b"] } }

/-- Read first, `t` is a source; filled first, it is a target.  Its label, its columns and the edge
into it are the same. -/
theorem analyzeStatements_perm_reading :
    [Statement.readingT, .fillingT].Perm [.fillingT, .readingT] ∧
      (analyzeStatements ⟨.statementSources, false⟩ [.readingT, .fillingT]).graph.outline.edges.Perm
        (analyzeStatements ⟨.statementSources, false⟩ [.fillingT, .readingT]).graph.outline.edges ∧
      (analyzeStatements ⟨.statementSources, false⟩ [.readingT, .fillingT]).graph.outline.tables ≠
        (analyzeStatements ⟨.statementSources, false⟩
          [.fillingT, .readingT]).graph.outline.tables := by
  have hperm : [Statement.readingT, .fillingT].Perm [.fillingT, .readingT] := List.Perm.swap _ _ _
  refine ⟨hperm, (analyzeStatements_perm hperm false).2, ?_⟩
  rw [analyzeStatements_outline, analyzeStatements_outline]
  decide

/-! ## A second run -/

section Replay

variable (linking : SourceLinking) (recurse : Bool) (statements : List Statement)

theorem registryOf_replay :
    registryOf ⟨linking, recurse⟩ (statements ++ statements) =
      (registryOf ⟨linking, recurse⟩ statements).recordAll linking
        (Statement.script recurse statements) := by
  rw [registryOf_eq_script, registryOf_eq_script, Statement.script, List.flatMap_append,
    recordAll_append]
  rfl

theorem tables_replay :
    (registryOf ⟨linking, recurse⟩ (statements ++ statements)).tables =
      (registryOf ⟨linking, recurse⟩ statements).tables := by
  have hnodup := (registryOf_wellFormed ⟨linking, recurse⟩ statements).names_nodup
  have hholds : ∀ event ∈ Statement.script recurse statements,
      (registryOf ⟨linking, recurse⟩ statements).Holds event := by
    intro event hevent
    rw [registryOf_eq_script]
    exact holds_recordAll linking {} hevent
  rw [registryOf_replay]
  exact tables_recordAll_of_holds hnodup hholds linking

theorem links_replay :
    (registryOf ⟨.statementSources, recurse⟩ (statements ++ statements)).links =
      (registryOf ⟨.statementSources, recurse⟩ statements).links ++
        (registryOf ⟨.statementSources, recurse⟩ statements).links := by
  rw [registryOf_replay, links_recordAll_statementSources, links_registryOf]

theorem relationships_replay :
    (registryOf ⟨linking, recurse⟩ statements).relationships <+:
      (registryOf ⟨linking, recurse⟩ (statements ++ statements)).relationships := by
  have hgrows : Grows (registryOf ⟨linking, recurse⟩ statements)
      (registryOf ⟨linking, recurse⟩ (statements ++ statements)) := by
    rw [registryOf_append]
    exact analyzeAll_grows _ _ _
  exact hgrows.extends.relationships

end Replay

/-- Running a script again registers nothing: all nodes stay as they are, ids and order included.
The edges come first among those of both runs, and where targets are linked to what their own
statement reads, the second run draws the same edges again in the same order. -/
theorem analyzeStatements_replay (recurse : Bool) (statements : List Statement) :
    (∀ linking : SourceLinking,
      let once := (analyzeStatements ⟨linking, recurse⟩ statements).graph
      let twice := (analyzeStatements ⟨linking, recurse⟩ (statements ++ statements)).graph
      twice.nodes = once.nodes ∧
        twice.summary.totalTables = once.summary.totalTables ∧
        twice.summary.tableTypes = once.summary.tableTypes ∧
        once.edges <+: twice.edges) ∧
    (let once := (analyzeStatements ⟨.statementSources, recurse⟩ statements).graph
      let twice := (analyzeStatements ⟨.statementSources, recurse⟩ (statements ++ statements)).graph
      twice.outline.edges = once.outline.edges ++ once.outline.edges) := by
  constructor
  · intro linking once twice
    have htables := tables_replay linking recurse statements
    have hedge : (registryOf ⟨linking, recurse⟩ (statements ++ statements)).edge? =
        (registryOf ⟨linking, recurse⟩ statements).edge? := by
      funext relationship
      simp only [edge?, table?_eq_find?, htables]
    have hprefix := relationships_replay linking recurse statements
    simp only [once, twice, analyzeStatements_graph, graph, htables, hedge, true_and]
    exact hprefix.filterMap _
  · intro once twice
    have htables := tables_replay .statementSources recurse statements
    have hnames : (registryOf ⟨.statementSources, recurse⟩ (statements ++ statements)).names =
        (registryOf ⟨.statementSources, recurse⟩ statements).names := by
      rw [names, names, htables]
    have hdraws := draws_congr (fun name => iff_of_eq (congrArg (name ∈ ·) hnames))
    simp only [once, twice, analyzeStatements_outline, links_replay, hdraws, List.filter_append,
      List.map_append]

end SqlLineage
