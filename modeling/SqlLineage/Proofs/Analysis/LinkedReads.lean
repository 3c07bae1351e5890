import Mathlib.Data.List.Basic
import Mathlib.Data.List.Induction
import SqlLineage.Proofs.Analysis.SourceLinking
import SqlLineage.Proofs.Registry.Extension

/-!
# What a filled table is linked to

A statement that fills a table from a query links it once to each table that the query reads, in the
order in which they are read first, or once to each table that is known as a source once the query
is read, in the order of discovery; never to itself.  Which tables a query reads, and in which
order, is told by its common tables, its relations and its further branches alone.
-/

namespace SqlLineage

open Registry

/-! ## The tables that a query reads -/

mutual

/-- The tables that a query reads, in order, where common tables of those names are in view. -/
def Select.reads (visible : List String) : Select → List String
  | ⟨ctes, sources, _, _, union⟩ =>
    let inner := ctes.map CommonTable.name ++ visible
    CommonTable.reads visible ctes ++ FromItem.reads inner sources
      ++ Select.branchReads inner union

/-- The tables that common tables read; each is in view for those after it. -/
def CommonTable.reads (visible : List String) : List CommonTable → List String
  | [] => []
  | ⟨name, query⟩ :: rest => query.reads visible ++ CommonTable.reads (name :: visible) rest

/-- The tables that relations read, from left to right. -/
def FromItem.reads (visible : List String) : List FromItem → List String
  | [] => []
  | item :: rest => item.ownReads visible ++ FromItem.reads visible rest

/-- A derived table stands for what it reads, and a common table in view for nothing. -/
def FromItem.ownReads (visible : List String) : FromItem → List String
  | ⟨.table name, _, _, _⟩ => if name ∈ visible then [] else [name]
  | ⟨.subquery query, _, _, _⟩ => query.reads visible

/-- The tables that the branches of a set operation read. -/
def Select.branchReads (visible : List String) : List Select → List String
  | [] => []
  | branch :: rest => branch.reads visible ++ Select.branchReads visible rest

end

/-- The common tables of a scope are those of that list. -/
def Scope.Views (scope : Scope) (visible : List String) : Prop :=
  ∀ name, name ∈ scope.ctes ↔ name ∈ visible

namespace Scope.Views

theorem empty : Scope.Views ⟨[], []⟩ [] :=
  fun _ => Iff.rfl

variable {scope : Scope} {visible : List String}

theorem addCtes (hviews : scope.Views visible) (names : List String) :
    (scope.addCtes names).Views (names ++ visible) := by
  intro name
  rw [mem_ctes_addCtes, List.mem_append, hviews name]

theorem addCte (hviews : scope.Views visible) (name : String) :
    (scope.addCte name).Views (name :: visible) :=
  hviews.addCtes [name]

theorem bindItem (hviews : scope.Views visible) (item : FromItem) :
    (scope.bindItem item).Views visible := by
  intro name
  rw [ctes_bindItem, hviews name]

end Scope.Views

mutual

/-- The events of a query read the tables that the query reads. -/
theorem reads_selectEvents (recurse : Bool) {scope : Scope} {visible : List String}
    (hviews : scope.Views visible) (query : Select) :
    Event.reads (query.events recurse scope) = query.reads visible := by
  match query with
  | ⟨ctes, sources, columns, selection, union⟩ =>
    have houter := hviews.addCtes (ctes.map CommonTable.name)
    rw [Select.events, Select.reads]
    simp only [Event.reads_append, reads_blockEvents, List.append_nil,
      reads_cteEvents recurse hviews ctes, reads_itemEvents recurse houter sources,
      reads_branchEvents recurse houter union]

theorem reads_cteEvents (recurse : Bool) {scope : Scope} {visible : List String}
    (hviews : scope.Views visible) (ctes : List CommonTable) :
    Event.reads (CommonTable.events recurse scope ctes) = CommonTable.reads visible ctes := by
  match ctes with
  | [] => rfl
  | ⟨name, query⟩ :: rest =>
    rw [CommonTable.events, CommonTable.reads, Event.reads_append,
      reads_selectEvents recurse hviews query,
      reads_cteEvents recurse (hviews.addCte name) rest]

theorem reads_itemEvents (recurse : Bool) {scope : Scope} {visible : List String}
    (hviews : scope.Views visible) (sources : List FromItem) :
    Event.reads (FromItem.events recurse scope sources) = FromItem.reads visible sources := by
  match sources with
  | [] => rfl
  | item :: rest =>
    rw [FromItem.events, FromItem.reads, Event.reads_append,
      reads_ownEvents recurse hviews item,
      reads_itemEvents recurse (hviews.bindItem item) rest]

theorem reads_ownEvents (recurse : Bool) {scope : Scope} {visible : List String}
    (hviews : scope.Views visible) (item : FromItem) :
    Event.reads (FromItem.ownEvents recurse scope item) = item.ownReads visible := by
  match item with
  | ⟨.table name, _, _, _⟩ =>
    rw [FromItem.ownEvents, FromItem.ownReads]
    by_cases hvisible : name ∈ visible
    · rw [if_pos (Scope.isCte_iff.mpr ((hviews name).mpr hvisible)), if_pos hvisible]
      rfl
    · rw [if_neg (mt Scope.isCte_iff.mp (mt (hviews name).mp hvisible)), if_neg hvisible]
      rfl
  | ⟨.subquery query, _, _, _⟩ =>
    rw [FromItem.ownEvents, FromItem.ownReads]
    exact reads_selectEvents recurse hviews query

theorem reads_branchEvents (recurse : Bool) {scope : Scope} {visible : List String}
    (hviews : scope.Views visible) (branches : List Select) :
    Event.reads (Select.branchEvents recurse scope branches) =
      Select.branchReads visible branches := by
  match branches with
  | [] => rfl
  | branch :: rest =>
    rw [Select.branchEvents, Select.branchReads, Event.reads_append,
      reads_selectEvents recurse hviews branch, reads_branchEvents recurse hviews rest]

end

/-! ## Statements that fill a table -/

/-- A table that is filled from a query, behind common tables, with the kind of the links to it. -/
structure Filling where
  target : String
  kind : RelationshipKind
  ctes : List CommonTable
  query : Select

/-- INSERT with a query, CREATE TABLE with a query, and CREATE VIEW fill a table. -/
def Statement.filling? : Statement → Option Filling
  | .insert ⟨ctes, table, _, .query query⟩ => some ⟨table, .insert, ctes, query⟩
  | .createTable ⟨table, _, _, some query⟩ => some ⟨table, .insert, [], query⟩
  | .createView ⟨view, query⟩ => some ⟨view, .viewDependency, [], query⟩
  | _ => none

/-- The tables that a filled table is filled from, in the order in which they are read. -/
def Filling.reads (filling : Filling) : List String :=
  CommonTable.reads [] filling.ctes ++ filling.query.reads (filling.ctes.map CommonTable.name)

/-- A statement that fills a table links it last, and reads before what fills it. -/
theorem Statement.filled_of_filling? {statement : Statement} {filling : Filling}
    (hfilling : statement.filling? = some filling) :
    statement.filled? = some (filling.target, filling.kind) ∧
      ∀ recurse, Event.reads (statement.ownEvents recurse) = filling.reads := by
  have hnone : ∀ recurse query, Event.reads (Select.events recurse ⟨[], []⟩ query) =
      query.reads [] := fun recurse query => reads_selectEvents recurse .empty query
  cases statement with
  | insert change =>
    obtain ⟨ctes, table, columns, source⟩ := change
    cases source with
    | query rows =>
      cases hfilling
      refine ⟨rfl, fun recurse => ?_⟩
      have hviews := Scope.Views.empty.addCtes (ctes.map CommonTable.name)
      rw [List.append_nil] at hviews
      rw [ownEvents, Event.reads_cons_of_ne (by decide), Event.reads_append,
        reads_cteEvents recurse .empty, InsertSource.events,
        CommonTable.scope, reads_selectEvents recurse hviews]
      rfl
    | values => cases hfilling
    | defaultValues => cases hfilling
  | createTable create =>
    obtain ⟨table, columns, keys, query⟩ := create
    cases query with
    | some query =>
      cases hfilling
      refine ⟨rfl, fun recurse => ?_⟩
      rw [ownEvents, Event.reads_cons_of_ne (by decide), Event.reads_append, reads_declarations,
        Option.toList_some, List.flatMap_singleton, hnone]
      rfl
    | none => cases hfilling
  | createView create =>
    cases hfilling
    refine ⟨rfl, fun recurse => ?_⟩
    rw [ownEvents, Event.reads_cons_of_ne (by decide), hnone]
    rfl
  | select _ | update _ | delete _ | alterTable _ | unsupported _ => cases hfilling

/-! ## Order of first occurrence -/

/-- The members of a list other than one, each once, in the order in which they first occur. -/
structure ListsFirst (names : List String) (excluded : String) (firsts : List String) : Prop where
  mem_iff : ∀ name, name ∈ firsts ↔ name ∈ names ∧ name ≠ excluded
  ordered : firsts.Pairwise (fun first second => names.idxOf first < names.idxOf second)

theorem firstOccurrences_append_singleton (names : List String) (name : String) :
    firstOccurrences (names ++ [name]) =
      if name ∈ names then firstOccurrences names else firstOccurrences names ++ [name] := by
  have hlast : firstOccurrences (names ++ [name]) =
      if (firstOccurrences names).contains name then firstOccurrences names
      else firstOccurrences names ++ [name] := List.foldl_append
  have hkept : (firstOccurrences names).contains name = true ↔ name ∈ names := by
    rw [List.contains_iff_mem, mem_firstOccurrences]
  rw [hlast]
  simp only [hkept]

theorem firstOccurrences_ordered (names : List String) :
    (firstOccurrences names).Pairwise
      (fun first second => names.idxOf first < names.idxOf second) := by
  induction names using List.reverseRecOn with
  | nil => exact List.Pairwise.nil
  | append_singleton names last ih =>
    have hold : (firstOccurrences names).Pairwise (fun first second =>
        (names ++ [last]).idxOf first < (names ++ [last]).idxOf second) := by
      apply ih.imp_of_mem
      intro first second hfirst hsecond hlt
      rw [List.idxOf_append_of_mem (mem_firstOccurrences.mp hfirst),
        List.idxOf_append_of_mem (mem_firstOccurrences.mp hsecond)]
      exact hlt
    rw [firstOccurrences_append_singleton]
    split
    · exact hold
    · rename_i hnew
      rw [List.pairwise_append]
      refine ⟨hold, List.pairwise_singleton _ _, fun first hfirst second hsecond => ?_⟩
      have hmem : first ∈ names := mem_firstOccurrences.mp hfirst
      rw [List.mem_singleton.mp hsecond, List.idxOf_append_of_mem hmem,
        List.idxOf_append_of_notMem hnew]
      exact Nat.lt_of_lt_of_le (List.idxOf_lt_length_of_mem hmem) (Nat.le_add_right _ _)

theorem listsFirst_firstOccurrences (names : List String) (excluded : String) :
    ListsFirst names excluded ((firstOccurrences names).filter (· ≠ excluded)) where
  mem_iff := by
    intro name
    rw [List.mem_filter, mem_firstOccurrences, decide_eq_true_eq]
  ordered := (firstOccurrences_ordered names).filter _

/-! ## Links of a filled table -/

/-- The tables that a filled table is linked to, where that is the registry once its query is
read: those that are read, or those that are known as sources by then. -/
def Filling.LinksTo (filling : Filling) (linking : SourceLinking) (registry : Registry)
    (sources : List String) : Prop :=
  match linking with
  | .statementSources => ListsFirst filling.reads filling.target sources
  | .allKnownSources =>
    sources = (registry.namesOfKind .source).filter (· ≠ filling.target) ∧ sources.Nodup

theorem Filling.linksTo_linkedSources (filling : Filling) (linking : SourceLinking)
    {registry : Registry} (hnodup : registry.names.Nodup) :
    filling.LinksTo linking registry
      ((linkedSources linking filling.reads registry).filter (· ≠ filling.target)) := by
  cases linking with
  | statementSources => exact listsFirst_firstOccurrences filling.reads filling.target
  | allKnownSources => exact ⟨rfl, (namesOfKind_nodup hnodup .source).filter _⟩

/-- Plain events add the links that they name, whatever is registered. -/
theorem links_recordAll_of_isPlain (linking : SourceLinking) (registry : Registry)
    {events : List Event} (hplain : ∀ event ∈ events, event.IsPlain) :
    (registry.recordAll linking events).links =
      registry.links ++ events.flatMap Event.links := by
  induction events generalizing registry with
  | nil => simp
  | cons event rest ih =>
    rw [List.forall_mem_cons] at hplain
    rw [recordAll_cons, ih _ hplain.2, links_record, added_of_isPlain hplain.1, List.flatMap_cons,
      List.append_assoc]

/-- None of the links of plain events fills a table. -/
theorem filter_links_recordAll_of_isPlain (linking : SourceLinking) (registry : Registry)
    {events : List Event} (hplain : ∀ event ∈ events, event.IsPlain) :
    (registry.recordAll linking events).links.filter (fun link => link.kind.isLinking) =
      registry.links.filter (fun link => link.kind.isLinking) := by
  have hnone : (events.flatMap Event.links).filter (fun link => link.kind.isLinking) = [] := by
    rw [List.filter_eq_nil_iff]
    intro link hlink
    obtain ⟨event, hevent, hmem⟩ := List.mem_flatMap.mp hlink
    rw [isLinking_of_mem_links (hplain event hevent) hmem]
    exact Bool.false_ne_true
  rw [links_recordAll_of_isPlain linking registry hplain, List.filter_append, hnone,
    List.append_nil]

/-- A statement that fills a table records its own events, and then the links to the table. -/
theorem analyzeStatement_eq_link (options : Options) {statement : Statement} {filling : Filling}
    (hfilling : statement.filling? = some filling) (registry : Registry) :
    analyzeStatement options statement registry =
      (registry.recordAll options.sourceLinking
        (statement.ownEvents options.recurseConditions)).record options.sourceLinking
        (.link filling.reads filling.target filling.kind) := by
  obtain ⟨hfilled, hreads⟩ := Statement.filled_of_filling? hfilling
  rw [analyzeStatement_eq, Statement.events_eq, recordAll_append, Statement.linkEvents, hfilled,
    hreads]
  rfl

/-- Of the links behind a statement that fills a table, those that fill one are the old ones, and
then one from each table that the statement links. -/
theorem filter_links_analyzeStatement (options : Options) {statement : Statement}
    {filling : Filling} (hfilling : statement.filling? = some filling) (registry : Registry) :
    (analyzeStatement options statement registry).links.filter (fun link => link.kind.isLinking) =
      registry.links.filter (fun link => link.kind.isLinking) ++
        ((linkedSources options.sourceLinking filling.reads
          (analyzeStatement options statement registry)).filter (· ≠ filling.target)).map
          (fun source => ⟨source, filling.kind, filling.target⟩) := by
  have hkind : filling.kind.isLinking = true :=
    Statement.isLinking_of_filled? (Statement.filled_of_filling? hfilling).1
  have hplain : ∀ event ∈ statement.ownEvents options.recurseConditions, event.IsPlain :=
    fun _ hevent => isPlain_of_mem_ownEvents hevent
  have hown := filter_links_recordAll_of_isPlain options.sourceLinking registry hplain
  rw [analyzeStatement_eq_link options hfilling registry, links_record, List.filter_append, hown]
  generalize registry.recordAll options.sourceLinking
    (statement.ownEvents options.recurseConditions) = queried
  have hsame : queried.outline = (queried.record options.sourceLinking
      (.link filling.reads filling.target filling.kind)).outline :=
    (outline_addRelationships queried _ filling.target filling.kind).symm
  have hall : (queried.added options.sourceLinking
      (.link filling.reads filling.target filling.kind)).filter (fun link => link.kind.isLinking) =
      queried.added options.sourceLinking
        (.link filling.reads filling.target filling.kind) := by
    rw [List.filter_eq_self]
    intro link hlink
    rw [(mem_map_link.mp hlink).2.2.1, hkind]
  rw [hall, ← linkedSources_congr hsame options.sourceLinking filling.reads]
  rfl

/-- A statement that fills a table appends links to it, and to no other table: one for each table
that it is to be linked to, in that order.  Linking registers no table, so the sources known once
the query is read are those known behind the statement. -/
theorem analyzeStatement_fills (earlier options : Options) (before : List Statement)
    {statement : Statement} {filling : Filling}
    (hfilling : statement.filling? = some filling) :
    let registry := registryOf earlier before
    let after := analyzeStatement options statement registry
    ∃ (appended : List Relationship) (sources : List String),
      after.relationships = registry.relationships ++ appended ∧
        (appended.filter (fun relationship => relationship.kind.isLinking)).map
            Relationship.link =
          sources.map (fun source => ⟨source, filling.kind, filling.target⟩) ∧
        filling.LinksTo options.sourceLinking after sources := by
  intro registry after
  have hgrows : Grows registry after := analyzeStatement_grows options statement registry
  have hformed : after.WellFormed := (registryOf_wellFormed earlier before).grows hgrows
  obtain ⟨appended, happended⟩ := (Grows.extends hgrows).relationships
  have hlinks : after.links = registry.links ++ appended.map Relationship.link := by
    rw [links, ← happended, List.map_append]
    rfl
  have hfills := filter_links_analyzeStatement options hfilling registry
  refine ⟨appended, (linkedSources options.sourceLinking filling.reads after).filter
    (· ≠ filling.target), happended.symm, ?_,
    filling.linksTo_linkedSources options.sourceLinking hformed.names_nodup⟩
  rw [show analyzeStatement options statement registry = after from rfl, hlinks,
    List.filter_append, List.append_cancel_left_eq, List.filter_map] at hfills
  exact hfills

/-- `SELECT * FROM sources` -/
def Select.reading (sources : List FromItem) : Select :=
  { sources := sources }

/-- `WITH d AS (SELECT * FROM c, b)
SELECT * FROM d, (SELECT * FROM b, t) AS s UNION SELECT * FROM a, e` -/
def Filling.nested : Filling :=
  let named (name : String) : FromItem := { source := .table name }
  { target := "t"
    kind := .insert
    ctes := [⟨"c", .reading [named "a"]⟩]
    query :=
      { ctes := [⟨"d", .reading [named "c", named "b"]⟩]
        sources := [named "d",
          { source := .subquery (.reading [named "b", named "t"]), aliasName := some "s" }]
        union := [.reading [named "a", named "e"]] } }

/-- `WITH c AS (SELECT * FROM a) INSERT INTO t …` -/
def Statement.fillingNested : Statement :=
  .insert { ctes := Filling.nested.ctes, table := "t", source := .query Filling.nested.query }

/-- The tables `a` and `b` are read twice and linked once, and `t` is not linked to itself.  A table
that was read before is linked only where all known sources are. -/
theorem fills_nested :
    Statement.fillingNested.filling? = some .nested ∧
      Filling.nested.reads = ["a", "b", "b", "t", "a", "e"] ∧
      (∃ (appended : List Relationship) (sources : List String),
        (analyzeStatement ⟨.statementSources, false⟩ .fillingNested
            (registryOf {} [.readingAudit])).relationships = appended ∧
          (appended.filter (fun relationship => relationship.kind.isLinking)).map
              Relationship.link =
            sources.map (fun source => ⟨source, .insert, "t"⟩) ∧
          ListsFirst ["a", "b", "b", "t", "a", "e"] "t" sources) ∧
      (analyzeStatement ⟨.statementSources, false⟩ .fillingNested
          (registryOf {} [.readingAudit])).links =
        [⟨"a", .insert, "t"⟩, ⟨"b", .insert, "t"⟩, ⟨"e", .insert, "t"⟩] ∧
      (analyzeStatement {} .fillingNested (registryOf {} [.readingAudit])).links =
        [⟨"audit_log", .insert, "t"⟩, ⟨"a", .insert, "t"⟩, ⟨"b", .insert, "t"⟩,
          ⟨"e", .insert, "t"⟩] := by
  have hreads : Filling.nested.reads = ["a", "b", "b", "t", "a", "e"] := by decide
  have hfilling : Statement.fillingNested.filling? = some .nested := rfl
  obtain ⟨appended, sources, happended, hlinks, hsources⟩ :=
    analyzeStatement_fills {} ⟨.statementSources, false⟩ [.readingAudit] hfilling
  refine ⟨hfilling, hreads, ⟨appended, sources, happended, hlinks, ?_⟩, by decide, by decide⟩
  rw [← hreads]
  exact hsources

end SqlLineage
