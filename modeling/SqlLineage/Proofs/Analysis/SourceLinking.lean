import Mathlib.Data.List.Count
import SqlLineage.Proofs.Analysis.Composition
import SqlLineage.Proofs.Analysis.Recording

/-!
# The two ways of linking sources

A target is linked to every table known as a source so far, or to the tables that its own statement
reads.  Two runs that differ in this register the same tables and columns, and relate the same
tables by joins and foreign keys.  A link of the first way starts at a source, and a link of the
second way that does so is also one of the first way.
-/

namespace SqlLineage

open Registry

/-! ## Links of one event -/

section Links

variable {event : Event}

theorem added_of_isPlain (hplain : event.IsPlain) (linking : SourceLinking)
    (registry : Registry) : registry.added linking event = event.links := by
  cases event with
  | link reads target kind => cases hplain
  | table _ _ | column _ _ _ | relationship _ _ _ => rfl

theorem isLinking_of_mem_links (hplain : event.IsPlain) {link : Link}
    (hlink : link ∈ event.links) : link.kind.isLinking = false := by
  cases event with
  | table name kind => cases hlink
  | column table name role => cases hlink
  | relationship source target kind =>
    rw [Event.links] at hlink
    split at hlink
    · cases hlink
    · rw [List.mem_singleton.mp hlink]
      exact hplain
  | link reads target kind => cases hplain

/-- A link from one of some sources to a target. -/
theorem mem_map_link {sources : List String} {target : String} {kind : RelationshipKind}
    {link : Link} :
    link ∈ (sources.filter (· ≠ target)).map (fun source => ⟨source, kind, target⟩) ↔
      link.source ∈ sources ∧ link.source ≠ target ∧ link.kind = kind ∧ link.target = target := by
  obtain ⟨source, linkKind, linkTarget⟩ := link
  simp only [List.mem_map, List.mem_filter, decide_eq_true_eq, Link.mk.injEq]
  constructor
  · rintro ⟨_, ⟨hsource, hne⟩, rfl, rfl, rfl⟩
    exact ⟨hsource, hne, rfl, rfl⟩
  · rintro ⟨hsource, hne, rfl, rfl⟩
    exact ⟨source, ⟨hsource, hne⟩, rfl, rfl, rfl⟩

/-- Every link to a target is of the kind of the target. -/
theorem filter_map_link {kind : RelationshipKind} (hlinking : kind.isLinking = true)
    (sources : List String) (target : String) :
    ((sources.filter (· ≠ target)).map (fun source => (⟨source, kind, target⟩ : Link))).filter
      (fun link => !link.kind.isLinking) = [] := by
  rw [List.filter_eq_nil_iff]
  intro link hlink
  obtain ⟨-, -, hkind, -⟩ := mem_map_link.mp hlink
  rw [hkind, hlinking]
  exact Bool.false_ne_true

/-- A target is linked to a source as often as before if the sources that are linked once are still
among the sources. -/
theorem count_map_link_le {first second : List String} (hnodup : first.Nodup) (target : String)
    (kind : RelationshipKind) {link : Link}
    (hsource : link.source ∈ first → link.source ∈ second) :
    ((first.filter (· ≠ target)).map (fun source => (⟨source, kind, target⟩ : Link))).count link ≤
      ((second.filter (· ≠ target)).map
        (fun source => (⟨source, kind, target⟩ : Link))).count link := by
  by_cases hlink : link ∈ (first.filter (· ≠ target)).map
      (fun source => (⟨source, kind, target⟩ : Link))
  · have hnodupLinks := (hnodup.filter (· ≠ target)).map (Link.injective_source target kind)
    have honce := List.nodup_iff_count_le_one.mp hnodupLinks link
    obtain ⟨hmem, hne, hkind, htarget⟩ := mem_map_link.mp hlink
    have hother := mem_map_link.mpr ⟨hsource hmem, hne, hkind, htarget⟩
    exact Nat.le_trans honce (List.count_pos_iff.mpr hother)
  · rw [List.count_eq_zero_of_not_mem hlink]
    exact Nat.zero_le _

end Links

theorem firstOccurrences_nodup (names : List String) : (firstOccurrences names).Nodup := by
  have hfold : ∀ kept : List String, kept.Nodup →
      (names.foldl (fun kept name =>
        if kept.contains name then kept else kept ++ [name]) kept).Nodup := by
    induction names with
    | nil => exact fun kept hkept => hkept
    | cons first rest ih =>
      intro kept hkept
      rw [List.foldl_cons]
      apply ih
      by_cases hfirst : first ∈ kept
      · simpa [hfirst] using hkept
      · simpa [hfirst, List.concat_eq_append] using hkept.concat hfirst
  exact hfold [] List.nodup_nil

/-! ## Two runs side by side -/

/-- The registries of two runs, of which the first links targets to all known sources and the second
to what their own statements read. -/
structure Registry.Parallel (known own : Registry) : Prop where
  outline_eq : known.outline = own.outline
  others_eq : known.links.filter (fun link => !link.kind.isLinking) =
    own.links.filter (fun link => !link.kind.isLinking)
  from_sources : ∀ link ∈ known.links, link.kind.isLinking = true →
    link.source ∈ known.namesOfKind .source
  registered : ∀ link ∈ own.links, link.kind.isLinking = true → link.source ∈ own.names
  count_le : ∀ link : Link, link.kind.isLinking = true →
    link.source ∈ own.namesOfKind .source → own.links.count link ≤ known.links.count link

namespace Registry.Parallel

variable {known own : Registry}

theorem names_eq (hparallel : Parallel known own) : known.names = own.names := by
  rw [names_eq_outline, names_eq_outline, hparallel.outline_eq]

theorem namesOfKind_eq (hparallel : Parallel known own) (kind : TableKind) :
    known.namesOfKind kind = own.namesOfKind kind := by
  rw [namesOfKind_eq_outline, namesOfKind_eq_outline, hparallel.outline_eq]

/-- A plain event adds the same links to both, none of which fills a target. -/
theorem plain (hparallel : Parallel known own) {event : Event} (hplain : event.IsPlain) :
    Parallel (known.record .allKnownSources event) (own.record .statementSources event) := by
  have hknown : (known.record .allKnownSources event).links = known.links ++ event.links := by
    rw [links_record, added_of_isPlain hplain]
  have hown : (own.record .statementSources event).links = own.links ++ event.links := by
    rw [links_record, added_of_isPlain hplain]
  have hnone : ∀ link : Link, link.kind.isLinking = true → link ∉ event.links := by
    intro link hlinking hlink
    rw [isLinking_of_mem_links hplain hlink] at hlinking
    cases hlinking
  constructor
  · exact outline_record_congr hparallel.outline_eq .allKnownSources .statementSources event
  · rw [hknown, hown, List.filter_append, List.filter_append, hparallel.others_eq]
  · intro link hlink hlinking
    rw [hknown] at hlink
    have hold := (List.mem_append.mp hlink).resolve_right (hnone link hlinking)
    exact mem_namesOfKind_record.mpr (Or.inr (hparallel.from_sources link hold hlinking))
  · intro link hlink hlinking
    rw [hown] at hlink
    have hold := (List.mem_append.mp hlink).resolve_right (hnone link hlinking)
    exact mem_names_record.mpr (Or.inr (hparallel.registered link hold hlinking))
  · intro link hlinking hsource
    rw [hknown, hown, List.count_append, List.count_append]
    apply Nat.add_le_add_right
    rcases mem_namesOfKind_record.mp hsource with ⟨-, hnew⟩ | hold
    -- No link starts at a table that is only registered now.
    · have habsent : link ∉ own.links :=
        fun hlink => hnew (hparallel.registered link hlink hlinking)
      rw [List.count_eq_zero_of_not_mem habsent]
      exact Nat.zero_le _
    · exact hparallel.count_le link hlinking hold

/-- Linking a target to registered tables. -/
theorem link (hparallel : Parallel known own) {reads : List String} {target : String}
    {kind : RelationshipKind} (hlinking : kind.isLinking = true)
    (hreads : ∀ name ∈ reads, name ∈ own.names) :
    Parallel (known.record .allKnownSources (.link reads target kind))
      (own.record .statementSources (.link reads target kind)) := by
  have hknown := links_record .allKnownSources known (.link reads target kind)
  have hown := links_record .statementSources own (.link reads target kind)
  simp only [added, linkedSources] at hknown hown
  have hnames : (own.record .statementSources (.link reads target kind)).names = own.names :=
    names_addRelationships own _ target kind
  have hkinds : ∀ registry linking, (Registry.record linking registry
      (.link reads target kind)).namesOfKind .source = registry.namesOfKind .source := by
    intro registry linking
    rw [namesOfKind_eq_outline, namesOfKind_eq_outline, record, outline_addRelationships]
  constructor
  · exact outline_record_congr hparallel.outline_eq .allKnownSources .statementSources _
  · rw [hknown, hown, List.filter_append, List.filter_append, filter_map_link hlinking,
      filter_map_link hlinking, List.append_nil, List.append_nil, hparallel.others_eq]
  · intro link hlink hkind
    rw [hkinds]
    rw [hknown] at hlink
    rcases List.mem_append.mp hlink with hold | hnew
    · exact hparallel.from_sources link hold hkind
    · exact (mem_map_link.mp hnew).1
  · intro link hlink hkind
    rw [hnames]
    rw [hown] at hlink
    rcases List.mem_append.mp hlink with hold | hnew
    · exact hparallel.registered link hold hkind
    · exact hreads link.source (mem_firstOccurrences.mp (mem_map_link.mp hnew).1)
  · intro link hkind hsource
    rw [hkinds] at hsource
    rw [hknown, hown, List.count_append, List.count_append]
    apply Nat.add_le_add (hparallel.count_le link hkind hsource)
    apply count_map_link_le (firstOccurrences_nodup reads)
    intro _
    rwa [hparallel.namesOfKind_eq]

theorem recordPlain (hparallel : Parallel known own) {events : List Event}
    (hplain : ∀ event ∈ events, event.IsPlain) :
    Parallel (known.recordAll .allKnownSources events)
      (own.recordAll .statementSources events) := by
  induction events generalizing known own with
  | nil => exact hparallel
  | cons event rest ih =>
    have hfirst := hparallel.plain (hplain event List.mem_cons_self)
    exact ih hfirst fun other hother => hplain other (List.mem_cons_of_mem _ hother)

theorem statement (hparallel : Parallel known own) (recurse : Bool) (statement : Statement) :
    Parallel (known.recordAll .allKnownSources (statement.events recurse))
      (own.recordAll .statementSources (statement.events recurse)) := by
  have hplain : ∀ event ∈ statement.ownEvents recurse, event.IsPlain :=
    fun _ hevent => isPlain_of_mem_ownEvents hevent
  have hbefore := hparallel.recordPlain hplain
  rw [statement.events_eq, recordAll_append, recordAll_append, Statement.linkEvents]
  cases hfilled : statement.filled? with
  | none => exact hbefore
  | some filled =>
    obtain ⟨target, kind⟩ := filled
    apply hbefore.link (Statement.isLinking_of_filled? hfilled)
    intro name hname
    exact mem_names_recordAll.mpr (Or.inl (Event.mem_names_of_mem_reads hname))

theorem statements (hparallel : Parallel known own) (recurse : Bool)
    (statements : List Statement) :
    Parallel (known.recordAll .allKnownSources (statements.flatMap (Statement.events recurse)))
      (own.recordAll .statementSources (statements.flatMap (Statement.events recurse))) := by
  induction statements generalizing known own with
  | nil => exact hparallel
  | cons statement rest ih =>
    rw [List.flatMap_cons, recordAll_append, recordAll_append]
    exact ih (hparallel.statement recurse statement)

end Registry.Parallel

/-- The two ways of linking lead to registries that differ in links only. -/
theorem registryOf_parallel (recurse : Bool) (statements : List Statement) :
    Parallel (registryOf ⟨.allKnownSources, recurse⟩ statements)
      (registryOf ⟨.statementSources, recurse⟩ statements) := by
  have hempty : Parallel {} {} := ⟨rfl, rfl, by simp [links], by simp [links], by simp [links]⟩
  rw [registryOf_eq, registryOf_eq]
  exact hempty.statements recurse statements

/-! ## Graphs side by side -/

/-- An edge read as the label of its source, its kind and the label of its target. -/
def Graph.triple (graph : Graph) (edge : Edge) :
    Option String × RelationshipKind × Option String :=
  (graph.tableLabel? edge.source, edge.kind, graph.tableLabel? edge.target)

/-- The node that an edge starts at is that of a source. -/
def Graph.StartsAtSource (graph : Graph) (edge : Edge) : Prop :=
  ∃ table ∈ graph.tables, table.id = edge.source ∧ table.kind = .source

/-- An edge is that of a link, and it starts at a source if the link does. -/
theorem Registry.exists_link_of_mem_edges {registry : Registry} (hformed : registry.WellFormed)
    {edge : Edge} (hedge : edge ∈ registry.graph.edges) :
    ∃ link ∈ registry.links, registry.Draws link ∧ link.kind = edge.kind ∧
      registry.graph.triple edge = link.edge ∧
      (registry.graph.StartsAtSource edge ↔ link.source ∈ registry.namesOfKind .source) := by
  obtain ⟨relationship, hrelationship, source, hsource, target, htarget, hsourceName, htargetName,
    rfl⟩ := mem_graph_edges hedge
  refine ⟨relationship.link, List.mem_map_of_mem hrelationship, ?_, rfl, ?_, ?_⟩
  · exact ⟨List.mem_map.mpr ⟨source, hsource, hsourceName⟩,
      List.mem_map.mpr ⟨target, htarget, htargetName⟩⟩
  · rw [Graph.triple, graph_tableLabel? hformed hsource, graph_tableLabel? hformed htarget,
      hsourceName, htargetName]
    rfl
  · rw [Graph.StartsAtSource, graph_tables, mem_namesOfKind]
    constructor
    · rintro ⟨node, hnode, hid, hkind⟩
      obtain ⟨table, htable, rfl⟩ := List.mem_map.mp hnode
      have hsame : table = source :=
        List.inj_on_of_nodup_map (hformed.tables_increasing.imp Nat.ne_of_lt) htable hsource
          (Table.nodeId_inj.mp hid)
      exact ⟨table, htable, hsame ▸ hsourceName, hkind⟩
    · rintro ⟨table, htable, hname, hkind⟩
      have hsame : table = source :=
        List.inj_on_of_nodup_map hformed.names_nodup htable hsource
          (hname.trans hsourceName.symm)
      exact ⟨table.node, List.mem_map_of_mem htable, congrArg Table.nodeId hsame, hkind⟩

/-- How often an edge is drawn. -/
theorem Registry.count_edge (registry : Registry) {link : Link} (hdraws : registry.Draws link) :
    ((registry.links.filter registry.Draws).map Link.edge).count link.edge =
      registry.links.count link := by
  rw [List.count_map_of_injective _ _ Link.edge_injective, List.count_filter]
  exact decide_eq_true hdraws

/-- The edges that link no target are those of the links that link none. -/
theorem Registry.filter_edges (registry : Registry) :
    ((registry.links.filter registry.Draws).map Link.edge).filter
        (fun edge => !edge.2.1.isLinking) =
      ((registry.links.filter (fun link => !link.kind.isLinking)).filter
        registry.Draws).map Link.edge := by
  rw [List.filter_map, List.filter_comm]
  rfl

/-- The way of linking decides on link edges only: the tables are the same, with their kinds and
columns, and so are the joins and foreign keys, in order.  Where all known sources are linked, every
link starts at a source, and the links that the own statement's sources would give are all there, as
far as they start at a source. -/
theorem analyzeStatements_linking (recurse : Bool) (statements : List Statement) :
    let known := (analyzeStatements ⟨.allKnownSources, recurse⟩ statements).graph
    let own := (analyzeStatements ⟨.statementSources, recurse⟩ statements).graph
    known.outline.tables = own.outline.tables ∧
      known.outline.edges.filter (fun edge => !edge.2.1.isLinking) =
        own.outline.edges.filter (fun edge => !edge.2.1.isLinking) ∧
      (∀ edge ∈ known.edges, edge.kind.isLinking = true → known.StartsAtSource edge) ∧
      (∀ edge ∈ own.edges, edge.kind.isLinking = true → own.StartsAtSource edge →
        own.outline.edges.count (own.triple edge) ≤
          known.outline.edges.count (own.triple edge)) := by
  intro known own
  have hparallel := registryOf_parallel recurse statements
  have hknown := registryOf_wellFormed ⟨.allKnownSources, recurse⟩ statements
  have hown := registryOf_wellFormed ⟨.statementSources, recurse⟩ statements
  have hdraws : ∀ link, (registryOf ⟨.allKnownSources, recurse⟩ statements).Draws link ↔
      (registryOf ⟨.statementSources, recurse⟩ statements).Draws link :=
    draws_congr fun name => by rw [hparallel.names_eq]
  simp only [known, own, analyzeStatements_outline]
  refine ⟨hparallel.outline_eq, ?_, ?_, ?_⟩
  · rw [filter_edges, filter_edges, hparallel.others_eq]
    simp only [hdraws]
  · intro edge hedge hlinking
    obtain ⟨link, hlink, -, hkind, -, hstarts⟩ := exists_link_of_mem_edges hknown hedge
    exact hstarts.mpr (hparallel.from_sources link hlink (hkind ▸ hlinking))
  · intro edge hedge hlinking hsource
    obtain ⟨link, -, hdrawn, hkind, htriple, hstarts⟩ := exists_link_of_mem_edges hown hedge
    have hcount := hparallel.count_le link (hkind ▸ hlinking) (hstarts.mp hsource)
    rw [analyzeStatements_graph, htriple, count_edge _ hdrawn,
      count_edge _ ((hdraws link).mpr hdrawn)]
    exact hcount

/-- `SELECT * FROM audit_log` -/
def Statement.readingAudit : Statement :=
  .select { sources := [{ source := .table "audit_log" }] }

/-- `INSERT INTO report SELECT * FROM sales` -/
def Statement.fillingReport : Statement :=
  .insert
    { table := "report", source := .query { sources := [{ source := .table "sales" }] } }

/-- The table that the statement itself reads is linked in both ways, the one read before it in one
of them only. -/
theorem linking_audited :
    let known := (analyzeStatements ⟨.allKnownSources, false⟩ [.readingAudit, .fillingReport]).graph
    let own := (analyzeStatements ⟨.statementSources, false⟩ [.readingAudit, .fillingReport]).graph
    let edge : Edge := ⟨"edge_4", "table_3", "table_2", .insert, .insert⟩
    edge ∈ own.edges ∧ edge.kind.isLinking = true ∧ own.StartsAtSource edge ∧
      own.outline.edges.count (own.triple edge) ≤ known.outline.edges.count (own.triple edge) ∧
      known.outline.edges =
        [(some "audit_log", .insert, some "report"), (some "sales", .insert, some "report")] ∧
      own.outline.edges = [(some "sales", .insert, some "report")] := by
  intro known own edge
  have hedge : edge ∈ own.edges := by decide
  have hstarts : own.StartsAtSource edge :=
    ⟨⟨"table_3", "sales", .source, [], .table⟩, by decide, rfl, rfl⟩
  have hcount := (analyzeStatements_linking false [.readingAudit, .fillingReport]).2.2.2
    edge hedge rfl hstarts
  exact ⟨hedge, rfl, hstarts, hcount, by decide, by decide⟩

end SqlLineage
