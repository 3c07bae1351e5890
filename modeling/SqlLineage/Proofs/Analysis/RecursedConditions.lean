import Mathlib.Data.List.Perm.Subperm
import SqlLineage.Proofs.Analysis.Composition
import SqlLineage.Proofs.Analysis.Recording

/-!
# Predicates that are gone through

A run that goes through AND and OR meets further columns and joins, in between what it meets
anyway.  A further column may register a table earlier than it would be, but only as a source.  So
the run has every table, column and edge of the run that does not, and every source is still a
source, which is why no link is lost where all known sources are linked.
-/

namespace SqlLineage

open Registry

/-! ## Events in between -/

/-- The second list has the events of the first, and events of predicates in between. -/
inductive Event.Deepens : List Event → List Event → Prop where
  | nil : Deepens [] []
  | keep (event : Event) {events more : List Event} (hrest : Deepens events more) :
      Deepens (event :: events) (event :: more)
  | add (event : Event) (hinferred : event.IsInferred) {events more : List Event}
      (hrest : Deepens events more) : Deepens events (event :: more)

namespace Event.Deepens

theorem refl (events : List Event) : Deepens events events := by
  induction events with
  | nil => exact nil
  | cons event rest ih => exact ih.keep event

theorem append {events more others further : List Event} (hfirst : Deepens events more)
    (hsecond : Deepens others further) : Deepens (events ++ others) (more ++ further) := by
  induction hfirst with
  | nil => exact hsecond
  | keep event _ ih => exact ih.keep event
  | add event hinferred _ ih => exact ih.add event hinferred

theorem of_inferred {events : List Event} (hinferred : ∀ event ∈ events, event.IsInferred) :
    Deepens [] events := by
  induction events with
  | nil => exact nil
  | cons event rest ih =>
    have hrest := ih fun other hother => hinferred other (List.mem_cons_of_mem _ hother)
    exact hrest.add event (hinferred event List.mem_cons_self)

/-- A predicate reads no table. -/
theorem reads_eq {events more : List Event} (hdeepens : Deepens events more) :
    Event.reads events = Event.reads more := by
  induction hdeepens with
  | nil => rfl
  | keep event _ ih => rw [Event.reads_cons, Event.reads_cons, ih]
  | add event hinferred _ ih =>
    have hnone : event.read? = none := by
      cases event with
      | table name kind => cases hinferred
      | column _ _ _ | relationship _ _ _ | link _ _ _ => rfl
    rw [Event.reads_cons, hnone, ih]
    rfl

/-- Going through AND and OR adds the comparisons below them. -/
theorem condition (scope : Scope) (condition : Expression) :
    Deepens (condition.events false scope) (condition.events true scope) := by
  cases condition with
  | column qualifier name => exact nil
  | other => exact nil
  | binary operator left right =>
    by_cases hlogical : operator.isLogical = true
    · have hshallow : (Expression.binary operator left right).events false scope = [] := by
        rw [Expression.events, if_pos hlogical, if_neg Bool.false_ne_true]
      rw [hshallow]
      exact of_inferred fun _ hevent => isInferred_of_mem_conditionEvents hevent
    · rw [Expression.events, Expression.events, if_neg hlogical, if_neg hlogical]
      exact refl _

theorem compositional : Event.Compositional false true Deepens where
  nil := nil
  append := append
  plain := fun event _ => refl [event]
  condition := condition

theorem statement (statement : Statement) :
    Deepens (statement.events false) (statement.events true) := by
  have hown := compositional.statement statement
  have hlink : statement.linkEvents (statement.ownEvents false) =
      statement.linkEvents (statement.ownEvents true) := by
    rw [Statement.linkEvents, Statement.linkEvents, hown.reads_eq]
  rw [statement.events_eq, statement.events_eq, hlink]
  exact hown.append (refl _)

theorem statements (statements : List Statement) :
    Deepens (statements.flatMap (Statement.events false))
      (statements.flatMap (Statement.events true)) :=
  compositional.flatMap statement statements

end Event.Deepens

/-- A predicate registers tables as sources only. -/
theorem Event.IsInferred.kind_eq_source {event : Event} (hinferred : event.IsInferred)
    {entry : String × TableKind} (hentry : entry ∈ event.tables) : entry.2 = .source := by
  cases event with
  | table name kind => cases hinferred
  | column owner name role =>
    rw [Event.tables] at hentry
    split at hentry
    · cases hentry
    · rw [List.mem_singleton.mp hentry]
  | relationship source target kind => cases hentry
  | link reads target kind => cases hentry

/-! ## Registries of the two runs -/

/-- The second registry has what the first one has.  A table that it has alone is a source. -/
structure Registry.Within (shallow deep : Registry) : Prop where
  names_nodup : shallow.names.Nodup
  names : ∀ name ∈ shallow.names, name ∈ deep.names
  columns : ∀ entry ∈ shallow.columnNames, entry ∈ deep.columnNames
  sources : ∀ name ∈ shallow.namesOfKind .source, name ∈ deep.namesOfKind .source
  early : ∀ name ∈ deep.names, name ∈ shallow.names ∨ name ∈ deep.namesOfKind .source
  links : shallow.links.Subperm deep.links

namespace Registry.Within

variable {shallow deep : Registry}

/-- An event links at least as much where more sources are known. -/
theorem added_subperm (hwithin : Within shallow deep) (linking : SourceLinking) (event : Event) :
    (shallow.added linking event).Subperm (deep.added linking event) := by
  cases event with
  | link reads target kind =>
    have hsources : (linkedSources linking reads shallow).Subperm
        (linkedSources linking reads deep) := by
      cases linking with
      | allKnownSources =>
        exact List.subperm_of_subset (namesOfKind_nodup hwithin.names_nodup .source)
          hwithin.sources
      | statementSources => exact List.Subperm.refl _
    exact (hsources.filter _).map (Link.injective_source target kind)
  | table _ _ | column _ _ _ | relationship _ _ _ => exact List.Subperm.refl _

/-- Both registries record an event. -/
theorem record (hwithin : Within shallow deep) (linking : SourceLinking) (event : Event) :
    Within (shallow.record linking event) (deep.record linking event) where
  names_nodup := names_nodup_record hwithin.names_nodup
  names := by
    intro name hname
    exact mem_names_record.mpr ((mem_names_record.mp hname).imp_right (hwithin.names name))
  columns := by
    intro entry hentry
    exact mem_columnNames_record.mpr
      ((mem_columnNames_record.mp hentry).imp_right (hwithin.columns entry))
  sources := by
    intro name hname
    rw [mem_namesOfKind_record] at hname ⊢
    rcases hname with ⟨htable, hnew⟩ | hold
    · by_cases hdeep : name ∈ deep.names
      · exact Or.inr ((hwithin.early name hdeep).resolve_left hnew)
      · exact Or.inl ⟨htable, hdeep⟩
    · exact Or.inr (hwithin.sources name hold)
  early := by
    intro name hname
    rw [mem_names_record, mem_namesOfKind_record]
    rcases mem_names_record.mp hname with htable | hold
    · exact Or.inl (Or.inl htable)
    · exact (hwithin.early name hold).imp Or.inr Or.inr
  links := by
    rw [links_record, links_record]
    exact hwithin.links.append (hwithin.added_subperm linking event)

/-- The second registry records an event of a predicate alone. -/
theorem add (hwithin : Within shallow deep) (linking : SourceLinking) {event : Event}
    (hinferred : event.IsInferred) : Within shallow (deep.record linking event) where
  names_nodup := hwithin.names_nodup
  names := fun name hname => mem_names_record.mpr (Or.inr (hwithin.names name hname))
  columns := fun entry hentry =>
    mem_columnNames_record.mpr (Or.inr (hwithin.columns entry hentry))
  sources := fun name hname =>
    mem_namesOfKind_record.mpr (Or.inr (hwithin.sources name hname))
  early := by
    intro name hname
    rw [mem_namesOfKind_record]
    by_cases hold : name ∈ deep.names
    · exact (hwithin.early name hold).imp_right Or.inr
    · obtain ⟨entry, hentry, rfl⟩ :=
        List.mem_map.mp ((mem_names_record.mp hname).resolve_right hold)
      have hsource : entry.2 = .source := hinferred.kind_eq_source hentry
      exact Or.inr (Or.inl ⟨hsource ▸ hentry, hold⟩)
  links := by
    rw [links_record]
    exact hwithin.links.trans (List.sublist_append_left _ _).subperm

theorem recordAll {events more : List Event} (hdeepens : Event.Deepens events more)
    (hwithin : Within shallow deep) (linking : SourceLinking) :
    Within (shallow.recordAll linking events) (deep.recordAll linking more) := by
  induction hdeepens generalizing shallow deep with
  | nil => exact hwithin
  | keep event _ ih => exact ih (hwithin.record linking event)
  | add event hinferred _ ih => exact ih (hwithin.add linking hinferred)

theorem draws (hwithin : Within shallow deep) {link : Link} (hdraws : shallow.Draws link) :
    deep.Draws link :=
  ⟨hwithin.names _ hdraws.1, hwithin.names _ hdraws.2⟩

/-- Every link that is drawn is drawn in the second registry too, and as often. -/
theorem drawn_subperm (hwithin : Within shallow deep) :
    (shallow.links.filter shallow.Draws).Subperm (deep.links.filter deep.Draws) := by
  have hmore : (shallow.links.filter shallow.Draws).Sublist
      (shallow.links.filter deep.Draws) := by
    apply List.monotone_filter_right
    intro link hdraws
    exact decide_eq_true (hwithin.draws (of_decide_eq_true hdraws))
  exact hmore.subperm.trans (hwithin.links.filter _)

end Registry.Within

theorem registryOf_within (linking : SourceLinking) (statements : List Statement) :
    Within (registryOf ⟨linking, false⟩ statements) (registryOf ⟨linking, true⟩ statements) := by
  have hempty : Within {} {} :=
    { names_nodup := List.nodup_nil
      names := fun _ => id
      columns := fun _ => id
      sources := fun _ => id
      early := fun _ => Or.inl
      links := List.Subperm.refl _ }
  rw [registryOf_eq, registryOf_eq]
  exact hempty.recordAll (.statements statements) linking

/-- Going through AND and OR only adds: every table, every column and every edge, as often as it is
drawn, is there in the run that does so, and every source is a source. -/
theorem analyzeStatements_recurse (linking : SourceLinking) (statements : List Statement) :
    let shallow := (analyzeStatements ⟨linking, false⟩ statements).graph
    let deep := (analyzeStatements ⟨linking, true⟩ statements).graph
    (shallow.tables.map TableNode.label ⊆ deep.tables.map TableNode.label) ∧
      shallow.columnLabels ⊆ deep.columnLabels ∧
      shallow.outline.edges.Subperm deep.outline.edges ∧
      ∀ table ∈ shallow.tables, table.kind = .source →
        ∃ other ∈ deep.tables, other.label = table.label ∧ other.kind = .source := by
  intro shallow deep
  have hwithin := registryOf_within linking statements
  refine ⟨?_, ?_, ?_, ?_⟩
  · simp only [shallow, deep, analyzeStatements_graph, graph_labels]
    exact hwithin.names
  · simp only [shallow, deep, analyzeStatements_graph, graph_columnLabels]
    exact hwithin.columns
  · simp only [shallow, deep, analyzeStatements_outline]
    exact hwithin.drawn_subperm.map Link.edge_injective
  · simp only [shallow, deep, analyzeStatements_graph, graph_tables]
    intro node hnode hkind
    obtain ⟨table, htable, rfl⟩ := List.mem_map.mp hnode
    obtain ⟨other, hother, hname, hsource⟩ := mem_namesOfKind.mp
      (hwithin.sources table.name (mem_namesOfKind.mpr ⟨table, htable, rfl, hkind⟩))
    exact ⟨other.node, List.mem_map_of_mem hother, hname, hsource⟩

/-- `SELECT * FROM a WHERE a.id = b.id AND b.id = c.id` -/
def Statement.comparing : Statement :=
  let compared (left right : String) : Expression :=
    .binary .eq (.column (some left) "id") (.column (some right) "id")
  .select
    { sources := [{ source := .table "a" }]
      selection := some (.binary .and (compared "a" "b") (compared "b" "c")) }

/-- `INSERT INTO t SELECT * FROM a` -/
def Statement.fillingFromA : Statement :=
  .insert { table := "t", source := .query { sources := [{ source := .table "a" }] } }

/-- The tables `b` and `c` are only met below the AND; then they are joined, and `t` is linked to
them as well.  The table `a` is a source either way. -/
theorem recurse_comparing :
    let statements := [Statement.comparing, .fillingFromA]
    let shallow := (analyzeStatements ⟨.allKnownSources, false⟩ statements).graph
    let deep := (analyzeStatements ⟨.allKnownSources, true⟩ statements).graph
    let table : TableNode := ⟨"table_1", "a", .source, [], .table⟩
    table ∈ shallow.tables ∧
      (∃ other ∈ deep.tables, other.label = "a" ∧ other.kind = .source) ∧
      shallow.outline.edges = [(some "a", .insert, some "t")] ∧
      deep.outline.edges =
        [(some "a", .join, some "b"), (some "b", .join, some "c"), (some "a", .insert, some "t"),
          (some "b", .insert, some "t"), (some "c", .insert, some "t")] := by
  intro statements shallow deep table
  have htable : table ∈ shallow.tables := by decide
  have hkept := (analyzeStatements_recurse .allKnownSources statements).2.2.2 table htable rfl
  exact ⟨htable, hkept, by decide, by decide⟩

end SqlLineage
