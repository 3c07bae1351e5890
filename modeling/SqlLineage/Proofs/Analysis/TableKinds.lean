import SqlLineage.Proofs.Analysis.RecursedConditions

/-!
# Kinds of tables

A table keeps the kind that it is registered with.  So its kind after a run of events is the one
from before, or else that of the first event that registers it.  A query registers tables as sources
only.
-/

namespace SqlLineage

namespace Registry

/-- The kind of the table of that name. -/
def kind? (registry : Registry) (name : String) : Option TableKind :=
  (registry.table? name).map Table.kind

theorem kind?_eq_lookup (registry : Registry) (name : String) :
    registry.kind? name =
      (registry.tables.map (fun table => (table.name, table.kind))).lookup name := by
  rw [kind?, table?_eq_find?]
  induction registry.tables with
  | nil => rfl
  | cons table rest ih =>
    rw [List.find?_cons, List.map_cons, List.lookup_cons, BEq.comm (a := name)]
    cases table.name == name with
    | true => rfl
    | false => exact ih

theorem kind?_eq_none_iff {registry : Registry} {name : String} :
    registry.kind? name = none ↔ name ∉ registry.names := by
  rw [kind?, Option.map_eq_none_iff, table?_eq_none_iff]

@[simp]
theorem kind?_empty (name : String) : Registry.kind? {} name = none := rfl

theorem kind?_ensureTable (registry : Registry) (name other : String) (kind : TableKind) :
    (registry.ensureTable name kind).kind? other =
      (registry.kind? other).or ([(name, kind)].lookup other) := by
  by_cases hname : name ∈ registry.names
  · rw [ensureTable_of_mem hname]
    by_cases hother : other = name
    · obtain ⟨known, hknown⟩ :=
        Option.ne_none_iff_exists'.mp (mt kind?_eq_none_iff.mp (not_not_intro hname))
      rw [hother, hknown, Option.some_or]
    · rw [List.lookup_cons, beq_eq_false_iff_ne.mpr hother, List.lookup_nil, Option.or_none]
  · rw [kind?_eq_lookup, kind?_eq_lookup, tables_ensureTable_of_not_mem hname, List.map_append,
      List.lookup_append, List.map_singleton]

variable {linking : SourceLinking}

/-- An event gives a kind to a table that has none yet. -/
theorem kind?_record (registry : Registry) (event : Event) (name : String) :
    (registry.record linking event).kind? name =
      (registry.kind? name).or (event.tables.lookup name) := by
  cases event with
  | table other kind => exact kind?_ensureTable registry other name kind
  | column owner column role =>
    by_cases hknown : owner = unknownTable
    · simp [record, hknown, Event.tables]
    · rw [record, kind?_eq_lookup,
        map_tables_ensureColumn registry column role hknown _ (fun _ _ => rfl), ← kind?_eq_lookup,
        kind?_ensureTable, Event.tables, if_neg hknown]
  | relationship source target kind => simp [record, kind?_eq_lookup, Event.tables]
  | link reads target kind => simp [record, kind?_eq_lookup, Event.tables]

/-- A table that is new has the kind of the first event that registers it. -/
theorem kind?_recordAll (registry : Registry) (events : List Event) (name : String) :
    (registry.recordAll linking events).kind? name =
      (registry.kind? name).or ((events.flatMap Event.tables).lookup name) := by
  induction events generalizing registry with
  | nil => simp
  | cons event rest ih =>
    rw [recordAll_cons, ih, kind?_record, List.flatMap_cons, List.lookup_append, Option.or_assoc]

end Registry

/-! ## Kinds that events give -/

/-- A table that events register under one kind alone gets that kind from them. -/
theorem Event.lookup_tables {events : List Event} {name : String} {kind : TableKind}
    (hname : name ∈ Event.names events)
    (hkind : ∀ entry ∈ events.flatMap Event.tables, entry.1 = name → entry.2 = kind) :
    (events.flatMap Event.tables).lookup name = some kind := by
  obtain ⟨entry, hentry, rfl⟩ := List.mem_map.mp hname
  have hfound : ((events.flatMap Event.tables).lookup entry.1).isSome = true :=
    List.lookup_isSome_iff.mpr ⟨entry, hentry, beq_self_eq_true entry.1⟩
  obtain ⟨found, hfound⟩ := Option.isSome_iff_exists.mp hfound
  obtain ⟨before, after, heq, -⟩ := List.lookup_eq_some_iff.mp hfound
  have hmem : (entry.1, found) ∈ events.flatMap Event.tables :=
    heq ▸ List.mem_append_right before List.mem_cons_self
  exact hfound.trans (congrArg some (hkind _ hmem rfl))

/-- An event of a query: a table that is read, or an event of a predicate or a projection. -/
def Event.IsReading (event : Event) : Prop :=
  event.IsInferred ∨ ∃ name, event = .table name .source

theorem Event.IsReading.kind_eq_source {event : Event} (hreading : event.IsReading)
    {entry : String × TableKind} (hentry : entry ∈ event.tables) : entry.2 = .source := by
  obtain hinferred | ⟨name, rfl⟩ := hreading
  · exact hinferred.kind_eq_source hentry
  · rw [List.mem_singleton.mp hentry]

/-! ## Queries read -/

theorem isReading_of_mem_blockEvents {recurse : Bool} {block : Block} {event : Event}
    (hevent : event ∈ block.events recurse) : event.IsReading := by
  rw [Block.events, List.mem_append, List.mem_append] at hevent
  obtain (hcolumn | hjoin) | hselection := hevent
  · obtain ⟨_, _, hmem⟩ := List.mem_flatMap.mp hcolumn
    exact .inl (isInferred_of_mem_columnEvents hmem)
  · obtain ⟨_, _, hmem⟩ := List.mem_flatMap.mp hjoin
    exact .inl (isInferred_of_mem_conditionEvents hmem)
  · obtain ⟨_, _, hmem⟩ := List.mem_flatMap.mp hselection
    exact .inl (isInferred_of_mem_conditionEvents hmem)

variable {recurse : Bool}

mutual

/-- All that a query does is to read tables. -/
theorem Select.isReading (scope : Scope) (query : Select) :
    ∀ event ∈ query.events recurse scope, event.IsReading := by
  match query with
  | ⟨ctes, sources, columns, selection, union⟩ =>
    rw [Select.events, List.forall_mem_append, List.forall_mem_append, List.forall_mem_append]
    exact ⟨⟨CommonTable.isReading scope ctes, FromItem.isReading _ sources,
      fun _ hevent => isReading_of_mem_blockEvents hevent⟩, Select.isReading_branches _ union⟩

theorem CommonTable.isReading (scope : Scope) (ctes : List CommonTable) :
    ∀ event ∈ CommonTable.events recurse scope ctes, event.IsReading := by
  match ctes with
  | [] => exact nofun
  | ⟨name, query⟩ :: rest =>
    rw [CommonTable.events, List.forall_mem_append]
    exact ⟨Select.isReading scope query, CommonTable.isReading _ rest⟩

theorem FromItem.isReading (scope : Scope) (sources : List FromItem) :
    ∀ event ∈ FromItem.events recurse scope sources, event.IsReading := by
  match sources with
  | [] => exact nofun
  | item :: rest =>
    rw [FromItem.events, List.forall_mem_append]
    exact ⟨FromItem.isReading_own scope item, FromItem.isReading _ rest⟩

theorem FromItem.isReading_own (scope : Scope) (item : FromItem) :
    ∀ event ∈ FromItem.ownEvents recurse scope item, event.IsReading := by
  match item with
  | ⟨.table name, _, _, _⟩ =>
    rw [FromItem.ownEvents]
    split
    · exact nofun
    · exact List.forall_mem_singleton.mpr (.inr ⟨name, rfl⟩)
  | ⟨.subquery query, _, _, _⟩ =>
    rw [FromItem.ownEvents]
    exact Select.isReading scope query

theorem Select.isReading_branches (scope : Scope) (union : List Select) :
    ∀ event ∈ Select.branchEvents recurse scope union, event.IsReading := by
  match union with
  | [] => exact nofun
  | branch :: rest =>
    rw [Select.branchEvents, List.forall_mem_append]
    exact ⟨Select.isReading scope branch, Select.isReading_branches scope rest⟩

end

/-- Relations and a predicate read tables. -/
theorem FromItem.isReading_change (scope : Scope) (sources : List FromItem)
    (selection : Option Expression) :
    ∀ event ∈ FromItem.changeEvents recurse scope sources selection, event.IsReading := by
  rw [FromItem.changeEvents, List.forall_mem_append]
  exact ⟨FromItem.isReading scope sources, fun _ hevent => isReading_of_mem_blockEvents hevent⟩

/-- What is read is a source. -/
theorem Event.lookup_tables_of_isReading {events : List Event} {name : String}
    (hreading : ∀ event ∈ events, event.IsReading) (hname : name ∈ Event.names events) :
    (events.flatMap Event.tables).lookup name = some .source := by
  refine Event.lookup_tables hname fun entry hentry _ => ?_
  obtain ⟨event, hevent, hmem⟩ := List.mem_flatMap.mp hentry
  exact (hreading event hevent).kind_eq_source hmem

end SqlLineage
