import Mathlib.Data.List.Flatten
import SqlLineage.Proofs.Analysis.LinkedReads
import SqlLineage.Proofs.Analysis.TableKinds
import SqlLineage.Proofs.Lowering.Factors

/-!
# Foreign keys of a definition

A definition of a table declares a foreign key by each REFERENCES option of a column and by each
FOREIGN KEY constraint.  The reduced definition has room for one reference of each column and keeps
the first.  Reading it links the table to what is left, in order, and registers the tables at the
other ends.  So no key is lost exactly if every further reference of a column is one to the table
itself, which makes no link.
-/

namespace SqlLineage

open Sql Registry

/-! ## Declared keys -/

/-- The table that an option of a column refers to. -/
def Sql.ColumnOption.references? : ColumnOption → Option String
  | .references table => some table.plain
  | .other => none

/-- The tables that a column refers to, one for each REFERENCES option. -/
def Sql.ColumnDef.references (column : ColumnDef) : List String :=
  column.options.filterMap ColumnOption.references?

/-- The table that a constraint refers to. -/
def Sql.TableConstraint.references? : TableConstraint → Option String
  | .foreignKey _ table => some table.plain
  | .other => none

/-- The tables that a definition refers to: column by column, and then by its constraints. -/
def Sql.CreateTable.references (create : Sql.CreateTable) : List String :=
  create.columns.flatMap ColumnDef.references
    ++ create.constraints.filterMap TableConstraint.references?

/-- A foreign key of a table. -/
def Link.foreignKey (table referenced : String) : Link :=
  ⟨table, .foreignKey, referenced⟩

/-- Reading the definition appends a foreign key for each reference to another table, in order, and
nothing else.  Every table that is referred to is registered, as a table if it is new. -/
def Sql.CreateTable.LinksReferences (options : Options) (registry : Registry)
    (create : Sql.CreateTable) : Prop :=
  ∃ statement added, Statement.ofSyntax (.createTable create) = .ok statement ∧
    (analyzeStatement options statement registry).relationships =
      registry.relationships ++ added ∧
    added.map Relationship.link =
      (create.references.filter (· ≠ create.name.plain)).map
        (Link.foreignKey create.name.plain) ∧
    ∀ name ∈ create.references,
      (analyzeStatement options statement registry).kind? name =
        some ((registry.kind? name).getD .table)

/-! ## What a definition is reduced to -/

/-- The tables that a reduced definition refers to, in the order in which they are linked. -/
def CreateTable.references (create : CreateTable) : List String :=
  create.columns.flatMap (fun column => column.references.toList)
    ++ create.foreignKeys.map ForeignKey.references

/-- Of the references of a column, the first is kept. -/
theorem Sql.ColumnDef.references?_eq (column : ColumnDef) :
    column.references? = column.references.head? := by
  rw [references, List.head?_filterMap]
  rfl

theorem CreateTable.references_ofSyntax (create : Sql.CreateTable) :
    (CreateTable.ofSyntax create).references =
      create.columns.flatMap (fun column => column.references.head?.toList)
        ++ create.constraints.filterMap TableConstraint.references? := by
  have hconstraint : ∀ constraint : TableConstraint,
      (ForeignKey.ofSyntax? constraint).map ForeignKey.references = constraint.references? := by
    intro constraint
    cases constraint <;> rfl
  simp only [references, ofSyntax, List.flatMap_map, Sql.ColumnDef.references?_eq,
    List.map_filterMap, hconstraint]

/-! ## What a reduced definition records -/

/-- The events of the declared columns and constraints. -/
def CreateTable.declarations (create : CreateTable) : List Event :=
  create.columns.flatMap (ColumnDefinition.events create.table)
    ++ (create.foreignKeys.map ForeignKey.references).flatMap (Event.foreignKey create.table)

section Declarations

variable (create : CreateTable)

theorem CreateTable.isPlain_declarations :
    ∀ event ∈ create.declarations, event.IsPlain := by
  rw [declarations, List.forall_mem_append]
  constructor
  · intro event hevent
    obtain ⟨column, -, hmem⟩ := List.mem_flatMap.mp hevent
    exact isPlain_of_mem_columnDefinition hmem
  · intro event hevent
    obtain ⟨referenced, -, hmem⟩ := List.mem_flatMap.mp hevent
    exact isPlain_of_mem_foreignKey hmem

theorem flatMap_links_foreignKey (table : String) (references : List String) :
    (references.flatMap (Event.foreignKey table)).flatMap Event.links =
      (references.filter (· ≠ table)).map (Link.foreignKey table) := by
  induction references with
  | nil => rfl
  | cons referenced rest ih =>
    rw [List.flatMap_cons, List.flatMap_append, ih]
    by_cases hself : referenced = table
    · simp [Event.foreignKey, Event.links, hself]
    · simp [Event.foreignKey, Event.links, Link.foreignKey, hself, Ne.symm hself]

/-- The declarations link the table to each other table that it refers to. -/
theorem CreateTable.links_declarations :
    create.declarations.flatMap Event.links =
      (create.references.filter (· ≠ create.table)).map (Link.foreignKey create.table) := by
  have hcolumns : (create.columns.flatMap (ColumnDefinition.events create.table)).flatMap
        Event.links =
      ((create.columns.flatMap (fun column => column.references.toList)).flatMap
        (Event.foreignKey create.table)).flatMap Event.links := by
    rw [List.flatMap_assoc, List.flatMap_assoc, List.flatMap_assoc]
    congr 1
    funext column
    rw [ColumnDefinition.events, List.flatMap_cons, List.flatMap_assoc]
    rfl
  rw [declarations, List.flatMap_append, hcolumns, ← List.flatMap_append, ← List.flatMap_append,
    flatMap_links_foreignKey]
  rfl

theorem CreateTable.mem_names_declarations {name : String} (hname : name ∈ create.references) :
    name ∈ Event.names create.declarations := by
  have hevent : .table name .table ∈ create.declarations := by
    rw [references, List.mem_append, List.mem_flatMap] at hname
    rw [declarations, List.mem_append, List.mem_flatMap, List.mem_flatMap]
    obtain ⟨column, hcolumn, hreferenced⟩ | hkey := hname
    · refine .inl ⟨column, hcolumn, List.mem_cons_of_mem _ ?_⟩
      exact List.mem_flatMap_of_mem hreferenced List.mem_cons_self
    · exact .inr ⟨name, hkey, List.mem_cons_self⟩
  have hentry : (name, .table) ∈ create.declarations.flatMap Event.tables :=
    List.mem_flatMap_of_mem hevent List.mem_cons_self
  exact List.mem_map_of_mem hentry

theorem kind_of_mem_foreignKey {table referenced : String} {event : Event}
    (hevent : event ∈ Event.foreignKey table referenced) {entry : String × TableKind}
    (hentry : entry ∈ event.tables) : entry.2 = .table := by
  rw [Event.foreignKey, List.mem_pair] at hevent
  obtain rfl | rfl := hevent
  · rw [List.mem_singleton.mp hentry]
  · cases hentry

/-- A declared column registers the table itself at most, and a key registers a table. -/
theorem CreateTable.kind_of_mem_declarations {entry : String × TableKind}
    (hentry : entry ∈ create.declarations.flatMap Event.tables) :
    entry.1 = create.table ∨ entry.2 = .table := by
  obtain ⟨event, hevent, hmem⟩ := List.mem_flatMap.mp hentry
  rw [declarations, List.mem_append, List.mem_flatMap, List.mem_flatMap] at hevent
  obtain ⟨column, -, hcolumn⟩ | ⟨referenced, -, hkey⟩ := hevent
  · rw [ColumnDefinition.events, List.mem_cons, List.mem_flatMap] at hcolumn
    obtain rfl | ⟨referenced, -, hkey⟩ := hcolumn
    · rw [Event.tables] at hmem
      split at hmem
      · cases hmem
      · exact .inl (congrArg Prod.fst (List.mem_singleton.mp hmem))
    · exact .inr (kind_of_mem_foreignKey hkey hmem)
  · exact .inr (kind_of_mem_foreignKey hkey hmem)

end Declarations

section Definition

variable {create : CreateTable} (options : Options) (registry : Registry)

/-- Without a query, a definition records its table and its declarations. -/
theorem CreateTable.analyzeStatement_eq (hquery : create.query = none) :
    analyzeStatement options (.createTable create) registry =
      registry.recordAll options.sourceLinking
        (.table create.table .table :: create.declarations) := by
  rw [SqlLineage.analyzeStatement_eq, Statement.events, declarations, hquery, List.flatMap_map,
    Option.toList_none, List.flatMap_nil, List.append_nil]

theorem CreateTable.links_analyzeStatement (hquery : create.query = none) :
    (analyzeStatement options (.createTable create) registry).links =
      registry.links
        ++ (create.references.filter (· ≠ create.table)).map (Link.foreignKey create.table) := by
  rw [CreateTable.analyzeStatement_eq options registry hquery, recordAll_cons,
    links_recordAll_of_isPlain _ _ create.isPlain_declarations, create.links_declarations]
  rw [record, links_ensureTable]

/-- The table and those that it refers to are registered, as tables if they are new. -/
theorem CreateTable.kind?_analyzeStatement (hquery : create.query = none) {name : String}
    (hname : name ∈ create.table :: create.references) :
    (analyzeStatement options (.createTable create) registry).kind? name =
      some ((registry.kind? name).getD .table) := by
  rw [CreateTable.analyzeStatement_eq options registry hquery, kind?_recordAll, List.flatMap_cons,
    Event.tables, List.singleton_append, List.lookup_cons, ← Option.or_some]
  congr 1
  obtain rfl | hreferenced := List.mem_cons.mp hname
  · rw [beq_self_eq_true]
  · split
    · rfl
    · rename_i hother
      refine Event.lookup_tables (create.mem_names_declarations hreferenced) ?_
      rintro entry hentry rfl
      exact (create.kind_of_mem_declarations hentry).resolve_left (beq_eq_false_iff_ne.mp hother)

/-- What a definition adds to the relationships are its links. -/
theorem CreateTable.exists_added (hquery : create.query = none) :
    ∃ added,
      (analyzeStatement options (.createTable create) registry).relationships =
        registry.relationships ++ added ∧
      added.map Relationship.link =
        (create.references.filter (· ≠ create.table)).map (Link.foreignKey create.table) := by
  obtain ⟨added, hadded⟩ :=
    (analyzeStatement_grows options (.createTable create) registry).extends.relationships
  have hlinks := CreateTable.links_analyzeStatement options registry hquery
  rw [links, ← hadded, List.map_append] at hlinks
  exact ⟨added, hadded.symm, List.append_cancel_left hlinks⟩

end Definition

/-! ## References that are kept -/

/-- Lists put together from parts of others are the same exactly if each part is all of the
other. -/
theorem flatMap_eq_flatMap_iff {α β : Type*} {parts wholes : α → List β} {elements : List α}
    (hparts : ∀ element ∈ elements, (parts element).Sublist (wholes element)) :
    elements.flatMap parts = elements.flatMap wholes ↔
      ∀ element ∈ elements, parts element = wholes element := by
  induction elements with
  | nil => simp
  | cons element rest ih =>
    rw [List.forall_mem_cons] at hparts ⊢
    rw [List.flatMap_cons, List.flatMap_cons, ← ih hparts.2]
    refine ⟨fun heq => List.append_inj heq ?_, fun heq => congrArg₂ _ heq.1 heq.2⟩
    -- Neither part of the sum can be shorter than its counterpart, as both are at most as long.
    have hlengths := congrArg List.length heq
    have hfirst := hparts.1.length_le
    have hrest := (List.Sublist.flatMap_right rest hparts.2).length_le
    rw [List.length_append, List.length_append] at hlengths
    omega

/-- Nothing that passes a test is lost with the tail of a list. -/
theorem filter_head?_eq_iff {α : Type*} (test : α → Bool) (elements : List α) :
    elements.head?.toList.filter test = elements.filter test ↔
      ∀ element ∈ elements.tail, test element = false := by
  cases elements with
  | nil => simp
  | cons first rest =>
    rw [List.head?_cons, Option.toList_some, List.tail_cons, ← List.singleton_append (l := rest),
      List.filter_append, List.self_eq_append_right, List.filter_eq_nil_iff]
    simp

theorem Link.foreignKey_injective (table : String) : Function.Injective (Link.foreignKey table) :=
  fun _ _ heq => congrArg Link.target heq

/-- Reducing a definition loses no reference to another table exactly if each further reference of a
column is one to the table itself. -/
theorem references_ofSyntax_iff (create : Sql.CreateTable) :
    (CreateTable.ofSyntax create).references.filter (· ≠ create.name.plain) =
        create.references.filter (· ≠ create.name.plain) ↔
      ∀ column ∈ create.columns, ∀ name ∈ column.references.tail, name = create.name.plain := by
  rw [CreateTable.references_ofSyntax, Sql.CreateTable.references, List.filter_append,
    List.filter_append, List.append_left_inj, List.filter_flatMap, List.filter_flatMap,
    flatMap_eq_flatMap_iff]
  · simp only [filter_head?_eq_iff, decide_eq_false_iff_not, not_not]
  · intro column _
    rw [← List.take_one]
    exact (List.take_sublist 1 column.references).filter _

/-- Whatever is registered, a definition without a query links the table to all that it refers to
exactly if each further reference of a column is one to the table itself. -/
theorem foreignKeys_linked_iff (options : Options) (registry : Registry)
    {create : Sql.CreateTable} (hquery : create.query = none) :
    create.LinksReferences options registry ↔
      ∀ column ∈ create.columns, ∀ name ∈ column.references.tail, name = create.name.plain := by
  have hreduced : (CreateTable.ofSyntax create).query = none :=
    congrArg (Option.map Select.ofQuery) hquery
  obtain ⟨added, hadded, hlinks⟩ := CreateTable.exists_added options registry hreduced
  rw [← references_ofSyntax_iff]
  constructor
  · rintro ⟨statement, declared, hlower, hdeclared, hdeclaredLinks, -⟩
    obtain rfl : .createTable (.ofSyntax create) = statement := Except.ok.inj hlower
    obtain rfl : added = declared := List.append_cancel_left (hadded.symm.trans hdeclared)
    have heq := hlinks.symm.trans hdeclaredLinks
    exact List.map_injective_iff.mpr (Link.foreignKey_injective create.name.plain) heq
  · intro hkept
    refine ⟨_, added, rfl, hadded, hkept ▸ hlinks, fun name hname => ?_⟩
    apply CreateTable.kind?_analyzeStatement options registry hreduced
    by_cases hself : name = create.name.plain
    · exact List.mem_cons.mpr (.inl hself)
    · have hmem : name ∈ create.references.filter (· ≠ create.name.plain) :=
        List.mem_filter.mpr ⟨hname, decide_eq_true hself⟩
      rw [← hkept] at hmem
      exact List.mem_cons_of_mem _ (List.mem_filter.mp hmem).1

/-- `CREATE TABLE t (a INT REFERENCES x(id) REFERENCES other(id))` -/
def Sql.CreateTable.twice (other : String) : Sql.CreateTable where
  name := .word "t"
  columns := [⟨⟨"a", none⟩, [.references (.word "x"), .references (.word other)]⟩]

theorem foreignKeys_linked_self :
    (CreateTable.twice "t").query = none ∧ (CreateTable.twice "t").LinksReferences {} {} :=
  ⟨rfl, (foreignKeys_linked_iff {} {} rfl).mpr (by decide)⟩

/-- The second reference of a column makes no link, and its table is not registered. -/
theorem exists_reference_lost :
    ¬ (CreateTable.twice "y").LinksReferences {} {} ∧
      ∃ statement, Statement.ofSyntax (.createTable (.twice "y")) = .ok statement ∧
        (analyzeStatement {} statement {}).links = [Link.foreignKey "t" "x"] ∧
        (analyzeStatement {} statement {}).kind? "y" = none := by
  refine ⟨?_, _, rfl, by decide, by decide⟩
  rintro ⟨statement, added, hlower, -, -, hkinds⟩
  obtain rfl := Except.ok.inj hlower
  have hkind := hkinds "y" (by decide)
  revert hkind
  decide

end SqlLineage
