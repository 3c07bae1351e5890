import SqlLineage.Proofs.Graph.Outline

/-!
# References without a qualifier

A column without a qualifier in a predicate has an unknown owner and is not recorded.  A comparison
of such a column with one of a known table is recorded all the same, as a relationship that ends at
the name for unknown owners.  The graph leaves it out as long as no table has that name.  So a run
loses nothing if these references are dropped, except where a table with the name for unknown owners
is registered: then each such comparison has an edge.
-/

namespace SqlLineage

open Registry

/-! ## Dropping references -/

/-- An expression without its columns that have no qualifier. -/
def Expression.dropUnqualified : Expression → Expression
  | .column none _ => .other
  | .column (some qualifier) name => .column (some qualifier) name
  | .binary operator left right => .binary operator left.dropUnqualified right.dropUnqualified
  | .other => .other

mutual

/-- A query whose predicates have no column without a qualifier. -/
def Select.dropUnqualified : Select → Select
  | ⟨ctes, sources, columns, selection, union⟩ =>
    ⟨CommonTable.dropUnqualified ctes, FromItem.dropUnqualified sources, columns,
      selection.map Expression.dropUnqualified, Select.dropBranches union⟩

def CommonTable.dropUnqualified : List CommonTable → List CommonTable
  | [] => []
  | ⟨name, query⟩ :: rest => ⟨name, query.dropUnqualified⟩ :: CommonTable.dropUnqualified rest

def FromItem.dropUnqualified : List FromItem → List FromItem
  | [] => []
  | item :: rest => FromItem.dropOwn item :: FromItem.dropUnqualified rest

def FromItem.dropOwn : FromItem → FromItem
  | ⟨.table name, aliasName, join, condition⟩ =>
    ⟨.table name, aliasName, join, condition.map Expression.dropUnqualified⟩
  | ⟨.subquery query, aliasName, join, condition⟩ =>
    ⟨.subquery query.dropUnqualified, aliasName, join, condition.map Expression.dropUnqualified⟩

def Select.dropBranches : List Select → List Select
  | [] => []
  | branch :: rest => branch.dropUnqualified :: Select.dropBranches rest

end

def InsertSource.dropUnqualified : InsertSource → InsertSource
  | .query rows => .query rows.dropUnqualified
  | source => source

/-- A statement whose predicates have no column without a qualifier. -/
def Statement.dropUnqualified : Statement → Statement
  | .select query => .select query.dropUnqualified
  | .insert change =>
    .insert { change with
      ctes := CommonTable.dropUnqualified change.ctes
      source := change.source.dropUnqualified }
  | .update change =>
    .update { change with
      ctes := CommonTable.dropUnqualified change.ctes
      sources := FromItem.dropUnqualified change.sources
      selection := change.selection.map Expression.dropUnqualified }
  | .delete change =>
    .delete { change with
      ctes := CommonTable.dropUnqualified change.ctes
      sources := FromItem.dropUnqualified change.sources
      selection := change.selection.map Expression.dropUnqualified }
  | .createTable create =>
    .createTable { create with query := create.query.map Select.dropUnqualified }
  | .createView create => .createView { create with query := create.query.dropUnqualified }
  | statement => statement

/-! ## Comparisons that end at an unknown owner -/

/-- Whether a column without a qualifier is compared with a column of a known table. -/
def Scope.dangles (scope : Scope) : Expression × Expression → Bool
  | (.column none _, .column qualifier _) => scope.resolve qualifier != unknownTable
  | (.column qualifier _, .column none _) => scope.resolve qualifier != unknownTable
  | _ => false

/-- The comparisons of a predicate that are looked at. -/
def Expression.comparisons (recurse : Bool) : Expression → List (Expression × Expression)
  | .binary operator left right =>
    if operator.isLogical then
      if recurse then left.comparisons recurse ++ right.comparisons recurse else []
    else [(left, right)]
  | _ => []

def Block.comparisons (recurse : Bool) (block : Block) : List (Expression × Expression) :=
  (block.sources.filterMap FromItem.joinCondition?).flatMap (Expression.comparisons recurse)
    ++ block.selection.toList.flatMap (Expression.comparisons recurse)

def Block.dangling (recurse : Bool) (blocks : List Block) : List (Expression × Expression) :=
  blocks.flatMap (fun block => (block.comparisons recurse).filter block.scope.dangles)

theorem Block.dangling_append (recurse : Bool) (first second : List Block) :
    Block.dangling recurse (first ++ second) =
      Block.dangling recurse first ++ Block.dangling recurse second :=
  List.flatMap_append

theorem Block.dangling_eq_nil_iff {recurse : Bool} {blocks : List Block} :
    Block.dangling recurse blocks = [] ↔
      ∀ block ∈ blocks, ∀ comparison ∈ block.comparisons recurse,
        ¬ block.scope.dangles comparison := by
  simp [dangling, List.flatMap_eq_nil_iff, List.filter_eq_nil_iff]

/-! ## Events that are shed -/

/-- The second list has the events of the first except some that record nothing, and that number of
relationships that end at the name for unknown owners. -/
inductive Event.Sheds : Nat → List Event → List Event → Prop where
  | nil : Sheds 0 [] []
  | keep (event : Event) {number : Nat} {events kept : List Event}
      (hrest : Sheds number events kept) : Sheds number (event :: events) (event :: kept)
  | column (name : String) (role : ColumnRole) {number : Nat} {events kept : List Event}
      (hrest : Sheds number events kept) :
      Sheds number (.column unknownTable name role :: events) kept
  | loop (table : String) (kind : RelationshipKind) {number : Nat} {events kept : List Event}
      (hrest : Sheds number events kept) :
      Sheds number (.relationship table table kind :: events) kept
  | loose (source target : String) (kind : RelationshipKind) {number : Nat}
      {events kept : List Event} (hne : source ≠ target)
      (hunknown : source = unknownTable ∨ target = unknownTable)
      (hrest : Sheds number events kept) :
      Sheds (number + 1) (.relationship source target kind :: events) kept

theorem Event.Sheds.refl (events : List Event) : Event.Sheds 0 events events := by
  induction events with
  | nil => exact .nil
  | cons event rest ih => exact .keep event ih

theorem Event.Sheds.append {first second : Nat} {before after beforeKept afterKept : List Event}
    (hfirst : Event.Sheds first before beforeKept) (hsecond : Event.Sheds second after afterKept) :
    Event.Sheds (first + second) (before ++ after) (beforeKept ++ afterKept) := by
  induction hfirst with
  | nil => simpa using hsecond
  | keep event _ ih => exact ih.keep event
  | column name role _ ih => exact ih.column name role
  | loop table kind _ ih => exact ih.loop table kind
  | loose source target kind hne hunknown _ ih =>
    rw [Nat.succ_add]
    exact ih.loose source target kind hne hunknown

theorem Event.Sheds.reads_eq {number : Nat} {events kept : List Event}
    (hsheds : Event.Sheds number events kept) : Event.reads events = Event.reads kept := by
  induction hsheds with
  | nil => rfl
  | keep event _ ih => rw [Event.reads_cons, Event.reads_cons, ih]
  | column _ _ _ ih | loop _ _ _ ih | loose _ _ _ _ _ _ ih => exact ih

/-! ## Dropping references sheds events -/

theorem sheds_operand (scope : Scope) (operand : Expression) :
    Event.Sheds 0 (operand.columnEvents scope .condition)
      (operand.dropUnqualified.columnEvents scope .condition) := by
  match operand with
  | .column none name => exact .column name .condition .nil
  | .column (some _) _ | .binary _ _ _ | .other => exact .refl _

theorem sheds_loose {source target : String}
    (hunknown : source = unknownTable ∨ target = unknownTable) :
    Event.Sheds (if source = target then 0 else 1) [.relationship source target .join] [] := by
  by_cases heq : source = target
  · subst heq
    rw [if_pos rfl]
    exact .loop source .join .nil
  · rw [if_neg heq]
    exact .loose source target .join heq hunknown .nil

theorem sheds_joining (scope : Scope) (left right : Expression) :
    Event.Sheds ([(left, right)].filter scope.dangles).length
      (Event.joining (left.owner? scope) (right.owner? scope))
      (Event.joining (left.dropUnqualified.owner? scope) (right.dropUnqualified.owner? scope)) := by
  match left, right with
  | .column none first, .column qualifier second =>
    have hnumber : ([(Expression.column none first, .column qualifier second)].filter
        scope.dangles).length = if unknownTable = scope.resolve qualifier then 0 else 1 := by
      by_cases heq : unknownTable = scope.resolve qualifier
      · simp [Scope.dangles, ← heq]
      · simp [List.filter_cons, Scope.dangles, heq, Ne.symm heq]
    rw [hnumber]
    cases qualifier <;> exact sheds_loose (.inl rfl)
  | .column (some qualifier) first, .column none second =>
    have hnumber : ([(Expression.column (some qualifier) first, .column none second)].filter
        scope.dangles).length = if scope.resolve (some qualifier) = unknownTable then 0 else 1 := by
      by_cases heq : scope.resolve (some qualifier) = unknownTable
      · simp [Scope.dangles, heq]
      · simp [List.filter_cons, Scope.dangles, heq]
    rw [hnumber]
    exact sheds_loose (.inr rfl)
  | .column (some _) _, .column (some _) _ => exact .refl _
  -- A comparison with something else than a column relates nothing, before and after.
  | .column qualifier _, .binary _ _ _ | .column qualifier _, .other =>
    cases qualifier <;> exact .nil
  | .binary _ _ _, right | .other, right => cases right <;> exact .nil

theorem sheds_comparison (scope : Scope) (left right : Expression) :
    Event.Sheds ([(left, right)].filter scope.dangles).length
      (Expression.comparisonEvents scope left right)
      (Expression.comparisonEvents scope left.dropUnqualified right.dropUnqualified) := by
  have hoperands := (sheds_operand scope left).append (sheds_operand scope right)
  simpa only [Nat.zero_add, Expression.comparisonEvents] using
    hoperands.append (sheds_joining scope left right)

theorem sheds_condition (recurse : Bool) (scope : Scope) (condition : Expression) :
    Event.Sheds ((condition.comparisons recurse).filter scope.dangles).length
      (condition.events recurse scope) (condition.dropUnqualified.events recurse scope) := by
  induction condition with
  | column qualifier name => cases qualifier <;> exact .nil
  | other => exact .nil
  | binary operator left right ihleft ihright =>
    rw [Expression.dropUnqualified, Expression.comparisons, Expression.events, Expression.events]
    split
    · split
      · rw [List.filter_append, List.length_append]
        exact ihleft.append ihright
      · exact .nil
    · exact sheds_comparison scope left right

theorem sheds_conditions (recurse : Bool) (scope : Scope) (conditions : List Expression) :
    Event.Sheds
      ((conditions.flatMap (Expression.comparisons recurse)).filter scope.dangles).length
      (conditions.flatMap (Expression.events recurse scope))
      ((conditions.map Expression.dropUnqualified).flatMap (Expression.events recurse scope)) := by
  induction conditions with
  | nil => exact .nil
  | cons condition rest ih =>
    rw [List.flatMap_cons, List.filter_append, List.length_append]
    exact (sheds_condition recurse scope condition).append ih

theorem joinConditions_dropUnqualified (sources : List FromItem) :
    (FromItem.dropUnqualified sources).filterMap FromItem.joinCondition? =
      (sources.filterMap FromItem.joinCondition?).map Expression.dropUnqualified := by
  induction sources with
  | nil => rfl
  | cons item rest ih =>
    have hitem : (FromItem.dropOwn item).joinCondition? =
        item.joinCondition?.map Expression.dropUnqualified := by
      match item with
      | ⟨.table _, _, true, _⟩ | ⟨.subquery _, _, true, _⟩ => rfl
      | ⟨.table _, _, false, _⟩ | ⟨.subquery _, _, false, _⟩ => rfl
    rw [FromItem.dropUnqualified, List.filterMap_cons, List.filterMap_cons, hitem]
    cases item.joinCondition? with
    | none => exact ih
    | some condition => exact congrArg (condition.dropUnqualified :: ·) ih

theorem bindItem_dropOwn (scope : Scope) (item : FromItem) :
    scope.bindItem (FromItem.dropOwn item) = scope.bindItem item := by
  obtain ⟨source, aliasName, join, condition⟩ := item
  cases source with
  | table name => rfl
  | subquery query => cases aliasName <;> rfl

theorem bindItems_dropUnqualified (scope : Scope) (sources : List FromItem) :
    scope.bindItems (FromItem.dropUnqualified sources) = scope.bindItems sources := by
  induction sources generalizing scope with
  | nil => rfl
  | cons item rest ih =>
    rw [FromItem.dropUnqualified, Scope.bindItems_cons, Scope.bindItems_cons, bindItem_dropOwn, ih]

theorem names_dropUnqualified (ctes : List CommonTable) :
    (CommonTable.dropUnqualified ctes).map CommonTable.name = ctes.map CommonTable.name := by
  induction ctes with
  | nil => rfl
  | cons cte rest ih =>
    obtain ⟨name, query⟩ := cte
    rw [CommonTable.dropUnqualified, List.map_cons, List.map_cons, ih]

theorem sheds_block (recurse : Bool) (scope : Scope) (sources : List FromItem)
    (columns : List Expression) (selection : Option Expression) :
    Event.Sheds (Block.dangling recurse [Block.of scope sources columns selection]).length
      ((Block.of scope sources columns selection).events recurse)
      ((Block.of scope (FromItem.dropUnqualified sources) columns
        (selection.map Expression.dropUnqualified)).events recurse) := by
  have hjoins := sheds_conditions recurse (scope.bindItems sources)
    (sources.filterMap FromItem.joinCondition?)
  have hselection := sheds_conditions recurse (scope.bindItems sources) selection.toList
  have hcolumns := Event.Sheds.refl
    (columns.flatMap (Expression.columnEvents (scope.bindItems sources) .selected))
  have hdrop : (selection.map Expression.dropUnqualified).toList =
      selection.toList.map Expression.dropUnqualified := by
    cases selection <;> rfl
  simp only [Block.dangling, Block.comparisons, Block.of, List.flatMap_singleton,
    List.filter_append, List.length_append, Block.events, joinConditions_dropUnqualified,
    bindItems_dropUnqualified, hdrop]
  simpa using (hcolumns.append hjoins).append hselection

mutual

theorem sheds_select (recurse : Bool) (scope : Scope) (query : Select) :
    Event.Sheds (Block.dangling recurse (query.blocks scope)).length
      (query.events recurse scope) (query.dropUnqualified.events recurse scope) := by
  match query with
  | ⟨ctes, sources, columns, selection, union⟩ =>
    rw [Select.blocks, Select.dropUnqualified, Select.events, Select.events]
    simp only [Block.dangling_append, List.length_append, names_dropUnqualified]
    exact ((sheds_ctes recurse scope ctes).append ((sheds_items recurse _ sources).append
      (sheds_block recurse _ sources columns selection))).append (sheds_branches recurse _ union)

theorem sheds_ctes (recurse : Bool) (scope : Scope) (ctes : List CommonTable) :
    Event.Sheds (Block.dangling recurse (CommonTable.blocks scope ctes)).length
      (CommonTable.events recurse scope ctes)
      (CommonTable.events recurse scope (CommonTable.dropUnqualified ctes)) := by
  match ctes with
  | [] => exact .nil
  | ⟨name, query⟩ :: rest =>
    rw [CommonTable.blocks, CommonTable.dropUnqualified, CommonTable.events, CommonTable.events,
      Block.dangling_append, List.length_append]
    exact (sheds_select recurse scope query).append (sheds_ctes recurse (scope.addCte name) rest)

theorem sheds_items (recurse : Bool) (scope : Scope) (items : List FromItem) :
    Event.Sheds (Block.dangling recurse (FromItem.blocks scope items)).length
      (FromItem.events recurse scope items)
      (FromItem.events recurse scope (FromItem.dropUnqualified items)) := by
  match items with
  | [] => exact .nil
  | item :: rest =>
    rw [FromItem.blocks, FromItem.dropUnqualified, FromItem.events, FromItem.events,
      Block.dangling_append, List.length_append, bindItem_dropOwn]
    exact (sheds_item recurse scope item).append (sheds_items recurse (scope.bindItem item) rest)

theorem sheds_item (recurse : Bool) (scope : Scope) (item : FromItem) :
    Event.Sheds (Block.dangling recurse (FromItem.ownBlocks scope item)).length
      (FromItem.ownEvents recurse scope item)
      (FromItem.ownEvents recurse scope (FromItem.dropOwn item)) := by
  match item with
  | ⟨.table name, _, _, _⟩ => exact .refl _
  | ⟨.subquery query, _, _, _⟩ =>
    rw [FromItem.ownBlocks, FromItem.dropOwn, FromItem.ownEvents, FromItem.ownEvents]
    exact sheds_select recurse scope query

theorem sheds_branches (recurse : Bool) (scope : Scope) (branches : List Select) :
    Event.Sheds (Block.dangling recurse (Select.branchBlocks scope branches)).length
      (Select.branchEvents recurse scope branches)
      (Select.branchEvents recurse scope (Select.dropBranches branches)) := by
  match branches with
  | [] => exact .nil
  | branch :: rest =>
    rw [Select.branchBlocks, Select.dropBranches, Select.branchEvents, Select.branchEvents,
      Block.dangling_append, List.length_append]
    exact (sheds_select recurse scope branch).append (sheds_branches recurse scope rest)

end

theorem scope_dropUnqualified (ctes : List CommonTable) :
    CommonTable.scope (CommonTable.dropUnqualified ctes) = CommonTable.scope ctes := by
  rw [CommonTable.scope, CommonTable.scope, names_dropUnqualified]

/-- Events that are filled into a target, and the link to what they read. -/
theorem Event.Sheds.link {number : Nat} {events kept : List Event}
    (hsheds : Event.Sheds number events kept) (target : String) (kind : RelationshipKind) :
    Event.Sheds number (events ++ [.link (Event.reads events) target kind])
      (kept ++ [.link (Event.reads kept) target kind]) := by
  rw [hsheds.reads_eq]
  exact hsheds.append (.refl _)

theorem sheds_change (recurse : Bool) (scope : Scope) (sources : List FromItem)
    (selection : Option Expression) :
    Event.Sheds (Block.dangling recurse (FromItem.changeBlocks scope sources selection)).length
      (FromItem.changeEvents recurse scope sources selection)
      (FromItem.changeEvents recurse scope (FromItem.dropUnqualified sources)
        (selection.map Expression.dropUnqualified)) := by
  rw [FromItem.changeBlocks, Block.dangling_append, List.length_append]
  exact (sheds_items recurse scope sources).append (sheds_block recurse scope sources [] selection)

theorem sheds_insert (recurse : Bool) (change : Insert) :
    Event.Sheds (Block.dangling recurse (Statement.insert change).blocks).length
      (Statement.events recurse (.insert change))
      (Statement.events recurse (Statement.dropUnqualified (.insert change))) := by
  have hctes := sheds_ctes recurse ⟨[], []⟩ change.ctes
  apply Event.Sheds.keep
  rw [Statement.blocks, Block.dangling_append, List.length_append]
  simp only [Insert.events, scope_dropUnqualified]
  cases change.source with
  | values => exact hctes.append (.refl _)
  | query rows => exact (hctes.append (sheds_select recurse _ rows)).link change.table .insert
  | defaultValues => exact hctes

theorem sheds_statement (recurse : Bool) (statement : Statement) :
    Event.Sheds (Block.dangling recurse statement.blocks).length (statement.events recurse)
      (statement.dropUnqualified.events recurse) := by
  cases statement with
  | select query => exact sheds_select recurse ⟨[], []⟩ query
  | insert change => exact sheds_insert recurse change
  | update change =>
    have hassigned := Event.Sheds.refl (change.assignments.map fun column =>
      Event.column change.table.name column .target)
    rw [Statement.blocks, Statement.dropUnqualified, Statement.events, Statement.events,
      Block.dangling_append, List.length_append, scope_dropUnqualified]
    exact (((sheds_ctes recurse ⟨[], []⟩ change.ctes).append hassigned).append
      (sheds_change recurse _ change.sources change.selection)).keep _
  | delete change =>
    rw [Statement.blocks, Statement.dropUnqualified, Statement.events, Statement.events,
      Block.dangling_append, List.length_append, scope_dropUnqualified]
    exact ((sheds_ctes recurse ⟨[], []⟩ change.ctes).append
      (sheds_change recurse _ change.sources change.selection)).keep _
  | createTable create =>
    rw [Statement.blocks, Statement.dropUnqualified, Statement.events, Statement.events]
    have hdeclared := Event.Sheds.refl
      (create.columns.flatMap (ColumnDefinition.events create.table)
        ++ create.foreignKeys.flatMap (fun key => Event.foreignKey create.table key.references))
    apply Event.Sheds.keep
    cases create.query with
    | none => simpa [Block.dangling] using hdeclared
    | some query =>
      simpa [Select.fillEvents] using
        hdeclared.append ((sheds_select recurse ⟨[], []⟩ query).link create.table .insert)
  | createView create =>
    exact ((sheds_select recurse ⟨[], []⟩ create.query).link create.view .viewDependency).keep _
  | alterTable table => exact .refl _
  | unsupported kind => exact .refl _

theorem sheds_statements (recurse : Bool) (statements : List Statement) :
    Event.Sheds (Block.dangling recurse (statements.flatMap Statement.blocks)).length
      (statements.flatMap (Statement.events recurse))
      ((statements.map Statement.dropUnqualified).flatMap (Statement.events recurse)) := by
  induction statements with
  | nil => exact .nil
  | cons statement rest ih =>
    rw [List.flatMap_cons, Block.dangling_append, List.length_append]
    exact (sheds_statement recurse statement).append ih

/-! ## Registries that lag behind -/

/-- Neither end of a link is the name for unknown owners. -/
def Link.Known (link : Link) : Prop :=
  link.source ≠ unknownTable ∧ link.target ≠ unknownTable

instance : DecidablePred Link.Known :=
  fun _ => inferInstanceAs (Decidable (_ ∧ _))

/-- The second registry has the same tables, and lacks that number of links that end at the name for
unknown owners. -/
structure Registry.Lags (number : Nat) (full behind : Registry) : Prop where
  outline_eq : full.outline = behind.outline
  sublist : behind.links.Sublist full.links
  known_eq : full.links.filter Link.Known = behind.links.filter Link.Known
  length_eq : full.links.length = behind.links.length + number

namespace Registry.Lags

variable {number : Nat} {full behind : Registry}

theorem record (hlags : Lags number full behind) (linking : SourceLinking) (event : Event) :
    Lags number (full.record linking event) (behind.record linking event) where
  outline_eq := outline_record_congr hlags.outline_eq linking linking event
  sublist := by
    rw [links_record, links_record, added_congr hlags.outline_eq]
    exact hlags.sublist.append (.refl _)
  known_eq := by
    rw [links_record, links_record, added_congr hlags.outline_eq, List.filter_append,
      List.filter_append, hlags.known_eq]
  length_eq := by
    have hlength := hlags.length_eq
    rw [links_record, links_record, added_congr hlags.outline_eq, List.length_append,
      List.length_append]
    omega

theorem loose (hlags : Lags number full behind) (linking : SourceLinking) {source target : String}
    (kind : RelationshipKind) (hne : source ≠ target)
    (hunknown : source = unknownTable ∨ target = unknownTable) :
    Lags (number + 1) (full.record linking (.relationship source target kind)) behind := by
  have hlinks : (full.record linking (.relationship source target kind)).links =
      full.links ++ [⟨source, kind, target⟩] := by
    rw [links_record, added, if_neg hne]
  have hnot : ¬ Link.Known ⟨source, kind, target⟩ := by
    rintro ⟨hsource, htarget⟩
    exact hunknown.elim hsource htarget
  constructor
  · rw [← hlags.outline_eq]
    exact outline_addRelationship full source target kind
  · rw [hlinks]
    exact hlags.sublist.trans (List.sublist_append_left _ _)
  · rw [hlinks, List.filter_append, hlags.known_eq]
    simp [hnot]
  · rw [hlinks, List.length_append, hlags.length_eq]
    simp [Nat.add_assoc]

/-- A registry lags further behind by what is shed. -/
theorem recordAll {more : Nat} {events kept : List Event} (hsheds : Event.Sheds more events kept)
    (hlags : Lags number full behind) (linking : SourceLinking) :
    Lags (number + more) (full.recordAll linking events) (behind.recordAll linking kept) := by
  induction hsheds generalizing number full behind with
  | nil => exact hlags
  | keep event _ ih => exact ih (hlags.record linking event)
  | column name role _ ih =>
    rw [recordAll_cons, Registry.record, ensureColumn_unknown]
    exact ih hlags
  | loop table kind _ ih =>
    have hsame : full.addRelationship table table kind = full := by simp [addRelationship]
    rw [recordAll_cons, Registry.record, hsame]
    exact ih hlags
  | loose source target kind hne hunknown _ ih =>
    rw [recordAll_cons, Nat.add_comm _ 1, ← Nat.add_assoc]
    exact ih (hlags.loose linking kind hne hunknown)

end Registry.Lags

/-! ## Graphs without references -/

theorem draws_iff_known {registry : Registry} (hends : registry.EndpointsKnown)
    (habsent : unknownTable ∉ registry.names) {link : Link} (hlink : link ∈ registry.links) :
    registry.Draws link ↔ link.Known := by
  obtain ⟨relationship, hrelationship, rfl⟩ := List.mem_map.mp hlink
  obtain ⟨hsource, htarget⟩ := hends relationship hrelationship
  constructor
  · rintro ⟨hsourceName, htargetName⟩
    exact ⟨fun heq => habsent (heq ▸ hsourceName), fun heq => habsent (heq ▸ htargetName)⟩
  · rintro ⟨hsourceKnown, htargetKnown⟩
    exact ⟨hsource.resolve_left hsourceKnown, htarget.resolve_left htargetKnown⟩

theorem draws_of_registered {registry : Registry} (hends : registry.EndpointsKnown)
    (hregistered : unknownTable ∈ registry.names) {link : Link} (hlink : link ∈ registry.links) :
    registry.Draws link := by
  obtain ⟨relationship, hrelationship, rfl⟩ := List.mem_map.mp hlink
  have hknown : ∀ name, registry.Known name → name ∈ registry.names := by
    rintro name (rfl | hname)
    · exact hregistered
    · exact hname
  exact (hends relationship hrelationship).imp (hknown _) (hknown _)

/-- A registry that lags behind draws the same links exactly if there is nothing to catch up on, or
no table has the name for unknown owners. -/
theorem Registry.Lags.drawn_eq_iff {number : Nat} {full behind : Registry}
    (hlags : Lags number full behind) (hfull : full.EndpointsKnown)
    (hbehind : behind.EndpointsKnown) :
    behind.links.filter behind.Draws = full.links.filter full.Draws ↔
      (unknownTable ∈ full.names → number = 0) := by
  have hnames : behind.names = full.names := by
    rw [names_eq_outline, names_eq_outline, hlags.outline_eq]
  by_cases hregistered : unknownTable ∈ full.names
  · have hall : full.links.filter full.Draws = full.links :=
      List.filter_eq_self.mpr fun link hlink =>
        decide_eq_true (draws_of_registered hfull hregistered hlink)
    have hallBehind : behind.links.filter behind.Draws = behind.links :=
      List.filter_eq_self.mpr fun link hlink =>
        decide_eq_true (draws_of_registered hbehind (hnames ▸ hregistered) hlink)
    have hlength := hlags.length_eq
    rw [hall, hallBehind]
    constructor
    · intro heq _
      rw [heq] at hlength
      omega
    · intro hzero
      have hnumber := hzero hregistered
      exact hlags.sublist.eq_of_length (by omega)
  · have hknown : full.links.filter full.Draws = full.links.filter Link.Known :=
      List.filter_congr fun link hlink =>
        decide_eq_decide.mpr (draws_iff_known hfull hregistered hlink)
    have hknownBehind : behind.links.filter behind.Draws = behind.links.filter Link.Known :=
      List.filter_congr fun link hlink =>
        decide_eq_decide.mpr (draws_iff_known hbehind (hnames ▸ hregistered) hlink)
    rw [hknown, hknownBehind, hlags.known_eq]
    exact ⟨fun _ hmem => absurd hmem hregistered, fun _ => rfl⟩

/-- Dropping the columns without a qualifier from all predicates keeps the tables, with their kinds
and columns.  It keeps the edges too exactly if no table has the name for unknown owners, or no such
column is compared with one of a known table. -/
theorem outline_dropUnqualified (options : Options) (statements : List Statement) :
    let graph := (analyzeStatements options statements).graph
    let dropped := (analyzeStatements options (statements.map Statement.dropUnqualified)).graph
    dropped.outline.tables = graph.outline.tables ∧
      (dropped.outline = graph.outline ↔
        ((∃ table ∈ graph.tables, table.label = unknownTable) →
          ∀ statement ∈ statements, ∀ block ∈ statement.blocks,
            ∀ comparison ∈ block.comparisons options.recurseConditions,
              ¬ block.scope.dangles comparison)) := by
  intro graph dropped
  have hlags : Lags
      (Block.dangling options.recurseConditions (statements.flatMap Statement.blocks)).length
      (registryOf options statements)
      (registryOf options (statements.map Statement.dropUnqualified)) := by
    have hempty : Lags 0 {} {} := ⟨rfl, .refl _, rfl, rfl⟩
    rw [registryOf_eq, registryOf_eq, ← Nat.zero_add (List.length _)]
    exact hempty.recordAll (sheds_statements options.recurseConditions statements)
      options.sourceLinking
  have hgraph := analyzeStatements_outline options statements
  have hdropped :=
    analyzeStatements_outline options (statements.map Statement.dropUnqualified)
  have hregistered : (∃ table ∈ graph.tables, table.label = unknownTable) ↔
      unknownTable ∈ (registryOf options statements).names := by
    rw [exists_table_label_iff, mem_names_registryOf]
  have hdrawn := hlags.drawn_eq_iff (registryOf_endpointsKnown options statements)
    (registryOf_endpointsKnown options (statements.map Statement.dropUnqualified))
  rw [hregistered]
  simp only [graph, dropped, hgraph, hdropped]
  refine ⟨hlags.outline_eq.symm, ?_⟩
  simp only [GraphOutline.mk.injEq, hlags.outline_eq, true_and,
    Link.edge_injective.list_map.eq_iff, hdrawn, List.length_eq_zero_iff,
    Block.dangling_eq_nil_iff, List.forall_mem_flatMap]

/-- `SELECT t.a FROM unknown JOIN t ON id = t.x` -/
def Statement.joiningUnknown : Statement :=
  let condition : Expression := .binary .eq (.column none "id") (.column (some "t") "x")
  .select
    { sources := [{ source := .table "unknown" },
        { source := .table "t", join := true, condition := some condition }]
      columns := [.column (some "t") "a"] }

theorem outline_dropUnqualified_ne :
    (analyzeStatements {} ([.joiningUnknown].map Statement.dropUnqualified)).graph.outline ≠
      (analyzeStatements {} [.joiningUnknown]).graph.outline := by
  rw [analyzeStatements_outline, analyzeStatements_outline]
  decide

end SqlLineage
