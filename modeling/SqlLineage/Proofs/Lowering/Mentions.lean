import SqlLineage.Proofs.Analysis.BlockScopes
import SqlLineage.Proofs.Analysis.Statements
import SqlLineage.Proofs.Lowering.CommonTables
import SqlLineage.Proofs.Lowering.PhantomTables

/-!
# Tables in the bodies of common tables

The body of a common table mentions the plain tables in the FROM clauses of its query blocks, and,
if it changes rows, its target.  The reduction loses a mention in two ways.  It drops parts: a body
that changes rows counts as an empty block, a relation that is reshaped is not kept, and neither are
the common tables over the rows of INSERT … VALUES.  And it moves common tables to the front of a row
of branches, where they capture names of other branches.  A statement registers every table that is
mentioned and not lost, so it registers all of them exactly if it registers the lost ones on other
grounds.
-/

namespace SqlLineage

open Sql

/-! ## The places of a statement -/

/-- The places of the common tables over a statement. -/
def Sql.Cte.leadingPlaces (recursive : Bool) (ctes : List Cte) : List Place :=
  (Cte.places ctes).map (Place.below (.clause recursive (Cte.names ctes)))

/-- The places in what an INSERT writes.  Of rows that are written out nothing is kept. -/
def Sql.Insert.sourcePlaces : Option Query → List Place
  | none => []
  | some ⟨recursive, ctes, .values _, _⟩ =>
    (Cte.leadingPlaces recursive ctes).map (Place.below .dropped)
  | some rows => rows.places

def Sql.Update.relations (change : Sql.Update) : List TableWithJoins :=
  change.table :: (change.beforeSet ++ change.afterSet)

def Sql.Delete.relations (change : Sql.Delete) : List TableWithJoins :=
  change.sources ++ change.using_

/-- The places of a statement that queries or changes rows. -/
def Sql.Statement.places : Sql.Statement → List Place
  | .query ⟨recursive, ctes, .insert change, _⟩ =>
    Cte.leadingPlaces recursive ctes
      ++ (Insert.sourcePlaces change.source).map (Place.below (.body (Cte.names ctes)))
  | .query ⟨recursive, ctes, .update change, _⟩ =>
    Cte.leadingPlaces recursive ctes
      ++ (TableWithJoins.places [] change.relations).map (Place.below (.body (Cte.names ctes)))
  | .query ⟨recursive, ctes, .delete change, _⟩ =>
    Cte.leadingPlaces recursive ctes
      ++ (TableWithJoins.places [] change.relations).map (Place.below (.body (Cte.names ctes)))
  | .query ⟨recursive, ctes, .directory _, _⟩ =>
    (Cte.leadingPlaces recursive ctes).map (Place.below .dropped)
  | .query rows => rows.places
  | .insert change => Insert.sourcePlaces change.source
  | .update change => TableWithJoins.places [] change.relations
  | .delete change => TableWithJoins.places [] change.relations
  | _ => []

/-! ## Mentions -/

/-- A table that a common table mentions, with the names that common tables bind at its place.  The
names in the scope of the analysis are known unless it never comes there. -/
structure Sql.Mention where
  name : String
  visible : List String
  seen : Option (List String)

/-- The analysis does not come to the place, or takes the name for that of a common table. -/
def Sql.Mention.Lost (mention : Mention) : Prop :=
  ∀ names ∈ mention.seen, mention.name ∈ names

/-- The named tables in the FROM clause of a block that are no calls. -/
def Sql.Select.plainTables (block : Sql.Select) : List String :=
  block.factors.filterMap TableFactor.plainTable?

/-- The common tables in the scope of the analysis at a place that it comes to. -/
def Sql.Place.seen (place : Place) : Option (List String) :=
  if place.kept then some (place.scopeUnder {}).ctes else none

/-- The mentions at a place in a common table.  The analysis never comes to the tables that are
changed there. -/
def Sql.Place.mentions (place : Place) : List Mention :=
  if place.inCte then
    place.block.plainTables.map (fun name => ⟨name, place.visible, place.seen⟩)
      ++ place.changed.map (fun name => ⟨name, place.visible, none⟩)
  else []

/-- The mentions in the common tables of a statement. -/
def Sql.Statement.mentions (statement : Sql.Statement) : List Mention :=
  statement.places.flatMap Place.mentions

theorem Sql.Mention.lost_of_unseen {mention : Mention} (hseen : mention.seen = none) :
    mention.Lost := by
  simp [Lost, hseen]

/-- A mention that is not lost is at a place that the reduction keeps, and its block reads the
table. -/
theorem reads_of_mem_mentions {place : Place} {mention : Mention}
    (hmention : mention ∈ place.mentions) (hfound : ¬ mention.Lost) :
    place.kept ∧ mention.name ∈ (place.reducedUnder {}).reads := by
  rw [Place.mentions] at hmention
  split at hmention
  · obtain hread | hchanged := List.mem_append.1 hmention
    · obtain ⟨name, hname, rfl⟩ := List.mem_map.1 hread
      rw [Place.seen] at hfound
      split at hfound
      · rename_i hkept
        have hseen : name ∉ (place.scopeUnder {}).ctes := by simpa [Mention.Lost] using hfound
        obtain ⟨factor, hfactor, hplain⟩ := List.mem_filterMap.1 hname
        have htable : name ∈ place.block.tables := List.mem_filterMap.2
          ⟨factor, hfactor, TableFactor.tableName?_eq_some_iff.2 (.inl hplain)⟩
        have hscope : name ∉ place.site.scope.ctes := by rwa [Place.site, Scope.ctes_bindItems]
        have hread : name ∈ place.site.reduced.reads :=
          Site.mem_reduced_reads.2 ⟨htable, hscope⟩
        exact ⟨hkept, hread⟩
      · exact absurd (Mention.lost_of_unseen rfl) hfound
    · obtain ⟨name, -, rfl⟩ := List.mem_map.1 hchanged
      exact absurd (Mention.lost_of_unseen rfl) hfound
  · exact absurd hmention List.not_mem_nil

/-! ## Places and the blocks of a reduced statement -/

/-- Every place that the reduction keeps has a block that reads the same tables. -/
def Sql.Place.ReadBy (scopes : Scopes) (places : List Place) (blocks : List Block) : Prop :=
  ∀ place ∈ places, place.kept → ∃ block ∈ blocks, block.reads = (place.reducedUnder scopes).reads

section ReadBy

variable {scopes : Scopes} {places : List Place}

theorem readBy_blocks (scopes : Scopes) (places : List Place) :
    Place.ReadBy scopes places (Place.blocks scopes places) :=
  fun _ hplace hkept =>
    ⟨_, List.mem_map_of_mem (List.mem_filter.2 ⟨hplace, hkept⟩), rfl⟩

theorem readBy_nil (scopes : Scopes) (blocks : List Block) : Place.ReadBy scopes [] blocks :=
  fun _ hplace => absurd hplace List.not_mem_nil

theorem Sql.Place.ReadBy.append {others : List Place} {before after : List Block}
    (hplaces : Place.ReadBy scopes places before) (hothers : Place.ReadBy scopes others after) :
    Place.ReadBy scopes (places ++ others) (before ++ after) := by
  intro place hplace hkept
  obtain hplace | hplace := List.mem_append.1 hplace
  · obtain ⟨block, hblock, hreads⟩ := hplaces place hplace hkept
    exact ⟨block, List.mem_append_left after hblock, hreads⟩
  · obtain ⟨block, hblock, hreads⟩ := hothers place hplace hkept
    exact ⟨block, List.mem_append_right before hblock, hreads⟩

theorem Sql.Place.ReadBy.below {step : Step} {blocks : List Block}
    (hplaces : Place.ReadBy (step.scopes scopes) places blocks) :
    Place.ReadBy scopes (places.map (Place.below step)) blocks := by
  intro place hplace hkept
  obtain ⟨inner, hinner, rfl⟩ := List.mem_map.1 hplace
  rw [Place.kept_below, Bool.and_eq_true] at hkept
  exact hplaces inner hinner hkept.2

theorem readBy_dropped (scopes : Scopes) (places : List Place) (blocks : List Block) :
    Place.ReadBy scopes (places.map (Place.below .dropped)) blocks := by
  intro place hplace hkept
  rw [Place.kept_of_mem_dropped hplace] at hkept
  cases hkept

/-- The common tables over a statement are read by their blocks. -/
theorem readBy_leading (recursive : Bool) (ctes : List Cte) :
    Place.ReadBy {} (Cte.leadingPlaces recursive ctes)
      (CommonTable.blocks ⟨[], []⟩ (CommonTable.ofList ctes)) := by
  rw [blocks_ofCtes {} ctes]
  exact (readBy_blocks _ _).below

/-- What stands behind common tables is read under their scope. -/
theorem readBy_body {ctes : List Cte} {blocks : List Block}
    (hplaces : Place.ReadBy ⟨CommonTable.scope (CommonTable.ofList ctes), none⟩ places blocks) :
    Place.ReadBy {} (places.map (Place.below (.body (Cte.names ctes)))) blocks := by
  rw [CommonTable.scope, CommonTable.names_ofList] at hplaces
  apply Place.ReadBy.below
  exact hplaces

/-- A query is read by its blocks. -/
theorem readBy_query (scope : Scope) (query : Query) :
    Place.ReadBy ⟨scope, none⟩ query.places ((Select.ofQuery query).blocks scope) := by
  rw [Select.blocks_eq, blocks_ofQuery]
  exact readBy_blocks _ _

theorem readBy_insertSource (scope : Scope) (source : Option Query) :
    Place.ReadBy ⟨scope, none⟩ (Insert.sourcePlaces source)
      ((InsertSource.ofSyntax source).blocks scope) := by
  match source with
  | none => exact readBy_nil _ _
  | some ⟨recursive, ctes, body, tail⟩ =>
    cases body with
    | values rows => exact readBy_dropped _ _ _
    | select _ | query _ | operation _ _ _ | table _ | insert _ | update _ | delete _ | merge _
    | directory _ => exact readBy_query scope _

/-- The relations of a change are read by its blocks.  The target in front of them has no block, and
what it binds makes no difference to what is read behind it. -/
theorem readBy_changeBlocks {scope binding : Scope} (hctes : binding.ctes = scope.ctes)
    {relations : List TableWithJoins} (front : List FromItem) {items : List FromItem}
    (hitems : FromItem.ofList relations = front ++ items)
    (hfront : FromItem.blocks scope front = []) (selection : Option Expression) :
    Place.ReadBy ⟨scope, none⟩ (TableWithJoins.places [] relations)
      (FromItem.changeBlocks binding items selection) := by
  intro place hplace hkept
  obtain ⟨block, hblock, hread⟩ := readBy_blocks ⟨scope, none⟩ _ place hplace hkept
  have hbehind : (scope.bindItems front).ctes = binding.ctes := by
    rw [Scope.ctes_bindItems, hctes]
  have hreads := reads_itemBlocks_congr hbehind items
  rw [← blocks_ofSources ⟨scope, none⟩ [] relations, hitems, FromItem.blocks_append] at hblock
  have hbehindFront : block ∈ FromItem.blocks (scope.bindItems front) items := by
    obtain hmem | hmem := List.mem_append.1 hblock
    · exact absurd (hfront ▸ hmem) List.not_mem_nil
    · exact hmem
  obtain ⟨other, hother, heq⟩ := List.mem_map.1 (hreads ▸ List.mem_map_of_mem hbehindFront)
  exact ⟨other, List.mem_append_left _ hother, heq.trans hread⟩

end ReadBy

/-! ## Changes behind common tables -/

theorem FromItem.ofList_append (first second : List TableWithJoins) :
    FromItem.ofList (first ++ second) = FromItem.ofList first ++ FromItem.ofList second := by
  induction first with
  | nil => rfl
  | cons source rest ih => rw [List.cons_append, FromItem.ofList, FromItem.ofList, ih,
      List.append_assoc]

theorem FromItem.takeTarget?_eq_some {items rest : List FromItem} {table : TableRef}
    (htarget : FromItem.takeTarget? items = some (table, rest)) :
    ∃ first, items = [first] ++ rest ∧ ∀ scope, FromItem.blocks scope [first] = [] := by
  match items with
  | [] => cases htarget
  | ⟨.subquery _, _, _, _⟩ :: _ => cases htarget
  | ⟨.table name, aliasName, join, condition⟩ :: others =>
    cases htarget
    exact ⟨⟨.table name, aliasName, join, condition⟩, rfl, fun _ => rfl⟩

theorem readBy_insert {change : Sql.Insert} {inner : Insert}
    (hchange : Insert.ofSyntax change = .ok inner) :
    inner.ctes = [] ∧ ∀ scope, Place.ReadBy ⟨scope, none⟩ (Insert.sourcePlaces change.source)
      (inner.source.blocks scope) := by
  rw [Insert.ofSyntax] at hchange
  split at hchange
  · cases hchange
    exact ⟨rfl, fun scope => readBy_insertSource scope change.source⟩
  · cases hchange

theorem readBy_update {change : Sql.Update} {inner : Update}
    (hchange : Update.ofSyntax change = .ok inner) :
    inner.ctes = [] ∧ ∀ scope : Scope,
      Place.ReadBy ⟨scope, none⟩ (TableWithJoins.places [] change.relations)
        (FromItem.changeBlocks (scope.bindTable inner.table.name inner.table.aliasName)
          inner.sources inner.selection) := by
  rw [Update.ofSyntax] at hchange
  split at hchange
  · cases hchange
  · rename_i table joined htarget
    cases hchange
    obtain ⟨first, hfirst, hnone⟩ := FromItem.takeTarget?_eq_some htarget
    have hitems : FromItem.ofList change.relations = [first] ++
        (joined ++ FromItem.ofList change.beforeSet ++ FromItem.ofList change.afterSet) := by
      rw [Update.relations, FromItem.ofList, hfirst, FromItem.ofList_append, List.append_assoc,
        List.append_assoc]
    exact ⟨rfl, fun scope =>
      readBy_changeBlocks (Scope.ctes_bindTable _ _ _) [first] hitems (hnone _) _⟩

theorem readBy_delete {change : Sql.Delete} {inner : Delete}
    (hchange : Delete.ofSyntax change = .ok inner) :
    inner.ctes = [] ∧ ∀ scope : Scope,
      Place.ReadBy ⟨scope, none⟩ (TableWithJoins.places [] change.relations)
        (FromItem.changeBlocks (scope.bindTable inner.table.name inner.table.aliasName)
          inner.sources inner.selection) := by
  have hrelations : FromItem.ofList change.relations =
      FromItem.ofList change.sources ++ FromItem.ofList change.using_ :=
    FromItem.ofList_append _ _
  rw [Delete.ofSyntax] at hchange
  split at hchange
  · cases hchange
    exact ⟨rfl, fun scope =>
      readBy_changeBlocks (Scope.ctes_bindTable _ _ _) [] hrelations rfl _⟩
  · split at hchange
    · rename_i table rest htarget
      cases hchange
      obtain ⟨first, hfirst, hnone⟩ := FromItem.takeTarget?_eq_some htarget
      exact ⟨rfl, fun scope => readBy_changeBlocks (Scope.ctes_bindTable _ _ _) [first]
        (hrelations.trans hfirst) (hnone _) _⟩
    · cases hchange

/-- The places of a statement are read by the blocks of what it is reduced to. -/
theorem readBy_statement {source : Sql.Statement} {statement : Statement}
    (hlower : Statement.ofSyntax source = .ok statement) :
    Place.ReadBy {} source.places statement.blocks := by
  cases source with
  | query block =>
    obtain ⟨recursive, ctes, body, tail⟩ := block
    have hleading := readBy_leading recursive ctes
    cases body with
    | insert change =>
      obtain ⟨inner, hchange, rfl⟩ := eq_ok_of_bind hlower
      exact hleading.append (readBy_body ((readBy_insert hchange).2 _))
    | update change =>
      obtain ⟨inner, hchange, rfl⟩ := eq_ok_of_bind hlower
      exact hleading.append (readBy_body ((readBy_update hchange).2 _))
    | delete change =>
      obtain ⟨inner, hchange, rfl⟩ := eq_ok_of_bind hlower
      exact hleading.append (readBy_body ((readBy_delete hchange).2 _))
    | directory text => exact readBy_dropped _ _ _
    | select _ | query _ | operation _ _ _ | values _ | table _ | merge _ =>
      cases hlower
      exact readBy_query _ _
  | insert change =>
    obtain ⟨inner, hchange, rfl⟩ := eq_ok_of_bind hlower
    obtain ⟨hctes, hread⟩ := readBy_insert hchange
    rw [Statement.blocks, hctes]
    exact hread _
  | update change =>
    obtain ⟨inner, hchange, rfl⟩ := eq_ok_of_bind hlower
    obtain ⟨hctes, hread⟩ := readBy_update hchange
    rw [Statement.blocks, hctes]
    exact hread _
  | delete change =>
    obtain ⟨inner, hchange, rfl⟩ := eq_ok_of_bind hlower
    obtain ⟨hctes, hread⟩ := readBy_delete hchange
    rw [Statement.blocks, hctes]
    exact hread _
  | createTable _ | createView _ | alterTable _ | other _ => exact readBy_nil _ _

/-- The graph has every table that the common tables of a statement mention, those aside that have
the name of a common table in view. -/
def Graph.HasMentions (graph : Graph) (source : Sql.Statement) : Prop :=
  ∀ mention ∈ source.mentions, mention.name ∉ mention.visible →
    ∃ table ∈ graph.tables, table.label = mention.name

instance (graph : Graph) (source : Sql.Statement) : Decidable (graph.HasMentions source) :=
  inferInstanceAs (Decidable (∀ mention ∈ source.mentions, mention.name ∉ mention.visible →
    ∃ table ∈ graph.tables, table.label = mention.name))

/-- A statement registers every table that its common tables mention and that is not lost.  So its
graph has all mentioned tables exactly if the lost ones are registered on other grounds: the
statement declares them, or one of its blocks registers them. -/
theorem mentions_registered (options : Options) {source : Sql.Statement} {statement : Statement}
    (hlower : Statement.ofSyntax source = .ok statement) :
    (∀ mention ∈ source.mentions, ¬ mention.Lost →
        ∃ table ∈ (analyzeStatements options [statement]).graph.tables,
          table.label = mention.name) ∧
      ((analyzeStatements options [statement]).graph.HasMentions source ↔
        ∀ mention ∈ source.mentions, mention.name ∉ mention.visible → mention.Lost →
          mention.name ∈ statement.declared ∨
            ∃ block ∈ statement.blocks,
              block.Registers options.recurseConditions mention.name) := by
  simp only [Graph.HasMentions, exists_table_label_iff, List.mem_singleton, exists_eq_left]
  have hkept : ∀ mention ∈ source.mentions, ¬ mention.Lost →
      statement.Registers options.recurseConditions mention.name := by
    intro mention hmention hnot
    obtain ⟨place, hplace, hinside⟩ := List.mem_flatMap.1 hmention
    obtain ⟨hkept, hread⟩ := reads_of_mem_mentions hinside hnot
    obtain ⟨block, hblock, hreads⟩ := readBy_statement hlower place hplace hkept
    exact .inr ⟨block, hblock, .inl (hreads ▸ hread)⟩
  refine ⟨hkept, fun hall mention hmention hfree _ => hall mention hmention hfree, ?_⟩
  intro hlost mention hmention hfree
  by_cases hcase : mention.Lost
  · exact hlost mention hmention hfree hcase
  · exact hkept mention hmention hcase

/-- `WITH c AS (SELECT a FROM base) INSERT INTO t SELECT a FROM c` -/
def Sql.Statement.filling : Sql.Statement :=
  .query ⟨false, [.binding "c" (.reading "base")], .insert
    { target := .table ⟨[.ident ⟨"t", none⟩]⟩
      source := some ⟨false, [], .reading "c", ""⟩ }, ""⟩

theorem filling_registers_base :
    ∃ statement, Statement.ofSyntax .filling = .ok statement ∧
      ∃ table ∈ (analyzeStatements {} [statement]).graph.tables, table.label = "base" := by
  obtain ⟨statement, hlower⟩ : ∃ statement, Statement.ofSyntax .filling = .ok statement := ⟨_, rfl⟩
  have hmention : ⟨"base", [], some []⟩ ∈ Sql.Statement.filling.mentions := List.mem_cons_self
  have hkept : ¬ Mention.Lost ⟨"base", [], some []⟩ := by simp [Mention.Lost]
  exact ⟨statement, hlower, (mentions_registered {} hlower).1 _ hmention hkept⟩

/-- `INSERT INTO t WITH c AS (SELECT a FROM base) VALUES (1)` -/
def Sql.Statement.insertingValues : Sql.Statement :=
  .insert
    { target := .table ⟨[.ident ⟨"t", none⟩]⟩
      source := some ⟨false, [.binding "c" (.reading "base")], .values "VALUES (1)", ""⟩ }

/-- `WITH c AS (DELETE FROM old RETURNING a) SELECT a FROM c` -/
def Sql.Statement.returning : Sql.Statement :=
  .query ⟨false, [.binding "c" (.delete
    { sources := [⟨.named "old", []⟩], tail := "RETURNING a" })], .reading "c", ""⟩

/-- `(WITH c AS (SELECT a FROM t) SELECT a FROM c) UNION
(WITH d AS (SELECT a FROM c) SELECT a FROM d)` -/
def Sql.Statement.capturing : Sql.Statement :=
  .query ⟨false, [], .operation "UNION"
    (.query ⟨false, [.binding "c" (.reading "t")], .reading "c", ""⟩)
    (.query ⟨false, [.binding "d" (.reading "c")], .reading "d", ""⟩), ""⟩

theorem not_hasMentions :
    (∃ statement, Statement.ofSyntax .insertingValues = .ok statement ∧
      ¬ (analyzeStatements {} [statement]).graph.HasMentions .insertingValues) ∧
    (∃ statement, Statement.ofSyntax .returning = .ok statement ∧
      ¬ (analyzeStatements {} [statement]).graph.HasMentions .returning) ∧
    ∃ statement, Statement.ofSyntax .capturing = .ok statement ∧
      ¬ (analyzeStatements {} [statement]).graph.HasMentions .capturing := by
  refine ⟨⟨_, rfl, ?_⟩, ⟨_, rfl, ?_⟩, ⟨_, rfl, ?_⟩⟩
  · decide
  · decide
  · decide

end SqlLineage
