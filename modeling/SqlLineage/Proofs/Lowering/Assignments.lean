import SqlLineage.Proofs.Analysis.ColumnRoles
import SqlLineage.Proofs.Lowering.Leaves
import SqlLineage.Proofs.Lowering.Mentions

/-!
# Tables of assigned columns

An UPDATE over several relations may assign columns of any of them, each behind the alias or the
name of its relation.  The reduced statement keeps no qualifier of an assignment and takes its first
relation for the table it changes.  So an assigned column gets to the table it is written in exactly
if that is the table of the first relation.
-/

namespace SqlLineage

open Sql

/-! ## Assignments and what they are written in -/

/-- The columns that an assignment sets, as they are written. -/
def Sql.AssignmentTarget.names : AssignmentTarget → List ObjectName
  | .column name => [name]
  | .tuple names => names

/-- The statement assigns the column, which is written behind that qualifier. -/
def Sql.Update.Assigns (update : Sql.Update) (qualifier column : String) : Prop :=
  ∃ assignment ∈ update.assignments, ∃ name ∈ assignment.target.names, ∃ owner last,
    name.parts = owner ++ [last] ∧ owner ≠ [] ∧ ObjectName.plain ⟨owner⟩ = qualifier ∧
      last.plain = column

/-- The table that a leaf names. -/
def Sql.Leaf.tableName? (leaf : Leaf) : Option String :=
  match leaf.source with
  | .table name => some name
  | .subquery _ => none

/-- A relation of the statement is the table, and the qualifier is its alias or, if it has none, its
name. -/
def Sql.Update.Calls (update : Sql.Update) (qualifier table : String) : Prop :=
  ∃ leaf ∈ update.relations.flatMap TableWithJoins.leaves,
    leaf.tableName? = some table ∧ leaf.aliasName.getD table = qualifier

/-- The table that stands first in the statement. -/
def Sql.Update.firstTable? (update : Sql.Update) : Option String :=
  update.table.leaves.head?.bind Leaf.tableName?

/-- On an empty registry the statement makes the column a target in that table.  It registers the
column in another table only if it names it there too. -/
def Sql.Update.Attributes (options : Options) (update : Sql.Update) (table column : String) :
    Prop :=
  ∃ statement, Statement.ofSyntax (.update update) = .ok statement ∧
    (analyzeStatement options statement {}).Lists table column .target ∧
    ∀ other, other ≠ table →
      (other, column) ∈ (analyzeStatement options statement {}).columnNames →
        (∃ qualifier, update.Assigns qualifier column ∧ update.Calls qualifier other) ∨
          Block.NamesColumn options.recurseConditions other column statement.blocks

/-! ## What an UPDATE is reduced to -/

theorem Sql.AssignmentTarget.columns_eq (target : AssignmentTarget) :
    target.columns = target.names.map ObjectName.lastPart := by
  cases target <;> rfl

theorem Sql.ObjectName.lastPart_eq {name : ObjectName} {owner : List NamePart} {last : NamePart}
    (hparts : name.parts = owner ++ [last]) : name.lastPart = last.plain := by
  rw [lastPart, hparts, List.map_append, List.map_singleton, List.getLast?_concat,
    Option.getD_some]

/-- Without its qualifier, an assigned column is one of the reduced statement. -/
theorem Sql.Update.Assigns.mem {update : Sql.Update} {qualifier column : String}
    (hassigns : update.Assigns qualifier column) :
    column ∈ update.assignments.flatMap fun assignment => assignment.target.columns := by
  obtain ⟨assignment, hassignment, name, hname, owner, last, hparts, -, -, rfl⟩ := hassigns
  refine List.mem_flatMap_of_mem hassignment ?_
  rw [AssignmentTarget.columns_eq, ← ObjectName.lastPart_eq hparts]
  exact List.mem_map_of_mem hname

/-- The table that an UPDATE takes for its own is its first leaf. -/
theorem takeTarget?_ofTable (source : TableWithJoins) :
    (FromItem.takeTarget? (FromItem.ofTable source)).map (fun found => found.1.name) =
      source.leaves.head?.bind Leaf.tableName? := by
  have hstand := standsFor_ofTable source
  revert hstand
  generalize FromItem.ofTable source = items
  generalize source.leaves = leaves
  intro hstand
  cases hstand with
  | nil => rfl
  | @cons item leaf _ _ hfirst hrest =>
    obtain ⟨itemSource, aliasName, join, condition⟩ := item
    rw [List.head?_cons, Option.bind_some, Leaf.tableName?, ← hfirst.source_eq]
    cases itemSource <;> rfl

theorem Update.ofSyntax_eq_ok {update : Sql.Update} {change : Update}
    (hlower : Update.ofSyntax update = .ok change) :
    update.firstTable? = some change.table.name ∧ change.ctes = [] ∧
      change.assignments =
        update.assignments.flatMap fun assignment => assignment.target.columns := by
  have hfirst := takeTarget?_ofTable update.table
  rw [Update.ofSyntax] at hlower
  split at hlower
  · cases hlower
  · rename_i table joined htarget
    cases hlower
    rw [htarget] at hfirst
    exact ⟨hfirst.symm, rfl, rfl⟩

theorem Update.exists_ofSyntax {update : Sql.Update} {table : String}
    (hfirst : update.firstTable? = some table) : ∃ change, Update.ofSyntax update = .ok change := by
  have htarget := takeTarget?_ofTable update.table
  rw [← Sql.Update.firstTable?, hfirst, Option.map_eq_some_iff] at htarget
  obtain ⟨found, htaken, -⟩ := htarget
  rw [Update.ofSyntax, htaken]
  exact ⟨_, rfl⟩

/-! ## Where assigned columns get -/

/-- An assigned column gets to a table exactly if that is the first one. -/
theorem Sql.Update.attributes_iff (options : Options) {update : Sql.Update}
    {qualifier table column : String} (hassigns : update.Assigns qualifier column) :
    update.Attributes options table column ↔
      update.firstTable? = some table ∧ table ≠ unknownTable := by
  constructor
  · rintro ⟨statement, hlower, hlists, -⟩
    obtain ⟨change, hchange, rfl⟩ := eq_ok_of_bind hlower
    obtain ⟨hfirst, hctes, -⟩ := Update.ofSyntax_eq_ok hchange
    obtain ⟨rfl, hknown, -⟩ := (lists_target_analyzeUpdate_iff hctes).mp hlists
    exact ⟨hfirst, hknown⟩
  · rintro ⟨hfirst, hknown⟩
    obtain ⟨change, hchange⟩ := Update.exists_ofSyntax hfirst
    obtain ⟨htable, hctes, hassignments⟩ := Update.ofSyntax_eq_ok hchange
    have hname : table = change.table.name := Option.some.inj (hfirst.symm.trans htable)
    have hcolumn : column ∈ change.assignments := hassignments ▸ hassigns.mem
    have hlower : Statement.ofSyntax (.update update) = .ok (.update change) := by
      rw [Statement.ofSyntax, hchange]
      rfl
    refine ⟨.update change, hlower, ?_, ?_⟩
    · exact (lists_target_analyzeUpdate_iff hctes).mpr ⟨hname, hknown, hcolumn⟩
    · intro other hother hmem
      exact .inr (namesColumn_of_mem_analyzeUpdate hmem (hname ▸ hother))

/-- Every assigned column with a qualifier gets to the tables that its qualifier calls, and to no
other table that the statement does not name it in, exactly if those are the first table of the
statement each time, under a name that stands for no unknown owner. -/
theorem assignments_attributed_iff (options : Options) (update : Sql.Update) :
    (∀ qualifier column table, update.Assigns qualifier column → update.Calls qualifier table →
        update.Attributes options table column) ↔
      ∀ qualifier column table, update.Assigns qualifier column → update.Calls qualifier table →
        update.firstTable? = some table ∧ table ≠ unknownTable := by
  refine forall₃_congr fun qualifier column table => ?_
  exact forall₂_congr fun hassigns _ => Sql.Update.attributes_iff options hassigns

/-- `UPDATE a JOIN b USING(id) SET b.x = 1` -/
def Sql.Update.joining : Sql.Update where
  table := ⟨.named "a", [⟨false, .join, .using "(id)", .named "b"⟩]⟩
  assignments := [⟨.column ⟨[.ident ⟨"b", none⟩, .ident ⟨"x", none⟩]⟩, .other "1"⟩]

/-- The column `x` of `b` gets to `a`. -/
theorem exists_assignment_misplaced :
    Update.joining.Assigns "b" "x" ∧ Update.joining.Calls "b" "b" ∧
      ¬ Update.joining.Attributes {} "b" "x" ∧
      ∃ statement, Statement.ofSyntax (.update .joining) = .ok statement ∧
        (analyzeStatement {} statement {}).Lists "a" "x" .target := by
  refine ⟨?_, ?_, ?_, ?_⟩
  · exact ⟨_, List.mem_cons_self, _, List.mem_cons_self, [.ident ⟨"b", none⟩],
      .ident ⟨"x", none⟩, rfl, by decide, by decide, rfl⟩
  · have hleaf : ⟨[1], .table "b", none⟩ ∈ TableWithJoins.leaves Update.joining.table :=
      List.mem_cons_of_mem _ List.mem_cons_self
    exact ⟨_, List.mem_flatMap_of_mem List.mem_cons_self hleaf, rfl, rfl⟩
  · rintro ⟨statement, hlower, hlists, -⟩
    cases hlower
    revert hlists
    decide
  · exact ⟨_, rfl, by decide⟩

end SqlLineage
