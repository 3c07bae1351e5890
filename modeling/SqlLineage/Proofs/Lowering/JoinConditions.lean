import SqlLineage.Proofs.Lowering.Factors
import SqlLineage.Proofs.Lowering.Leaves

/-!
# Join conditions

Reducing a FROM list hands the condition of a join down to the first leaf of the relation that is
joined.  There is no such leaf if the relation is rows that come from no table or are reshaped, and
the leaf keeps the condition it has if an inner join gave it one.  In both cases the outer condition
is dropped.  All the other conditions stay, in order and each once.  So a list that joins no such
rows keeps them all.
-/

namespace SqlLineage

open Sql

/-! ## Joins and the room for their conditions -/

/-- The condition that a join is reduced to. -/
def Sql.Join.condition? (join : Join) : Option Expression :=
  Expression.ofJoin join.kind join.constraint

mutual

/-- The joins of a tree, each before those inside the relation it joins. -/
def Sql.TableWithJoins.allJoins : TableWithJoins → List Join
  | ⟨relation, joins⟩ => TableFactor.allJoins relation ++ Join.allJoins joins

def Sql.Join.allJoins : List Join → List Join
  | [] => []
  | ⟨global, kind, constraint, relation⟩ :: rest =>
    ⟨global, kind, constraint, relation⟩ :: TableFactor.allJoins relation ++ Join.allJoins rest

def Sql.TableFactor.allJoins : TableFactor → List Join
  | .nested tables _ => TableWithJoins.allJoins tables
  | _ => []

end

mutual

/-- A tree has a first leaf, and no join inside the tree gives it a condition. -/
def Sql.TableWithJoins.hasRoom : TableWithJoins → Bool
  | ⟨relation, joins⟩ =>
    if (TableFactor.leaves relation).isEmpty then Join.haveRoom joins
    else TableFactor.hasRoom relation

/-- The same of joined relations.  The join of the first one with a leaf may give a condition. -/
def Sql.Join.haveRoom : List Join → Bool
  | [] => false
  | ⟨_, kind, constraint, relation⟩ :: rest =>
    if (TableFactor.leaves relation).isEmpty then Join.haveRoom rest
    else (Expression.ofJoin kind constraint).isNone && TableFactor.hasRoom relation

def Sql.TableFactor.hasRoom : TableFactor → Bool
  | .table _ _ _ _ => true
  | .derived _ _ _ => true
  | .nested tables _ => TableWithJoins.hasRoom tables
  | .rows _ _ => false
  | .reshaped _ _ _ => false

end

/-- The relation of a join has room for its condition. -/
def Sql.Join.hasRoom (join : Join) : Bool :=
  join.relation.hasRoom

/-! ## Where a condition goes -/

namespace FromItem

/-- The first relation carries no condition. -/
def openFirst : List FromItem → Bool
  | [] => false
  | first :: _ => first.condition.isNone

theorem openFirst_append (first second : List FromItem) :
    openFirst (first ++ second) = if first.isEmpty then openFirst second else openFirst first := by
  cases first with
  | nil => rfl
  | cons item rest => rfl

theorem openFirst_regroup (join : Bool) (condition : Option Expression) (items : List FromItem) :
    openFirst (regroup join condition items) = (condition.isNone && openFirst items) := by
  match items with
  | [] => simp [regroup, openFirst]
  | ⟨source, aliasName, joined, own⟩ :: rest =>
    cases own <;> cases condition <;> rfl

@[simp]
theorem isEmpty_regroup (join : Bool) (condition : Option Expression) (items : List FromItem) :
    (regroup join condition items).isEmpty = items.isEmpty := by
  cases items with
  | nil => rfl
  | cons first rest => rfl

/-- A group takes the condition given to it in front of its own ones, if it has room. -/
theorem conditions_regroup (join : Bool) (condition : Option Expression) (items : List FromItem) :
    (regroup join condition items).filterMap FromItem.condition =
      (if openFirst items then condition.toList else []) ++ items.filterMap FromItem.condition := by
  match items with
  | [] => simp [regroup, openFirst]
  | ⟨source, aliasName, joined, own⟩ :: rest =>
    cases own <;> cases condition <;> simp [regroup, openFirst]

theorem isEmpty_ofFactor (factor : TableFactor) :
    (ofFactor false none factor).isEmpty = factor.leaves.isEmpty := by
  have hlength := (standsFor_ofFactor factor).length_eq
  rw [Bool.eq_iff_iff, List.isEmpty_iff_length_eq_zero, hlength, List.isEmpty_iff_length_eq_zero]

end FromItem

mutual

theorem openFirst_ofTable (source : TableWithJoins) :
    FromItem.openFirst (FromItem.ofTable source) = source.hasRoom := by
  match source with
  | ⟨relation, joins⟩ =>
    rw [FromItem.ofTable, FromItem.openFirst_append, FromItem.isEmpty_ofFactor,
      openFirst_ofFactor relation, openFirst_ofJoins joins, TableWithJoins.hasRoom]

theorem openFirst_ofJoins (joins : List Join) :
    FromItem.openFirst (FromItem.ofJoins joins) = Join.haveRoom joins := by
  match joins with
  | [] => rfl
  | ⟨_, kind, constraint, relation⟩ :: rest =>
    rw [FromItem.ofJoins, FromItem.ofFactor_eq_regroup, FromItem.openFirst_append,
      FromItem.isEmpty_regroup, FromItem.isEmpty_ofFactor, FromItem.openFirst_regroup,
      openFirst_ofFactor relation, openFirst_ofJoins rest, Join.haveRoom]

/-- The first relation of a factor is open exactly if the factor has room. -/
theorem openFirst_ofFactor (factor : TableFactor) :
    FromItem.openFirst (FromItem.ofFactor false none factor) = factor.hasRoom := by
  match factor with
  | .table _ _ _ _ | .derived _ _ _ | .rows _ _ | .reshaped _ _ _ => rfl
  | .nested tables _ =>
    rw [FromItem.ofFactor, FromItem.regroup_false_none, openFirst_ofTable tables,
      TableFactor.hasRoom]

end

/-! ## The conditions that stay -/

/-- The conditions of those joins whose relation has room. -/
def Sql.Join.keptConditions (joins : List Join) : List Expression :=
  (joins.filter Join.hasRoom).filterMap Join.condition?

namespace Sql.Join

theorem keptConditions_append (first second : List Join) :
    keptConditions (first ++ second) = keptConditions first ++ keptConditions second := by
  rw [keptConditions, List.filter_append, List.filterMap_append]
  rfl

theorem keptConditions_cons (join : Join) (rest : List Join) :
    keptConditions (join :: rest) =
      (if join.hasRoom then join.condition?.toList else []) ++ keptConditions rest := by
  rw [keptConditions, List.filter_cons]
  cases join.hasRoom with
  | false => rfl
  | true => cases hcondition : join.condition? <;> simp [hcondition, keptConditions]

end Sql.Join

mutual

theorem conditions_ofTable (source : TableWithJoins) :
    (FromItem.ofTable source).filterMap FromItem.condition =
      Join.keptConditions source.allJoins := by
  match source with
  | ⟨relation, joins⟩ =>
    rw [FromItem.ofTable, List.filterMap_append, conditions_ofFactor relation,
      conditions_ofJoins joins, TableWithJoins.allJoins, Join.keptConditions_append]

theorem conditions_ofJoins (joins : List Join) :
    (FromItem.ofJoins joins).filterMap FromItem.condition =
      Join.keptConditions (Join.allJoins joins) := by
  match joins with
  | [] => rfl
  | ⟨_, kind, constraint, relation⟩ :: rest =>
    rw [FromItem.ofJoins, FromItem.ofFactor_eq_regroup, List.filterMap_append,
      FromItem.conditions_regroup, openFirst_ofFactor, conditions_ofFactor relation,
      conditions_ofJoins rest, Join.allJoins, List.cons_append, Join.keptConditions_cons,
      Join.keptConditions_append, List.append_assoc, Join.hasRoom, Join.condition?]

theorem conditions_ofFactor (factor : TableFactor) :
    (FromItem.ofFactor false none factor).filterMap FromItem.condition =
      Join.keptConditions factor.allJoins := by
  match factor with
  | .table _ _ _ _ | .derived _ _ _ | .rows _ _ | .reshaped _ _ _ => rfl
  | .nested tables _ =>
    rw [FromItem.ofFactor, FromItem.regroup_false_none, conditions_ofTable tables,
      TableFactor.allJoins]

end

theorem conditions_ofList (sources : List TableWithJoins) :
    (FromItem.ofList sources).filterMap FromItem.condition =
      Join.keptConditions (sources.flatMap TableWithJoins.allJoins) := by
  induction sources with
  | nil => rfl
  | cons source rest ih =>
    rw [FromItem.ofList, List.filterMap_append, ih, conditions_ofTable, List.flatMap_cons,
      Join.keptConditions_append]

theorem keptConditions_sublist (joins : List Join) :
    (Join.keptConditions joins).Sublist (joins.filterMap Join.condition?) :=
  List.filter_sublist.filterMap _

/-- All conditions are kept exactly if each stands on a relation with room. -/
theorem keptConditions_eq_iff {joins : List Join} :
    Join.keptConditions joins = joins.filterMap Join.condition? ↔
      ∀ join ∈ joins, join.condition?.isSome → join.hasRoom := by
  induction joins with
  | nil => simp [Join.keptConditions]
  | cons join rest ih =>
    rw [List.forall_mem_cons, ← ih, Join.keptConditions_cons]
    cases hcondition : join.condition? with
    | none => simp [hcondition]
    | some condition =>
      cases hroom : join.hasRoom with
      | true => simp [hcondition]
      | false =>
        have hlength := (keptConditions_sublist rest).length_le
        have hne : Join.keptConditions rest ≠ condition :: rest.filterMap Join.condition? := by
          intro heq
          rw [heq, List.length_cons] at hlength
          omega
        simp [hcondition, hne]

theorem keptConditions_perm_iff {joins : List Join} :
    (Join.keptConditions joins).Perm (joins.filterMap Join.condition?) ↔
      ∀ join ∈ joins, join.condition?.isSome → join.hasRoom := by
  rw [← keptConditions_eq_iff]
  constructor
  · intro hperm
    exact (keptConditions_sublist joins).eq_of_length hperm.length_eq
  · intro heq
    rw [heq]

/-! ## Lists that join no rows -/

/-- Rows that come from no table, or that are reshaped. -/
def Sql.TableFactor.isRows : TableFactor → Bool
  | .rows _ _ => true
  | .reshaped _ _ _ => true
  | _ => false

theorem isEmpty_leaves_of_hasRoom {factor : TableFactor} (hroom : factor.hasRoom = true) :
    factor.leaves.isEmpty = false := by
  rw [← openFirst_ofFactor] at hroom
  rw [← FromItem.isEmpty_ofFactor]
  cases hitems : FromItem.ofFactor false none factor with
  | nil =>
    rw [hitems] at hroom
    cases hroom
  | cons item rest => rfl

mutual

/-- Without rows, the first relation of a tree has a leaf, and its condition is still to come. -/
theorem hasRoom_ofTable {source : TableWithJoins}
    (hrows : ∀ factor ∈ source.factors, factor.isRows = false) : source.hasRoom = true := by
  match source with
  | ⟨relation, joins⟩ =>
    rw [TableWithJoins.factors, List.forall_mem_append] at hrows
    have hroom := hasRoom_ofFactor hrows.1
    rw [TableWithJoins.hasRoom, isEmpty_leaves_of_hasRoom hroom, if_neg Bool.false_ne_true, hroom]

theorem hasRoom_ofFactor {factor : TableFactor}
    (hrows : ∀ other ∈ factor.factors, other.isRows = false) : factor.hasRoom = true := by
  match factor with
  | .table _ _ _ _ | .derived _ _ _ => rfl
  | .nested tables _ =>
    rw [TableFactor.factors, List.forall_mem_cons] at hrows
    exact hasRoom_ofTable hrows.2
  | .rows _ _ | .reshaped _ _ _ => cases hrows _ List.mem_cons_self

end

/-- A FROM list that joins no rows keeps the conditions of all its joins, in order. -/
theorem conditions_ofList_of_no_rows {sources : List TableWithJoins}
    (hrows : ∀ join ∈ sources.flatMap TableWithJoins.allJoins,
      ∀ factor ∈ join.relation.factors, factor.isRows = false) :
    (FromItem.ofList sources).filterMap FromItem.condition =
      (sources.flatMap TableWithJoins.allJoins).filterMap Join.condition? := by
  rw [conditions_ofList, keptConditions_eq_iff]
  exact fun join hjoin _ => hasRoom_ofFactor (hrows join hjoin)

/-! ## All conditions of a list -/

/-- The conditions in a reduced FROM list are those of the joins whose relation has room for one, in
order.  None is made up and none stands there twice.  They are the conditions of all the joins
exactly if every join with a condition has a relation with room. -/
theorem ofList_conditions (sources : List TableWithJoins) :
    (FromItem.ofList sources).filterMap FromItem.condition =
        ((sources.flatMap TableWithJoins.allJoins).filter Join.hasRoom).filterMap Join.condition? ∧
      (((FromItem.ofList sources).filterMap FromItem.condition).Perm
          ((sources.flatMap TableWithJoins.allJoins).filterMap Join.condition?) ↔
        ∀ join ∈ sources.flatMap TableWithJoins.allJoins,
          join.condition?.isSome → join.hasRoom) := by
  rw [conditions_ofList]
  exact ⟨rfl, keptConditions_perm_iff⟩

/-- `left.column = right.column` -/
def Sql.Expr.equating (left right column : String) : Expr :=
  .binary .eq (.path [⟨left, none⟩, ⟨column, none⟩]) (.path [⟨right, none⟩, ⟨column, none⟩])

/-- `UNNEST(table.xs) AS u` -/
def Sql.TableFactor.unnesting (table : String) : TableFactor :=
  .rows s!"UNNEST({table}.xs)" (some ⟨⟨"u", none⟩, ""⟩)

/-- `a, b JOIN UNNEST(b.xs) AS u ON a.id = b.id` -/
def Sql.TableWithJoins.joiningRows : List TableWithJoins :=
  [⟨.named "a", []⟩,
    ⟨.named "b", [⟨false, .join, .on (.equating "a" "b" "id"), .unnesting "b"⟩]⟩]

/-- `a JOIN (UNNEST(a.xs) AS u JOIN b ON a.part = b.part) ON a.id = b.id` -/
def Sql.TableWithJoins.joiningGroup : List TableWithJoins :=
  let group : TableWithJoins :=
    ⟨.unnesting "a", [⟨false, .join, .on (.equating "a" "b" "part"), .named "b"⟩]⟩
  [⟨.named "a", [⟨false, .join, .on (.equating "a" "b" "id"), .nested group none⟩]⟩]

theorem exists_condition_dropped :
    ¬ ((FromItem.ofList TableWithJoins.joiningRows).filterMap FromItem.condition).Perm
        ((TableWithJoins.joiningRows.flatMap TableWithJoins.allJoins).filterMap
          Join.condition?) ∧
      ¬ ((FromItem.ofList TableWithJoins.joiningGroup).filterMap FromItem.condition).Perm
        ((TableWithJoins.joiningGroup.flatMap TableWithJoins.allJoins).filterMap
          Join.condition?) := by
  decide

end SqlLineage
