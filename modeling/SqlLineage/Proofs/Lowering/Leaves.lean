import Mathlib.Data.List.Forall2
import SqlLineage.Analysis
import SqlLineage.Statement.OfSyntax

/-!
# The leaves of joins

A FROM list is a row of trees: a relation with the ones joined to it, where each may be a group in
parentheses.  Its leaves are the tables and the queries; rows that come from no table, and rows that are reshaped,
are none.
Reducing a list keeps its leaves in order, each with its own source and alias.  A leaf counts as
joined unless it stands first at every level of its tree, and one that carries a condition always
does.  So the analysis, which looks at the conditions of joined relations only, passes over none.
-/

namespace SqlLineage

open Sql

/-! ## Leaves -/

/-- A table or a query where it stands in a tree of joins: its place among the relations of each
level, from the outermost group inwards.  The first relation of a level has the place 0. -/
structure Sql.Leaf where
  places : List Nat
  source : TableSource
  aliasName : Option String

/-- A leaf of a relation that has that place among others. -/
def Sql.Leaf.inside (place : Nat) (leaf : Leaf) : Leaf :=
  { leaf with places := place :: leaf.places }

/-- A leaf stands first at every level. -/
def Sql.Leaf.Leads (leaf : Leaf) : Prop :=
  ∀ place ∈ leaf.places, place = 0

theorem Sql.Leaf.leads_inside {place : Nat} {leaf : Leaf} :
    (leaf.inside place).Leads ↔ place = 0 ∧ leaf.Leads :=
  List.forall_mem_cons

mutual

/-- The leaves of a relation and of those joined to it. -/
def Sql.TableWithJoins.leaves : TableWithJoins → List Leaf
  | ⟨relation, joins⟩ => (TableFactor.leaves relation).map (Leaf.inside 0) ++ Join.leaves 1 joins

/-- The leaves of joined relations, the first of which has that place. -/
def Sql.Join.leaves (place : Nat) : List Join → List Leaf
  | [] => []
  | ⟨_, _, _, relation⟩ :: rest =>
    (TableFactor.leaves relation).map (Leaf.inside place) ++ Join.leaves (place + 1) rest

/-- The leaves of a factor, as it stands by itself. -/
def Sql.TableFactor.leaves : TableFactor → List Leaf
  | .table name _ aliasName _ => [⟨[], .table name.plain, aliasName.map TableAlias.plain⟩]
  | .derived _ query aliasName =>
    [⟨[], .subquery (Select.ofQuery query), aliasName.map TableAlias.plain⟩]
  | .nested tables _ => TableWithJoins.leaves tables
  | .rows _ _ => []
  | .reshaped _ _ _ => []

end

/-- A relation of a reduced list is the one that a leaf is reduced to. -/
structure FromItem.StandsFor (item : FromItem) (leaf : Leaf) : Prop where
  source_eq : item.source = leaf.source
  aliasName_eq : item.aliasName = leaf.aliasName
  join_eq_false_iff : item.join = false ↔ leaf.Leads
  joined_of_condition : ∀ condition, item.condition = some condition → item.join = true

/-! ## Groups of relations -/

namespace FromItem

@[simp]
theorem regroup_false_none (items : List FromItem) : regroup false none items = items := by
  match items with
  | [] => rfl
  | ⟨source, aliasName, join, condition⟩ :: rest => simp [regroup]

/-- How a factor is joined is told by the first of its relations alone. -/
theorem ofFactor_eq_regroup (join : Bool) (condition : Option Expression)
    (factor : TableFactor) :
    ofFactor join condition factor = regroup join condition (ofFactor false none factor) := by
  cases factor with
  | table name arguments aliasName options => simp [ofFactor, regroup]
  | derived lateral query aliasName => simp [ofFactor, regroup]
  | nested tables aliasName => rw [ofFactor, ofFactor, regroup_false_none]
  | rows text aliasName => rfl
  | reshaped relation text aliasName => rfl

theorem forall_mem_tail_append {property : FromItem → Prop} {first second : List FromItem}
    (hfirst : ∀ item ∈ first.tail, property item) (hsecond : ∀ item ∈ second, property item) :
    ∀ item ∈ (first ++ second).tail, property item := by
  cases first with
  | nil => exact fun item hitem => hsecond item (List.mem_of_mem_tail hitem)
  | cons item rest => exact List.forall_mem_append.mpr ⟨hfirst, hsecond⟩

theorem joined_of_mem_regroup {condition : Option Expression} {items : List FromItem}
    (htail : ∀ item ∈ items.tail, item.join = true) :
    ∀ item ∈ regroup true condition items, item.join = true := by
  cases items with
  | nil => exact nofun
  | cons first rest => exact List.forall_mem_cons.mpr ⟨Bool.or_true _, htail⟩

end FromItem

mutual

/-- Behind the first relation of a tree, all are joined. -/
theorem joined_of_mem_tail_ofTable (source : TableWithJoins) :
    ∀ item ∈ (FromItem.ofTable source).tail, item.join = true := by
  match source with
  | ⟨relation, joins⟩ =>
    rw [FromItem.ofTable]
    exact FromItem.forall_mem_tail_append (joined_of_mem_tail_ofFactor relation)
      (joined_of_mem_ofJoins joins)

theorem joined_of_mem_ofJoins (joins : List Join) :
    ∀ item ∈ FromItem.ofJoins joins, item.join = true := by
  match joins with
  | [] => exact nofun
  | ⟨_, kind, constraint, relation⟩ :: rest =>
    rw [FromItem.ofJoins, FromItem.ofFactor_eq_regroup, List.forall_mem_append]
    exact ⟨FromItem.joined_of_mem_regroup (joined_of_mem_tail_ofFactor relation),
      joined_of_mem_ofJoins rest⟩

theorem joined_of_mem_tail_ofFactor (factor : TableFactor) :
    ∀ item ∈ (FromItem.ofFactor false none factor).tail, item.join = true := by
  match factor with
  | .table _ _ _ _ | .derived _ _ _ | .rows _ _ | .reshaped _ _ _ => exact nofun
  | .nested tables _ =>
    rw [FromItem.ofFactor, FromItem.regroup_false_none]
    exact joined_of_mem_tail_ofTable tables

end

/-! ## Relations stand for leaves -/

namespace FromItem.StandsFor

/-- The first relation of a level leads if it leads by itself. -/
theorem inside_zero {item : FromItem} {leaf : Leaf} (hstands : item.StandsFor leaf) :
    item.StandsFor (leaf.inside 0) where
  source_eq := hstands.source_eq
  aliasName_eq := hstands.aliasName_eq
  join_eq_false_iff := by
    rw [hstands.join_eq_false_iff, Leaf.leads_inside, eq_self_iff_true, true_and]
  joined_of_condition := hstands.joined_of_condition

/-- A joined relation does not lead. -/
theorem inside {item : FromItem} {leaf : Leaf} {place : Nat}
    (hsource : item.source = leaf.source) (halias : item.aliasName = leaf.aliasName)
    (hjoin : item.join = true) (hplace : place ≠ 0) : item.StandsFor (leaf.inside place) where
  source_eq := hsource
  aliasName_eq := halias
  join_eq_false_iff := by simp [hjoin, Leaf.leads_inside, hplace]
  joined_of_condition := fun _ _ => hjoin

end FromItem.StandsFor

theorem forall₂_inside_zero {items : List FromItem} {leaves : List Leaf}
    (hstand : List.Forall₂ FromItem.StandsFor items leaves) :
    List.Forall₂ FromItem.StandsFor items (leaves.map (Leaf.inside 0)) := by
  rw [List.forall₂_map_right_iff]
  exact hstand.imp fun _ _ => FromItem.StandsFor.inside_zero

/-- A group that is joined to other relations stands for its leaves at its place. -/
theorem forall₂_regroup {condition : Option Expression} {items : List FromItem}
    {leaves : List Leaf} {place : Nat} (hplace : place ≠ 0)
    (htail : ∀ item ∈ items.tail, item.join = true)
    (hstand : List.Forall₂ FromItem.StandsFor items leaves) :
    List.Forall₂ FromItem.StandsFor (FromItem.regroup true condition items)
      (leaves.map (Leaf.inside place)) := by
  cases hstand with
  | nil => exact .nil
  | cons hfirst hrest =>
    refine .cons (.inside hfirst.source_eq hfirst.aliasName_eq (Bool.or_true _) hplace) ?_
    rw [List.forall₂_map_right_iff]
    apply ((List.forall₂_and_left _ _).mpr ⟨htail, hrest⟩).imp
    rintro item leaf ⟨hjoin, hstands⟩
    exact .inside hstands.source_eq hstands.aliasName_eq hjoin hplace

mutual

theorem standsFor_ofTable (source : TableWithJoins) :
    List.Forall₂ FromItem.StandsFor (FromItem.ofTable source) (TableWithJoins.leaves source) := by
  match source with
  | ⟨relation, joins⟩ =>
    rw [FromItem.ofTable, TableWithJoins.leaves]
    exact List.rel_append (forall₂_inside_zero (standsFor_ofFactor relation))
      (standsFor_ofJoins Nat.one_ne_zero joins)

theorem standsFor_ofJoins {place : Nat} (hplace : place ≠ 0) (joins : List Join) :
    List.Forall₂ FromItem.StandsFor (FromItem.ofJoins joins) (Join.leaves place joins) := by
  match joins with
  | [] => exact .nil
  | ⟨_, kind, constraint, relation⟩ :: rest =>
    rw [FromItem.ofJoins, FromItem.ofFactor_eq_regroup, Join.leaves]
    exact List.rel_append
      (forall₂_regroup hplace (joined_of_mem_tail_ofFactor relation) (standsFor_ofFactor relation))
      (standsFor_ofJoins (Nat.succ_ne_zero place) rest)

theorem standsFor_ofFactor (factor : TableFactor) :
    List.Forall₂ FromItem.StandsFor (FromItem.ofFactor false none factor)
      (TableFactor.leaves factor) := by
  match factor with
  | .table _ _ _ _ => exact .cons ⟨rfl, rfl, by simp [Leaf.Leads], nofun⟩ .nil
  | .derived _ _ _ => exact .cons ⟨rfl, rfl, by simp [Leaf.Leads], nofun⟩ .nil
  | .nested tables _ =>
    rw [FromItem.ofFactor, FromItem.regroup_false_none]
    exact standsFor_ofTable tables
  | .rows _ _ | .reshaped _ _ _ => exact .nil

end

theorem standsFor_ofList (sources : List TableWithJoins) :
    List.Forall₂ FromItem.StandsFor (FromItem.ofList sources)
      (sources.flatMap TableWithJoins.leaves) := by
  induction sources with
  | nil => exact .nil
  | cons source rest ih =>
    rw [FromItem.ofList, List.flatMap_cons]
    exact List.rel_append (standsFor_ofTable source) ih

/-! ## No condition is passed over -/

/-- Where relations with a condition are joined, the analysis reads every condition. -/
theorem inferFromJoins_of_joined {items : List FromItem}
    (hjoined : ∀ item ∈ items, ∀ condition, item.condition = some condition → item.join = true)
    (recurse : Bool) (scope : Scope) (registry : Registry) :
    inferFromJoins recurse scope items registry =
      (items.filterMap FromItem.condition).foldl
        (fun registry condition => inferFromCondition recurse scope condition registry)
        registry := by
  rw [inferFromJoins]
  induction items generalizing registry with
  | nil => rfl
  | cons item rest ih =>
    rw [List.forall_mem_cons] at hjoined
    rw [List.foldl_cons, ih hjoined.2]
    cases hcondition : item.condition with
    | none => simp [inferFromSelection, hcondition]
    | some condition => simp [inferFromSelection, hcondition, hjoined.1 condition hcondition]

/-- A reduced FROM list has its leaves in order, each once and under its own name and alias.  A leaf
is joined unless it stands first at every level, a condition stands on joined leaves only, and the
analysis reads every condition of the list. -/
theorem ofList_leaves (sources : List TableWithJoins) :
    List.Forall₂ FromItem.StandsFor (FromItem.ofList sources)
        (sources.flatMap TableWithJoins.leaves) ∧
      ∀ recurse scope registry,
        inferFromJoins recurse scope (FromItem.ofList sources) registry =
          ((FromItem.ofList sources).filterMap FromItem.condition).foldl
            (fun registry condition => inferFromCondition recurse scope condition registry)
            registry := by
  have hstand := standsFor_ofList sources
  have hboth := hstand.imp fun item leaf hstands => And.intro hstands.joined_of_condition hstands
  exact ⟨hstand, inferFromJoins_of_joined ((List.forall₂_and_left _ _).mp hboth).1⟩

end SqlLineage
