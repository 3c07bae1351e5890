import SqlLineage.Proofs.Lowering.Factors

/-!
# Places in parsed queries

The query blocks of a query, each with the way that leads to it from outside.  What belongs to a
place, such as the common tables in view there, is worked out along the way, one step after the
other.  So the syntax of queries is walked through only here, and a property of all places is
proved along a list of steps.
-/

namespace SqlLineage

open Sql

/-! ## Ways -/

/-- A step on the way to a query block. -/
inductive Sql.Step where
  /-- Into the common tables of a WITH clause, which have those names. -/
  | clause (recursive : Bool) (names : List String)
  /-- Past a common table. -/
  | pastCte (name : String)
  /-- Into the body of a query with common tables of those names. -/
  | body (names : List String)
  /-- Into the left operand of a set operation, over the first block of which stand common tables of
  those names. -/
  | left (opening : List String)
  /-- Into the right operand of a set operation with such a left one. -/
  | right (opening : List String)
  /-- Into a query among the factors of a block, behind those. -/
  | behind (factors : List TableFactor)
  /-- Into a part that the reduction drops. -/
  | dropped

/-- The common tables in view behind a step.  Under RECURSIVE those of a WITH clause are in view in
all of it. -/
def Sql.Step.view (visible : List String) : Step → List String
  | .clause recursive names => if recursive then names ++ visible else visible
  | .pastCte name => name :: visible
  | .body names => names ++ visible
  | _ => visible

def Sql.Step.isClause : Step → Bool
  | .clause _ _ => true
  | _ => false

def Sql.Step.isDropped : Step → Bool
  | .dropped => true
  | _ => false

/-- A query block, or tables that are changed, and the way there. -/
structure Sql.Place where
  path : List Step := []
  block : Sql.Select := {}
  changed : List String := []

namespace Sql.Place

/-- A block where it stands. -/
def of (block : Sql.Select) : Place :=
  { block := block }

/-- The same place, seen from a step further out. -/
def below (step : Step) (place : Place) : Place :=
  { place with path := step :: place.path }

/-- The common tables in view. -/
def visible (place : Place) : List String :=
  place.path.foldl Step.view []

/-- The place is in a common table. -/
def inCte (place : Place) : Bool :=
  place.path.any Step.isClause

/-- The reduction comes to the place. -/
def kept (place : Place) : Bool :=
  !place.path.any Step.isDropped

@[simp]
theorem kept_below (step : Step) (place : Place) :
    (place.below step).kept = (!step.isDropped && place.kept) := by
  simp [kept, below]

theorem kept_of_mem_dropped {places : List Place} {place : Place}
    (hplace : place ∈ places.map (below .dropped)) : place.kept = false := by
  obtain ⟨inner, -, rfl⟩ := List.mem_map.1 hplace
  simp [Step.isDropped]

/-- The reduction comes past the places on the way to one that it comes to. -/
theorem kept_of_earlier {outer inner : Place} (hearlier : outer.path <+: inner.path)
    (hkept : inner.kept) : outer.kept := by
  simp only [kept, Bool.not_eq_true', List.any_eq_false] at hkept ⊢
  exact fun step hstep => hkept step (hearlier.subset hstep)

end Sql.Place

/-! ## The places of a query -/

/-- The names of common tables. -/
def Sql.Cte.names (ctes : List Cte) : List String :=
  ctes.map (fun cte => cte.aliasName.plain)

/-- The common tables that stand over the first block of a body: those of the queries it is in. -/
def Sql.SetExpr.opening : SetExpr → List String
  | .query ⟨_, ctes, body, _⟩ => Cte.names ctes ++ body.opening
  | .operation _ left _ => left.opening
  | _ => []

/-- `SELECT FROM relation` -/
def Sql.Select.over (relation : TableFactor) : Sql.Select :=
  { sources := [⟨relation, []⟩] }

def Sql.InsertTarget.tables : InsertTarget → List String
  | .table name => [name.plain]
  | .function _ => []

/-- The tables that are changed among relations: those that are named for it, or else the first. -/
def FromItem.changed (targets : List ObjectName) (relations : List FromItem) : List String :=
  match targets with
  | [] => ((FromItem.takeTarget? relations).map (fun found => found.1.name)).toList
  | _ => targets.map (fun target => (FromItem.targetOf target.plain relations).name)

mutual

/-- The places of a query: those of its common tables, then those of its body. -/
def Sql.Query.places : Query → List Place
  | ⟨recursive, ctes, body, _⟩ =>
    (Cte.places ctes).map (Place.below (.clause recursive (Cte.names ctes)))
      ++ (SetExpr.places body).map (Place.below (.body (Cte.names ctes)))

def Sql.Cte.places : List Cte → List Place
  | [] => []
  | ⟨aliasName, _, query, _⟩ :: rest =>
    Query.places query ++ (Cte.places rest).map (Place.below (.pastCte aliasName.plain))

/-- The places of a body.  One that is no block counts as an empty one. -/
def Sql.SetExpr.places : SetExpr → List Place
  | .select block => Select.places block
  | .query query => Query.places query
  | .operation _ left right =>
    (SetExpr.places left).map (Place.below (.left left.opening))
      ++ (SetExpr.places right).map (Place.below (.right left.opening))
  | .insert change => Insert.places change
  | .update change => Update.places change
  | .delete change => Delete.places change
  | _ => [{}]

/-- The places in the relations of a block, then its own. -/
def Sql.Select.places : Sql.Select → List Place
  | ⟨layout, opening, projection, into, sources, views, selection, tail⟩ =>
    TableWithJoins.places [] sources
      ++ [Place.of ⟨layout, opening, projection, into, sources, views, selection, tail⟩]

/-- The places in relations behind other factors of the same block. -/
def Sql.TableWithJoins.places (before : List TableFactor) : List TableWithJoins → List Place
  | [] => []
  | source :: rest =>
    TableWithJoins.ownPlaces before source
      ++ TableWithJoins.places (before ++ TableWithJoins.factors source) rest

/-- The places in a relation and those joined to it. -/
def Sql.TableWithJoins.ownPlaces (before : List TableFactor) : TableWithJoins → List Place
  | ⟨relation, joins⟩ =>
    TableFactor.places before relation
      ++ Join.places (before ++ TableFactor.factors relation) joins

def Sql.Join.places (before : List TableFactor) : List Join → List Place
  | [] => []
  | ⟨_, _, _, relation⟩ :: rest =>
    TableFactor.places before relation
      ++ Join.places (before ++ TableFactor.factors relation) rest

/-- The places in a factor.  A relation that is reshaped counts as a block by itself. -/
def Sql.TableFactor.places (before : List TableFactor) : TableFactor → List Place
  | .table _ _ _ _ => []
  | .derived _ query _ => (Query.places query).map (Place.below (.behind before))
  | .nested tables _ => TableWithJoins.ownPlaces before tables
  | .rows _ _ => []
  | .reshaped relation _ _ =>
    (TableFactor.places before relation ++ [Place.of (.over relation)]).map (Place.below .dropped)

/-- The places of an INSERT inside a query: its target, and what it writes. -/
def Sql.Insert.places : Sql.Insert → List Place
  | ⟨_, target, _, _, source, _⟩ =>
    [{ changed := target.tables }]
      ++ match source with
        | some rows => (Query.places rows).map (Place.below .dropped)
        | none => []

def Sql.Update.places : Sql.Update → List Place
  | ⟨_, table, beforeSet, _, afterSet, _, _⟩ =>
    [{ changed := FromItem.changed [] (FromItem.ofTable table) }]
      ++ (TableWithJoins.ownPlaces [] table ++ TableWithJoins.places [] beforeSet
        ++ TableWithJoins.places [] afterSet).map (Place.below .dropped)

def Sql.Delete.places : Sql.Delete → List Place
  | ⟨targets, _, sources, using_, _, _⟩ =>
    [{ changed := FromItem.changed targets (FromItem.ofList sources ++ FromItem.ofList using_) }]
      ++ (TableWithJoins.places [] sources ++ TableWithJoins.places [] using_).map
        (Place.below .dropped)

end

/-! ## The blocks that factors are passed in -/

namespace Sql.Place

/-- Those factors stand in the block of a place where a way can start. -/
def Passable (all : List Place) (factors : List TableFactor) : Prop :=
  ∃ owner ∈ all, owner.path = [] ∧ factors ⊆ owner.block.factors

/-- The factors that are passed on the way to one of the places stand in a block of the others, at
the step where they are passed. -/
def Owned (places all : List Place) : Prop :=
  ∀ place ∈ places, place.kept → ∀ front factors back,
    place.path = front ++ .behind factors :: back →
      ∃ owner ∈ all, owner.path = front ∧ factors ⊆ owner.block.factors

variable {places all more : List Place}

theorem Passable.mono {factors fewer : List TableFactor} (hpassable : Passable all factors)
    (hsubset : fewer ⊆ factors) : Passable all fewer := by
  obtain ⟨owner, howner, hpath, hfactors⟩ := hpassable
  exact ⟨owner, howner, hpath, List.Subset.trans hsubset hfactors⟩

theorem Owned.mono (howned : Owned places all) (hsubset : all ⊆ more) : Owned places more := by
  intro place hplace hkept front factors back hpath
  obtain ⟨owner, howner, hrest⟩ := howned place hplace hkept front factors back hpath
  exact ⟨owner, hsubset howner, hrest⟩

theorem Owned.append {others : List Place} (hplaces : Owned places all)
    (hothers : Owned others all) : Owned (places ++ others) all :=
  List.forall_mem_append.2 ⟨hplaces, hothers⟩

theorem owned_nil (all : List Place) : Owned [] all :=
  fun _ hplace => absurd hplace List.not_mem_nil

/-- On the empty way nothing is passed. -/
theorem owned_singleton {place : Place} (hpath : place.path = []) (all : List Place) :
    Owned [place] all := by
  intro other hother _ front factors back hsplit
  rw [List.mem_singleton.1 hother, hpath] at hsplit
  exact absurd hsplit (by simp)

theorem owned_dropped (places all : List Place) : Owned (places.map (below .dropped)) all := by
  intro place hplace hkept
  rw [kept_of_mem_dropped hplace] at hkept
  cases hkept

/-- Seen from further out, factors are passed in the same blocks; those of the first step have to be
passable there. -/
theorem Owned.below {step : Step} (howned : Owned places all)
    (hstep : ∀ factors, step = .behind factors → Passable more factors)
    (hsubset : all.map (Place.below step) ⊆ more) :
    Owned (places.map (Place.below step)) more := by
  intro place hplace hkept front factors back hpath
  obtain ⟨inner, hinner, rfl⟩ := List.mem_map.1 hplace
  rw [kept_below, Bool.and_eq_true] at hkept
  cases front with
  | nil => exact hstep factors (List.head_eq_of_cons_eq hpath)
  | cons first front =>
    obtain ⟨rfl, hinside⟩ := List.cons_eq_cons.1 hpath
    obtain ⟨owner, howner, hfront, hfactors⟩ :=
      howned inner hinner hkept.2 front factors back hinside
    exact ⟨owner.below step, hsubset (List.mem_map_of_mem howner),
      congrArg (step :: ·) hfront, hfactors⟩

end Sql.Place

mutual

theorem owned_query (query : Query) : Place.Owned query.places query.places := by
  match query with
  | ⟨recursive, ctes, body, _⟩ =>
    rw [Query.places]
    exact ((owned_ctes ctes).below (by nofun) (List.subset_append_left _ _)).append
      ((owned_body body).below (by nofun) (List.subset_append_right _ _))

theorem owned_ctes (ctes : List Cte) : Place.Owned (Cte.places ctes) (Cte.places ctes) := by
  match ctes with
  | [] => exact Place.owned_nil _
  | ⟨_, _, query, _⟩ :: rest =>
    rw [Cte.places]
    exact ((owned_query query).mono (List.subset_append_left _ _)).append
      ((owned_ctes rest).below (by nofun) (List.subset_append_right _ _))

theorem owned_body (body : SetExpr) : Place.Owned body.places body.places := by
  match body with
  | .select ⟨layout, opening, projection, into, sources, views, selection, tail⟩ =>
    let block : Sql.Select := ⟨layout, opening, projection, into, sources, views, selection, tail⟩
    rw [SetExpr.places, Select.places]
    have hpassable : Place.Passable (TableWithJoins.places [] sources ++ [Place.of block])
        ([] ++ sources.flatMap TableWithJoins.factors) :=
      ⟨Place.of block, by simp, rfl, List.Subset.refl _⟩
    exact (owned_sources hpassable (List.subset_append_left _ _)).append
      (Place.owned_singleton rfl _)
  | .query query => exact owned_query query
  | .operation _ left right =>
    rw [SetExpr.places]
    exact ((owned_body left).below (by nofun) (List.subset_append_left _ _)).append
      ((owned_body right).below (by nofun) (List.subset_append_right _ _))
  | .insert ⟨_, _, _, _, some rows, _⟩ =>
    exact (Place.owned_singleton rfl _).append (Place.owned_dropped _ _)
  | .insert ⟨_, _, _, _, none, _⟩ => exact Place.owned_singleton rfl _
  | .update ⟨_, _, _, _, _, _, _⟩ =>
    exact (Place.owned_singleton rfl _).append (Place.owned_dropped _ _)
  | .delete ⟨_, _, _, _, _, _⟩ =>
    exact (Place.owned_singleton rfl _).append (Place.owned_dropped _ _)
  | .values _ | .table _ | .merge _ | .directory _ => exact Place.owned_singleton rfl _

theorem owned_sources {all : List Place} {before : List TableFactor}
    {sources : List TableWithJoins}
    (hpassable : Place.Passable all (before ++ sources.flatMap TableWithJoins.factors))
    (hall : TableWithJoins.places before sources ⊆ all) :
    Place.Owned (TableWithJoins.places before sources) all := by
  match sources with
  | [] => exact Place.owned_nil _
  | source :: rest =>
    rw [TableWithJoins.places, List.append_subset] at hall
    rw [List.flatMap_cons, ← List.append_assoc] at hpassable
    rw [TableWithJoins.places]
    exact (owned_table (hpassable.mono (List.subset_append_left _ _)) hall.1).append
      (owned_sources hpassable hall.2)

theorem owned_table {all : List Place} {before : List TableFactor} {source : TableWithJoins}
    (hpassable : Place.Passable all (before ++ source.factors))
    (hall : TableWithJoins.ownPlaces before source ⊆ all) :
    Place.Owned (TableWithJoins.ownPlaces before source) all := by
  match source with
  | ⟨relation, joins⟩ =>
    rw [TableWithJoins.ownPlaces, List.append_subset] at hall
    rw [TableWithJoins.factors, ← List.append_assoc] at hpassable
    rw [TableWithJoins.ownPlaces]
    exact (owned_factor (hpassable.mono (List.subset_append_left _ _)) hall.1).append
      (owned_joins hpassable hall.2)

theorem owned_joins {all : List Place} {before : List TableFactor} {joins : List Join}
    (hpassable : Place.Passable all (before ++ Join.factors joins))
    (hall : Join.places before joins ⊆ all) : Place.Owned (Join.places before joins) all := by
  match joins with
  | [] => exact Place.owned_nil _
  | ⟨_, _, _, relation⟩ :: rest =>
    rw [Join.places, List.append_subset] at hall
    rw [Join.factors, ← List.append_assoc] at hpassable
    rw [Join.places]
    exact (owned_factor (hpassable.mono (List.subset_append_left _ _)) hall.1).append
      (owned_joins hpassable hall.2)

theorem owned_factor {all : List Place} {before : List TableFactor} {factor : TableFactor}
    (hpassable : Place.Passable all (before ++ factor.factors))
    (hall : TableFactor.places before factor ⊆ all) :
    Place.Owned (TableFactor.places before factor) all := by
  match factor with
  | .derived _ query _ =>
    refine (owned_query query).below ?_ hall
    rintro factors ⟨⟩
    exact hpassable.mono (List.subset_append_left _ _)
  | .nested tables _ =>
    have hinside : Place.Passable all (before ++ tables.factors) :=
      hpassable.mono (by simp [TableFactor.factors])
    exact owned_table hinside hall
  | .reshaped _ _ _ => exact Place.owned_dropped _ _
  | .table _ _ _ _ | .rows _ _ => exact Place.owned_nil _

end

end SqlLineage
