import SqlLineage.Proofs.Analysis.Bindings
import SqlLineage.Proofs.Analysis.Recording

/-!
# Tables of a block and names from around it

A block starts from what the blocks around it have bound.  A table without an alias and without a
dot binds nothing, for an unbound qualifier is taken as a table's name.  So its columns are its own
exactly if no relation around the block has bound its name to something else: an alias of that name
in an outer FROM list, in front of the derived table that the block is in, captures them.
-/

namespace SqlLineage

open Registry

/-! ## Blocks with the scope around them -/

/-- A block, with the scope that it starts from: what the blocks around it bind, and the common
tables in view. -/
structure Frame where
  outer : Scope
  sources : List FromItem
  columns : List Expression
  selection : Option Expression

/-- The block behind its relations. -/
def Frame.block (frame : Frame) : Block :=
  Block.of frame.outer frame.sources frame.columns frame.selection

mutual

/-- The blocks of a query under a scope. -/
def Select.frames (scope : Scope) : Select → List Frame
  | ⟨ctes, sources, columns, selection, union⟩ =>
    let outer := scope.addCtes (ctes.map CommonTable.name)
    CommonTable.frames scope ctes
      ++ (FromItem.frames outer sources ++ [⟨outer, sources, columns, selection⟩])
      ++ Select.branchFrames outer union

def CommonTable.frames (scope : Scope) : List CommonTable → List Frame
  | [] => []
  | ⟨name, query⟩ :: rest => query.frames scope ++ CommonTable.frames (scope.addCte name) rest

def FromItem.frames (scope : Scope) : List FromItem → List Frame
  | [] => []
  | item :: rest => item.ownFrames scope ++ FromItem.frames (scope.bindItem item) rest

def FromItem.ownFrames (scope : Scope) : FromItem → List Frame
  | ⟨.table _, _, _, _⟩ => []
  | ⟨.subquery query, _, _, _⟩ => query.frames scope

def Select.branchFrames (scope : Scope) : List Select → List Frame
  | [] => []
  | branch :: rest => branch.frames scope ++ Select.branchFrames scope rest

end

mutual

/-- A query records the events of each of its blocks. -/
theorem events_of_mem_frames (recurse : Bool) {scope : Scope} {query : Select} {frame : Frame}
    (hframe : frame ∈ query.frames scope) :
    frame.block.events recurse ⊆ query.events recurse scope := by
  match query with
  | ⟨ctes, sources, columns, selection, union⟩ =>
    rw [Select.frames] at hframe
    rw [Select.events]
    simp only [List.mem_append, List.mem_singleton] at hframe
    intro event hevent
    simp only [List.mem_append]
    obtain (hctes | hsources | rfl) | hunion := hframe
    · exact .inl (.inl (events_of_mem_cteFrames recurse hctes hevent))
    · exact .inl (.inr (.inl (events_of_mem_itemFrames recurse hsources hevent)))
    · exact .inl (.inr (.inr hevent))
    · exact .inr (events_of_mem_branchFrames recurse hunion hevent)

theorem events_of_mem_cteFrames (recurse : Bool) {scope : Scope} {ctes : List CommonTable}
    {frame : Frame} (hframe : frame ∈ CommonTable.frames scope ctes) :
    frame.block.events recurse ⊆ CommonTable.events recurse scope ctes := by
  match ctes with
  | [] => cases hframe
  | ⟨name, query⟩ :: rest =>
    rw [CommonTable.frames, List.mem_append] at hframe
    rw [CommonTable.events]
    obtain hquery | hrest := hframe
    · exact List.subset_append_of_subset_left _ (events_of_mem_frames recurse hquery)
    · exact List.subset_append_of_subset_right _ (events_of_mem_cteFrames recurse hrest)

theorem events_of_mem_itemFrames (recurse : Bool) {scope : Scope} {sources : List FromItem}
    {frame : Frame} (hframe : frame ∈ FromItem.frames scope sources) :
    frame.block.events recurse ⊆ FromItem.events recurse scope sources := by
  match sources with
  | [] => cases hframe
  | item :: rest =>
    rw [FromItem.frames, List.mem_append] at hframe
    rw [FromItem.events]
    obtain hitem | hrest := hframe
    · exact List.subset_append_of_subset_left _ (events_of_mem_ownFrames recurse hitem)
    · exact List.subset_append_of_subset_right _ (events_of_mem_itemFrames recurse hrest)

theorem events_of_mem_ownFrames (recurse : Bool) {scope : Scope} {item : FromItem}
    {frame : Frame} (hframe : frame ∈ item.ownFrames scope) :
    frame.block.events recurse ⊆ FromItem.ownEvents recurse scope item := by
  match item with
  | ⟨.table name, _, _, _⟩ => cases hframe
  | ⟨.subquery query, _, _, _⟩ =>
    rw [FromItem.ownFrames] at hframe
    rw [FromItem.ownEvents]
    exact events_of_mem_frames recurse hframe

theorem events_of_mem_branchFrames (recurse : Bool) {scope : Scope} {branches : List Select}
    {frame : Frame} (hframe : frame ∈ Select.branchFrames scope branches) :
    frame.block.events recurse ⊆ Select.branchEvents recurse scope branches := by
  match branches with
  | [] => cases hframe
  | branch :: rest =>
    rw [Select.branchFrames, List.mem_append] at hframe
    rw [Select.branchEvents]
    obtain hbranch | hrest := hframe
    · exact List.subset_append_of_subset_left _ (events_of_mem_frames recurse hbranch)
    · exact List.subset_append_of_subset_right _ (events_of_mem_branchFrames recurse hrest)

end

/-! ## Columns that a block looks at -/

theorem mem_columnEvents_of_mem_operand {scope : Scope} (role : ColumnRole)
    {expression : Expression} {column : Option String × String}
    (hcolumn : column ∈ expression.operand) :
    Event.column (scope.resolve column.1) column.2 role ∈ expression.columnEvents scope role := by
  cases expression with
  | column qualifier name =>
    rw [List.mem_singleton.mp hcolumn]
    exact List.mem_singleton.mpr rfl
  | binary _ _ _ | other => cases hcolumn

theorem mem_events_of_mem_operands {recurse : Bool} {scope : Scope} {condition : Expression}
    {column : Option String × String} (hcolumn : column ∈ condition.operands recurse) :
    Event.column (scope.resolve column.1) column.2 .condition ∈
      condition.events recurse scope := by
  induction condition with
  | column qualifier name => cases hcolumn
  | other => cases hcolumn
  | binary operator left right ihleft ihright =>
    rw [Expression.operands] at hcolumn
    rw [Expression.events]
    split at hcolumn
    · rename_i hlogical
      rw [if_pos hlogical]
      split at hcolumn
      · rename_i hrecurse
        rw [if_pos hrecurse]
        exact List.mem_append.mpr ((List.mem_append.mp hcolumn).imp ihleft ihright)
      · cases hcolumn
    · rename_i hcomparison
      rw [if_neg hcomparison, Expression.comparisonEvents]
      apply List.mem_append_left
      exact List.mem_append.mpr ((List.mem_append.mp hcolumn).imp
        (mem_columnEvents_of_mem_operand .condition) (mem_columnEvents_of_mem_operand .condition))

/-- Every column that a block looks at is recorded with the owner of its qualifier. -/
theorem exists_event_of_mem_inspected {recurse : Bool} {block : Block}
    {column : Option String × String} (hcolumn : column ∈ block.inspected recurse) :
    ∃ role, Event.column (block.scope.resolve column.1) column.2 role ∈ block.events recurse := by
  rw [Block.inspected, List.mem_append, List.mem_append] at hcolumn
  simp only [Block.events, List.mem_append, List.mem_flatMap] at hcolumn ⊢
  obtain (⟨expression, hmem, hoperand⟩ | ⟨condition, hmem, hoperand⟩) |
    ⟨condition, hmem, hoperand⟩ := hcolumn
  · exact ⟨.selected, .inl (.inl ⟨expression, hmem, mem_columnEvents_of_mem_operand _ hoperand⟩)⟩
  · exact ⟨.condition, .inl (.inr ⟨condition, hmem, mem_events_of_mem_operands hoperand⟩)⟩
  · exact ⟨.condition, .inr ⟨condition, hmem, mem_events_of_mem_operands hoperand⟩⟩

/-- The analysis registers every column that a block of a query looks at, under its owner. -/
theorem mem_columnNames_of_mem_inspected {recurse : Bool} {query : Select} {scope : Scope}
    {frame : Frame} (hframe : frame ∈ query.frames scope) {column : Option String × String}
    (hcolumn : column ∈ frame.block.inspected recurse)
    (hknown : frame.block.scope.resolve column.1 ≠ unknownTable) (registry : Registry) :
    (frame.block.scope.resolve column.1, column.2) ∈
      (analyzeSelect recurse query scope registry).1.columnNames := by
  obtain ⟨role, hevent⟩ := exists_event_of_mem_inspected hcolumn
  rw [analyzeSelect_eq .statementSources, mem_columnNames_recordAll]
  refine .inl (List.mem_flatMap_of_mem (events_of_mem_frames recurse hframe hevent) ?_)
  rw [Event.columns, if_neg hknown]
  exact List.mem_singleton.mpr rfl

/-! ## Tables of a block -/

/-- A FROM list names a table without an alias and without a dot, which is no common table in view,
and nothing else in the list claims its name as a qualifier. -/
structure Frame.HasOwn (frame : Frame) (name : String) : Prop where
  undotted : '.' ∉ name.toList
  not_cte : name ∉ frame.outer.ctes
  listed : ∃ item ∈ frame.sources, item.source = .table name ∧ item.aliasName = none
  unaliased : ∀ item ∈ frame.sources, item.aliasName ≠ some name
  unsegmented : ∀ item ∈ frame.sources, ∀ table, item.source = .table table →
    item.aliasName = none → lastSegment? table ≠ some name

namespace Frame.HasOwn

variable {frame : Frame} {name : String}

/-- No relation of the list binds the name of an own table. -/
theorem binding?_ne (hown : frame.HasOwn name) {item : FromItem} (hitem : item ∈ frame.sources)
    (binding : Binding) : item.binding? frame.outer ≠ some (name, binding) := by
  have halias := hown.unaliased item hitem
  have hsegment := hown.unsegmented item hitem
  match item with
  | ⟨.table table, some aliasName, join, condition⟩ =>
    rw [FromItem.binding?]
    split <;> simp_all
  | ⟨.table table, none, join, condition⟩ =>
    rw [FromItem.binding?]
    split
    · rename_i hcte
      have hne : table ≠ name := fun heq => hown.not_cte (heq ▸ Scope.isCte_iff.mp hcte)
      simp [hne]
    · have hne := hsegment table rfl rfl
      simp_all
  | ⟨.subquery query, some aliasName, join, condition⟩ => simp_all [FromItem.binding?]
  | ⟨.subquery query, none, join, condition⟩ => simp [FromItem.binding?]

/-- The name of an own table means in the block what it means around it. -/
theorem resolve_eq (hown : frame.HasOwn name) :
    frame.block.scope.resolve (some name) =
      ((frame.outer.bindings.lookup name).map Binding.owner).getD name := by
  have hlookup : frame.block.scope.bindings.lookup name = frame.outer.bindings.lookup name :=
    Scope.lookup_bindItems fun item hitem => hown.binding?_ne hitem
  have hcte : name ∉ frame.block.scope.ctes := by
    rw [show frame.block.scope.ctes = frame.outer.ctes from Scope.ctes_bindItems _ _]
    exact hown.not_cte
  rw [Scope.resolve_eq, hlookup, if_neg hcte]
  cases frame.outer.bindings.lookup name <;> rfl

end Frame.HasOwn

/-- Columns that are qualified by the name of an own table belong to that table exactly if the
blocks around have not bound the name to anything else.  Those that the block looks at are recorded
under the owner so found. -/
theorem resolve_ownTable_iff (recurse : Bool) {query : Select} {frame : Frame}
    (hframe : frame ∈ query.frames ⟨[], []⟩) {name : String} (hown : frame.HasOwn name)
    (registry : Registry) :
    (frame.block.scope.resolve (some name) = name ↔
        ∀ binding, frame.outer.bindings.lookup name = some binding → binding.owner = name) ∧
      ∀ column, (some name, column) ∈ frame.block.inspected recurse →
        frame.block.scope.resolve (some name) ≠ unknownTable →
          (frame.block.scope.resolve (some name), column) ∈
            (analyzeSelect recurse query ⟨[], []⟩ registry).1.columnNames := by
  constructor
  · rw [hown.resolve_eq]
    cases frame.outer.bindings.lookup name with
    | none => simp
    | some binding => simp
  · intro column hcolumn hknown
    exact mem_columnNames_of_mem_inspected hframe hcolumn hknown registry

/-- `SELECT t.x, u.y FROM t, u` under what is around it. -/
def Frame.captured : Frame where
  outer := ⟨[("t", .table "orders")], []⟩
  sources := [{ source := .table "t" }, { source := .table "u" }]
  columns := [.column (some "t") "x", .column (some "u") "y"]
  selection := none

/-- `SELECT d.x FROM orders AS t, (SELECT t.x, u.y FROM t, u) AS d` -/
def Select.capturing : Select :=
  let inner : Select := { sources := Frame.captured.sources, columns := Frame.captured.columns }
  { sources := [{ source := .table "orders", aliasName := some "t" },
      { source := .subquery inner, aliasName := some "d" }]
    columns := [.column (some "d") "x"] }

theorem Select.captured_mem_frames : Frame.captured ∈ Select.capturing.frames ⟨[], []⟩ := by
  have hframes : Select.capturing.frames ⟨[], []⟩ =
      Frame.captured :: [⟨⟨[], []⟩, capturing.sources, capturing.columns, none⟩] := rfl
  rw [hframes]
  exact List.mem_cons_self

theorem Frame.hasOwn_captured {name : String} (hname : name = "t" ∨ name = "u") :
    Frame.captured.HasOwn name := by
  have hsources : ∀ {item}, item ∈ Frame.captured.sources →
      item = { source := .table "t" } ∨ item = { source := .table "u" } := by
    simp [captured]
  refine ⟨?_, ?_, ?_, ?_, ?_⟩
  · rcases hname with rfl | rfl <;> decide
  · exact List.not_mem_nil
  · rcases hname with rfl | rfl
    · exact ⟨_, List.mem_cons_self, rfl, rfl⟩
    · exact ⟨_, List.mem_cons_of_mem _ List.mem_cons_self, rfl, rfl⟩
  · intro item hitem
    rcases hsources hitem with rfl | rfl <;> exact nofun
  · intro item hitem table hsource _
    have hnone : lastSegment? table = none := by
      rcases hsources hitem with rfl | rfl <;> cases hsource <;> decide
    rw [hnone]
    exact nofun

/-- The alias `t` around the block captures its table `t`; nothing around it is called `u`. -/
theorem resolve_ownTable_captured :
    Frame.captured ∈ Select.capturing.frames ⟨[], []⟩ ∧
      Frame.captured.HasOwn "t" ∧ Frame.captured.HasOwn "u" ∧
      ¬ (∀ binding, Frame.captured.outer.bindings.lookup "t" = some binding →
        binding.owner = "t") ∧
      Frame.captured.block.scope.resolve (some "u") = "u" ∧
      ("u", "y") ∈ (analyzeSelect false .capturing ⟨[], []⟩ {}).1.columnNames := by
  have hframe := Select.captured_mem_frames
  have hown := Frame.hasOwn_captured (.inl rfl)
  have hother := Frame.hasOwn_captured (.inr rfl)
  have hcaptured := resolve_ownTable_iff false hframe hown {}
  have hfree := resolve_ownTable_iff false hframe hother {}
  have hresolve : Frame.captured.block.scope.resolve (some "u") = "u" :=
    hfree.1.mpr nofun
  have hcolumn := hfree.2 "y" (by decide) (by decide)
  refine ⟨hframe, hown, hother, mt hcaptured.1.mpr (by decide), hresolve, ?_⟩
  rwa [hresolve] at hcolumn

/-- An own table does lose its columns to an alias of an outer FROM list. -/
theorem exists_ownTable_captured :
    (¬ ∀ frame ∈ Select.capturing.frames ⟨[], []⟩, ∀ name, frame.HasOwn name →
        frame.block.scope.resolve (some name) = name) ∧
      (registryOf {} [.select .capturing]).columnNames = [("orders", "x"), ("u", "y")] := by
  refine ⟨fun hall => ?_, by decide⟩
  have hresolve := hall _ Select.captured_mem_frames "t" (Frame.hasOwn_captured (.inl rfl))
  revert hresolve
  decide

end SqlLineage
