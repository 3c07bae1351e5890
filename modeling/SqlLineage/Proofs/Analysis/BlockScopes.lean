import SqlLineage.Proofs.Analysis.Blocks

/-!
# Scopes of blocks

What common tables and relations keep of a scope holds at every block of a query.  A name that the
scope has as a common table and never binds a qualifier to is hidden: no block behind it registers a
table of that name.  A scope binds a qualifier to a table only if some block reads that table.
-/

namespace SqlLineage

namespace Scope

/-- No qualifier is bound to the table of that name. -/
def Misses (scope : Scope) (name : String) : Prop :=
  ∀ qualifier, (qualifier, Binding.table name) ∉ scope.bindings

/-- The name is that of a common table, and no qualifier is bound to a table of that name. -/
structure Hides (scope : Scope) (name : String) : Prop where
  cte : name ∈ scope.ctes
  misses : scope.Misses name

theorem misses_empty (name : String) : Scope.Misses ⟨[], []⟩ name :=
  fun _ => List.not_mem_nil

theorem Misses.bind {scope : Scope} {name : String} (hmisses : scope.Misses name)
    (qualifier : String) {binding : Binding} (hbinding : binding ≠ .table name) :
    (scope.bind qualifier binding).Misses name := by
  intro other hmem
  rw [Scope.bind, List.mem_cons] at hmem
  obtain heq | hmem := hmem
  · exact hbinding (Prod.mk.inj heq).2.symm
  · exact hmisses other hmem

theorem Misses.bindTable {scope : Scope} {name table : String} (hmisses : scope.Misses name)
    (hne : table ≠ name) (aliasName : Option String) :
    (scope.bindTable table aliasName).Misses name := by
  have hbinding : Binding.table table ≠ .table name := fun heq => hne (Binding.table.inj heq)
  cases aliasName with
  | some aliasName => exact hmisses.bind aliasName hbinding
  | none =>
    rw [Scope.bindTable]
    split
    · exact hmisses.bind _ hbinding
    · exact hmisses

theorem Misses.addCte {scope : Scope} {name : String} (hmisses : scope.Misses name)
    (cte : String) : (scope.addCte cte).Misses name :=
  hmisses

/-- A relation binds nothing to a table that it does not read. -/
theorem Misses.bindItem {scope : Scope} {name : String} (hmisses : scope.Misses name)
    {item : FromItem} (hread : item.read? scope ≠ some name) :
    (scope.bindItem item).Misses name := by
  match item with
  | ⟨.table table, aliasName, _, _⟩ =>
    rw [Scope.bindItem]
    rw [FromItem.read?] at hread
    by_cases hcte : scope.isCte table = true
    · rw [if_pos hcte]
      exact hmisses.bind _ (by simp)
    · rw [if_neg hcte] at hread ⊢
      exact hmisses.bindTable (fun heq => hread (congrArg some heq)) aliasName
  | ⟨.subquery _, some aliasName, _, _⟩ => exact hmisses.bind aliasName (by simp)
  | ⟨.subquery _, none, _, _⟩ => exact hmisses

theorem Hides.addCte {scope : Scope} {name : String} (hhides : scope.Hides name)
    (cte : String) : (scope.addCte cte).Hides name :=
  ⟨List.mem_cons_of_mem cte hhides.cte, hhides.misses.addCte cte⟩

theorem Hides.bindTable {scope : Scope} {name table : String} (hhides : scope.Hides name)
    (hne : table ≠ name) (aliasName : Option String) :
    (scope.bindTable table aliasName).Hides name :=
  ⟨by simpa using hhides.cte, hhides.misses.bindTable hne aliasName⟩

/-- No relation reads a hidden table, so a hidden name stays hidden. -/
theorem Hides.bindItem {scope : Scope} {name : String} (hhides : scope.Hides name)
    (item : FromItem) : (scope.bindItem item).Hides name := by
  refine ⟨by simpa using hhides.cte, hhides.misses.bindItem fun hread => ?_⟩
  match item with
  | ⟨.table table, _, _, _⟩ =>
    rw [FromItem.read?] at hread
    split at hread
    · cases hread
    · rename_i hcte
      exact hcte (Scope.isCte_iff.mpr (Option.some.inj hread ▸ hhides.cte))
  | ⟨.subquery _, _, _, _⟩ => cases hread

end Scope

/-! ## What holds at every block -/

/-- A property of scopes that common tables keep, and relations too if they read allowed tables
only. -/
structure Scope.Kept (allowed : String → Prop) (property : Scope → Prop) : Prop where
  addCte : ∀ scope name, property scope → property (Scope.addCte scope name)
  bindItem : ∀ scope item, property scope →
    (∀ name, FromItem.read? scope item = some name → allowed name) →
      property (Scope.bindItem scope item)

/-- A scope that does not bind qualifiers to a table goes on so as long as no block reads it. -/
theorem Scope.kept_misses (name : String) :
    Scope.Kept (· ≠ name) (fun scope => scope.Misses name) where
  addCte := fun _ cte hmisses => hmisses.addCte cte
  bindItem := fun _ _ hmisses hreads =>
    hmisses.bindItem fun hread => hreads name hread rfl

/-- A hidden name stays hidden. -/
theorem Scope.kept_hides (name : String) :
    Scope.Kept (fun _ => True) (fun scope => scope.Hides name) where
  addCte := fun _ cte hhides => hhides.addCte cte
  bindItem := fun _ item hhides _ => hhides.bindItem item

section Kept

variable {allowed : String → Prop} {property : Scope → Prop}

theorem Scope.Kept.addCtes (hkept : Scope.Kept allowed property) {scope : Scope}
    (hscope : property scope) (names : List String) : property (scope.addCtes names) := by
  induction names generalizing scope with
  | nil => exact hscope
  | cons name rest ih => exact ih (hkept.addCte scope name hscope)

theorem Scope.Kept.bindItems (hkept : Scope.Kept allowed property) {scope : Scope}
    {items : List FromItem} (hscope : property scope)
    (hreads : ∀ item ∈ items, ∀ name, item.read? scope = some name → allowed name) :
    property (scope.bindItems items) := by
  induction items generalizing scope with
  | nil => exact hscope
  | cons item rest ih =>
    refine ih (hkept.bindItem scope item hscope (hreads item List.mem_cons_self)) ?_
    intro other hother name hname
    rw [other.read?_congr (Scope.ctes_bindItem scope item)] at hname
    exact hreads other (List.mem_cons_of_mem item hother) name hname

/-- The relations of a block, and the scope behind them. -/
theorem Scope.Kept.block (hkept : Scope.Kept allowed property) {scope : Scope}
    {sources : List FromItem} {columns : List Expression} {selection : Option Expression}
    (hscope : property scope)
    (hreads : ∀ name ∈ (Block.of scope sources columns selection).reads, allowed name) :
    (∀ item ∈ sources, ∀ name, item.read? scope = some name → allowed name) ∧
      property (Block.of scope sources columns selection).scope := by
  rw [Block.reads_of] at hreads
  have hsources : ∀ item ∈ sources, ∀ name, item.read? scope = some name → allowed name :=
    fun item hmem name hread => hreads name (List.mem_filterMap.mpr ⟨item, hmem, hread⟩)
  exact ⟨hsources, hkept.bindItems hscope hsources⟩

mutual

theorem kept_of_mem_blocks (hkept : Scope.Kept allowed property) {query : Select}
    {scope : Scope} (hscope : property scope)
    (hreads : ∀ block ∈ query.blocks scope, ∀ name ∈ block.reads, allowed name) :
    ∀ block ∈ query.blocks scope, property block.scope := by
  match query with
  | ⟨ctes, sources, columns, selection, union⟩ =>
    have houter := hkept.addCtes hscope (ctes.map CommonTable.name)
    simp only [Select.blocks, List.forall_mem_append, List.forall_mem_singleton] at hreads ⊢
    obtain ⟨⟨hctes, hsources, hown⟩, hunion⟩ := hreads
    obtain ⟨hitems, hblock⟩ := hkept.block houter hown
    exact ⟨⟨kept_of_mem_cteBlocks hkept hscope hctes,
      kept_of_mem_itemBlocks hkept houter hitems hsources, hblock⟩,
      kept_of_mem_branchBlocks hkept houter hunion⟩

theorem kept_of_mem_cteBlocks (hkept : Scope.Kept allowed property)
    {ctes : List CommonTable} {scope : Scope} (hscope : property scope)
    (hreads : ∀ block ∈ CommonTable.blocks scope ctes, ∀ name ∈ block.reads, allowed name) :
    ∀ block ∈ CommonTable.blocks scope ctes, property block.scope := by
  match ctes with
  | [] =>
    intro block hblock
    simp [CommonTable.blocks] at hblock
  | ⟨name, query⟩ :: rest =>
    rw [CommonTable.blocks, List.forall_mem_append] at hreads ⊢
    exact ⟨kept_of_mem_blocks hkept hscope hreads.1,
      kept_of_mem_cteBlocks hkept (hkept.addCte scope name hscope) hreads.2⟩

theorem kept_of_mem_itemBlocks (hkept : Scope.Kept allowed property) {items : List FromItem}
    {scope : Scope} (hscope : property scope)
    (hitems : ∀ item ∈ items, ∀ name, item.read? scope = some name → allowed name)
    (hreads : ∀ block ∈ FromItem.blocks scope items, ∀ name ∈ block.reads, allowed name) :
    ∀ block ∈ FromItem.blocks scope items, property block.scope := by
  match items with
  | [] =>
    intro block hblock
    simp [FromItem.blocks] at hblock
  | item :: rest =>
    rw [FromItem.blocks, List.forall_mem_append] at hreads ⊢
    rw [List.forall_mem_cons] at hitems
    refine ⟨kept_of_mem_ownBlocks hkept hscope hreads.1,
      kept_of_mem_itemBlocks hkept (hkept.bindItem scope item hscope hitems.1) ?_ hreads.2⟩
    intro other hother name hname
    rw [other.read?_congr (Scope.ctes_bindItem scope item)] at hname
    exact hitems.2 other hother name hname

theorem kept_of_mem_ownBlocks (hkept : Scope.Kept allowed property) {item : FromItem}
    {scope : Scope} (hscope : property scope)
    (hreads : ∀ block ∈ FromItem.ownBlocks scope item, ∀ name ∈ block.reads, allowed name) :
    ∀ block ∈ FromItem.ownBlocks scope item, property block.scope := by
  match item with
  | ⟨.table _, _, _, _⟩ =>
    intro block hblock
    simp [FromItem.ownBlocks] at hblock
  | ⟨.subquery query, _, _, _⟩ =>
    rw [FromItem.ownBlocks] at hreads ⊢
    exact kept_of_mem_blocks hkept hscope hreads

theorem kept_of_mem_branchBlocks (hkept : Scope.Kept allowed property)
    {branches : List Select} {scope : Scope} (hscope : property scope)
    (hreads : ∀ block ∈ Select.branchBlocks scope branches, ∀ name ∈ block.reads,
      allowed name) :
    ∀ block ∈ Select.branchBlocks scope branches, property block.scope := by
  match branches with
  | [] =>
    intro block hblock
    simp [Select.branchBlocks] at hblock
  | branch :: rest =>
    rw [Select.branchBlocks, List.forall_mem_append] at hreads ⊢
    exact ⟨kept_of_mem_blocks hkept hscope hreads.1,
      kept_of_mem_branchBlocks hkept hscope hreads.2⟩

end

end Kept

/-! ## Reads depend on common tables only -/

theorem Scope.ctes_addCtes_congr {first second : Scope} (hctes : first.ctes = second.ctes)
    (names : List String) : (first.addCtes names).ctes = (second.addCtes names).ctes := by
  induction names generalizing first second with
  | nil => exact hctes
  | cons name rest ih =>
    rw [Scope.addCtes_cons, Scope.addCtes_cons]
    exact ih (congrArg (name :: ·) hctes)

mutual

/-- The tables that blocks read do not depend on what qualifiers are bound to. -/
theorem reads_blocks_congr {first second : Scope} (hctes : first.ctes = second.ctes)
    (query : Select) :
    (query.blocks first).map Block.reads = (query.blocks second).map Block.reads := by
  match query with
  | ⟨ctes, sources, columns, selection, union⟩ =>
    have houter := Scope.ctes_addCtes_congr hctes (ctes.map CommonTable.name)
    have hown : (Block.of (first.addCtes (ctes.map CommonTable.name)) sources columns
          selection).reads =
        (Block.of (second.addCtes (ctes.map CommonTable.name)) sources columns
          selection).reads := by
      rw [Block.reads_of, Block.reads_of]
      exact List.filterMap_congr fun item _ => item.read?_congr houter
    rw [Select.blocks, Select.blocks]
    simp only [List.map_append, List.map_cons, List.map_nil, hown,
      reads_cteBlocks_congr hctes ctes, reads_itemBlocks_congr houter sources,
      reads_branchBlocks_congr houter union]

theorem reads_cteBlocks_congr {first second : Scope} (hctes : first.ctes = second.ctes)
    (ctes : List CommonTable) :
    (CommonTable.blocks first ctes).map Block.reads =
      (CommonTable.blocks second ctes).map Block.reads := by
  match ctes with
  | [] => rfl
  | ⟨name, query⟩ :: rest =>
    have hrest : (first.addCte name).ctes = (second.addCte name).ctes :=
      congrArg (name :: ·) hctes
    rw [CommonTable.blocks, CommonTable.blocks, List.map_append, List.map_append,
      reads_blocks_congr hctes query, reads_cteBlocks_congr hrest rest]

theorem reads_itemBlocks_congr {first second : Scope} (hctes : first.ctes = second.ctes)
    (items : List FromItem) :
    (FromItem.blocks first items).map Block.reads =
      (FromItem.blocks second items).map Block.reads := by
  match items with
  | [] => rfl
  | item :: rest =>
    have hrest : (first.bindItem item).ctes = (second.bindItem item).ctes := by simpa using hctes
    rw [FromItem.blocks, FromItem.blocks, List.map_append, List.map_append,
      reads_ownBlocks_congr hctes item, reads_itemBlocks_congr hrest rest]

theorem reads_ownBlocks_congr {first second : Scope} (hctes : first.ctes = second.ctes)
    (item : FromItem) :
    (FromItem.ownBlocks first item).map Block.reads =
      (FromItem.ownBlocks second item).map Block.reads := by
  match item with
  | ⟨.table _, _, _, _⟩ => rfl
  | ⟨.subquery query, _, _, _⟩ =>
    rw [FromItem.ownBlocks, FromItem.ownBlocks]
    exact reads_blocks_congr hctes query

theorem reads_branchBlocks_congr {first second : Scope} (hctes : first.ctes = second.ctes)
    (branches : List Select) :
    (Select.branchBlocks first branches).map Block.reads =
      (Select.branchBlocks second branches).map Block.reads := by
  match branches with
  | [] => rfl
  | branch :: rest =>
    rw [Select.branchBlocks, Select.branchBlocks, List.map_append, List.map_append,
      reads_blocks_congr hctes branch, reads_branchBlocks_congr hctes rest]

end

end SqlLineage
