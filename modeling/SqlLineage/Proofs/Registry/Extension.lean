import SqlLineage.Proofs.Registry.WellFormed

/-!
# Extensions of a registry

A registry that grew has every table where it was, under its number, its name and its kind, and with
further columns at most behind the ones it had.  Relationships stay in front of the newer ones.
-/

namespace SqlLineage

/-- A table at a later time. -/
structure Table.Extends (before after : Table) : Prop where
  id_eq : after.id = before.id
  name_eq : after.name = before.name
  kind_eq : after.kind = before.kind
  columns_prefix : before.columns <+: after.columns

theorem Table.Extends.refl (table : Table) : table.Extends table :=
  ⟨rfl, rfl, rfl, List.prefix_rfl⟩

theorem Table.Extends.trans {first second third : Table} (hfirst : first.Extends second)
    (hsecond : second.Extends third) : first.Extends third where
  id_eq := hsecond.id_eq.trans hfirst.id_eq
  name_eq := hsecond.name_eq.trans hfirst.name_eq
  kind_eq := hsecond.kind_eq.trans hfirst.kind_eq
  columns_prefix := hfirst.columns_prefix.trans hsecond.columns_prefix

namespace Registry

/-- A registry at a later time. -/
structure Extends (before after : Registry) : Prop where
  tables : ∀ (position : Nat) (table : Table), before.tables[position]? = some table →
    ∃ later, after.tables[position]? = some later ∧ table.Extends later
  relationships : before.relationships <+: after.relationships

theorem Extends.refl (registry : Registry) : registry.Extends registry where
  tables := fun _ table hfound => ⟨table, hfound, .refl table⟩
  relationships := List.prefix_rfl

theorem Extends.trans {before between after : Registry} (hfirst : before.Extends between)
    (hsecond : between.Extends after) : before.Extends after where
  tables := by
    intro position table hfound
    obtain ⟨middle, hmiddle, hgrown⟩ := hfirst.tables position table hfound
    obtain ⟨later, hlater, hmore⟩ := hsecond.tables position middle hmiddle
    exact ⟨later, hlater, hgrown.trans hmore⟩
  relationships := hfirst.relationships.trans hsecond.relationships

/-- Recording a column leaves each table in its place. -/
theorem getElem?_appendColumn (column : Column) (name : String) {tables : List Table}
    {position : Nat} {table : Table} (hfound : tables[position]? = some table) :
    ∃ later, (appendColumn column name tables)[position]? = some later ∧
      table.Extends later := by
  rw [appendColumn, List.getElem?_map, hfound, Option.map_some]
  refine ⟨_, rfl, ?_⟩
  split
  · exact ⟨rfl, rfl, rfl, List.prefix_append _ _⟩
  · exact .refl table

theorem Step.extends {before after : Registry} (hstep : Step before after) :
    before.Extends after := by
  cases hstep with
  | table name kind hnew =>
    refine ⟨fun position table hfound => ⟨table, ?_, .refl table⟩, List.prefix_rfl⟩
    obtain ⟨hlength, -⟩ := List.getElem?_eq_some_iff.mp hfound
    rw [tables_pushTable, List.getElem?_append_left hlength, hfound]
  | column owner name role howner hknown hnew =>
    exact ⟨fun _ _ hfound => getElem?_appendColumn _ owner.name hfound, List.prefix_rfl⟩
  | relationship source target kind hne hsource htarget =>
    exact ⟨fun _ table hfound => ⟨table, hfound, .refl table⟩, List.prefix_append _ _⟩

/-- A registry that grew is an extension. -/
theorem Grows.extends {before after : Registry} (hgrows : Grows before after) :
    before.Extends after :=
  hgrows.keeps (fun _ _ hbefore hstep => hbefore.trans hstep.extends) (.refl before)

/-- Looking a table up finds it again later. -/
theorem Extends.table?_eq_some {before after : Registry} (hextends : before.Extends after)
    (hformed : after.WellFormed) {name : String} {table : Table}
    (hfound : before.table? name = some table) :
    ∃ later, after.table? name = some later ∧ table.Extends later := by
  obtain ⟨hmem, hname⟩ := mem_of_table?_eq_some hfound
  obtain ⟨position, hposition⟩ := List.mem_iff_getElem?.mp hmem
  obtain ⟨later, hlater, hgrown⟩ := hextends.tables position table hposition
  have hlaterMem : later ∈ after.tables := List.mem_iff_getElem?.mpr ⟨position, hlater⟩
  have hlaterName : later.name = name := hgrown.name_eq.trans hname
  obtain ⟨other, hother⟩ :=
    exists_table?_of_mem_names (List.mem_map.mpr ⟨later, hlaterMem, hlaterName⟩)
  obtain ⟨hotherMem, hotherName⟩ := mem_of_table?_eq_some hother
  obtain rfl : other = later := List.inj_on_of_nodup_map hformed.names_nodup hotherMem hlaterMem
    (hotherName.trans hlaterName.symm)
  exact ⟨other, hother, hgrown⟩

end Registry

end SqlLineage
