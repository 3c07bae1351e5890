import SqlLineage.Proofs.Analysis.Blocks

/-!
# What relations bind

A relation binds one qualifier at most: its alias, or else the last segment of a dotted name, or the
name of a common table.  A qualifier that no relation of a list binds means behind the list what it
meant before.
-/

namespace SqlLineage

/-- The owner of columns that are qualified by a bound name. -/
def Binding.owner : Binding → String
  | .table name => name
  | .derived => unknownTable

/-- The qualifier that a relation binds, with what it stands for. -/
def FromItem.binding? (scope : Scope) : FromItem → Option (String × Binding)
  | ⟨.table name, aliasName, _, _⟩ =>
    if scope.isCte name then some (aliasName.getD name, .derived)
    else (aliasName.or (lastSegment? name)).map (fun qualifier => (qualifier, .table name))
  | ⟨.subquery _, aliasName, _, _⟩ => aliasName.map (fun qualifier => (qualifier, .derived))

namespace Scope

variable (scope : Scope)

theorem bindTable_eq (name : String) (aliasName : Option String) :
    scope.bindTable name aliasName =
      { scope with
        bindings := ((aliasName.or (lastSegment? name)).map
          (fun qualifier => (qualifier, Binding.table name))).toList ++ scope.bindings } := by
  cases aliasName with
  | some aliasName => rfl
  | none =>
    rw [bindTable, Option.none_or]
    split <;> rename_i hsegment <;> rw [hsegment] <;> rfl

theorem bindItem_eq (item : FromItem) :
    scope.bindItem item =
      { scope with bindings := (item.binding? scope).toList ++ scope.bindings } := by
  obtain ⟨source, aliasName, join, condition⟩ := item
  cases source with
  | table name =>
    rw [bindItem, FromItem.binding?]
    split
    · rfl
    · exact scope.bindTable_eq name aliasName
  | subquery query => cases aliasName <;> rfl

theorem resolve_eq (qualifier : String) :
    scope.resolve (some qualifier) =
      match scope.bindings.lookup qualifier with
      | some binding => binding.owner
      | none => if qualifier ∈ scope.ctes then unknownTable else qualifier := by
  rw [resolve]
  split <;> rename_i hbinding <;> rw [hbinding]
  · rfl
  · rfl
  · simp only [isCte_iff]

variable {scope}

/-- A relation leaves alone every qualifier but the one that it binds. -/
theorem lookup_bindItem {item : FromItem} {qualifier : String}
    (hother : ∀ binding, item.binding? scope ≠ some (qualifier, binding)) :
    (scope.bindItem item).bindings.lookup qualifier = scope.bindings.lookup qualifier := by
  rw [bindItem_eq]
  cases hbinding : item.binding? scope with
  | none => rfl
  | some bound =>
    obtain ⟨name, binding⟩ := bound
    have hne : (qualifier == name) = false := by
      rw [beq_eq_false_iff_ne]
      rintro rfl
      exact hother binding hbinding
    rw [Option.toList_some, List.singleton_append, List.lookup_cons, hne]

end Scope

/-- What a relation binds depends on the common tables in view only. -/
theorem FromItem.binding?_congr {first second : Scope} (hctes : first.ctes = second.ctes)
    (item : FromItem) : item.binding? first = item.binding? second := by
  match item with
  | ⟨.table name, aliasName, _, _⟩ =>
    rw [binding?, binding?, Scope.isCte, Scope.isCte, hctes]
  | ⟨.subquery _, _, _, _⟩ => rfl

/-- Relations that do not bind a qualifier leave it alone. -/
theorem Scope.lookup_bindItems {scope : Scope} {items : List FromItem} {qualifier : String}
    (hother : ∀ item ∈ items, ∀ binding, item.binding? scope ≠ some (qualifier, binding)) :
    (scope.bindItems items).bindings.lookup qualifier = scope.bindings.lookup qualifier := by
  induction items generalizing scope with
  | nil => rfl
  | cons item rest ih =>
    rw [bindItems_cons, ih, lookup_bindItem (hother item List.mem_cons_self)]
    intro other hmem binding
    rw [other.binding?_congr (ctes_bindItem scope item)]
    exact hother other (List.mem_cons_of_mem item hmem) binding

end SqlLineage
