import Mathlib.Data.List.Nodup
import SqlLineage.Json.Value

/-!
# Fields of objects

What an object holds under a name, what holds of all its values, and how deep its parts are.
-/

namespace SqlLineage.Json

variable {name key : String}

/-! ## Fields by name -/

/-- The values that stand under a name among fields. -/
def valuesOf (name : String) (fields : List (String × Json)) : List Json :=
  (fields.filter (fun field => field.1 == name)).map Prod.snd

@[simp]
theorem valuesOf_nil : valuesOf name [] = [] := rfl

@[simp]
theorem valuesOf_cons (value : Json) (fields : List (String × Json)) :
    valuesOf name ((key, value) :: fields) =
      if key == name then value :: valuesOf name fields else valuesOf name fields := by
  by_cases hkey : key == name
  · simp [valuesOf, hkey]
  · simp [valuesOf, hkey]

@[simp]
theorem valuesOf_append (fields more : List (String × Json)) :
    valuesOf name (fields ++ more) = valuesOf name fields ++ valuesOf name more := by
  simp [valuesOf]

@[simp]
theorem valuesOf_optional (value : Option Json) :
    valuesOf name (optional key value) = if key == name then value.toList else [] := by
  cases value <;> simp [optional]

@[simp]
theorem valuesOf_unlessEmpty (items : List Json) :
    valuesOf name (unlessEmpty key items) =
      if key == name then (if items = [] then [] else [.arr items]) else [] := by
  cases items <;> simp [unlessEmpty]

@[simp]
theorem valuesOf_ite (flag : Bool) (fields : List (String × Json)) :
    valuesOf name (if flag then fields else []) = if flag then valuesOf name fields else [] := by
  cases flag <;> rfl

theorem mem_of_mem_valuesOf {fields : List (String × Json)} {value : Json}
    (hvalue : value ∈ valuesOf name fields) : (name, value) ∈ fields := by
  obtain ⟨field, hfield, rfl⟩ := List.mem_map.mp hvalue
  obtain ⟨hmem, hname⟩ := List.mem_filter.mp hfield
  rw [← eq_of_beq hname]
  exact hmem

theorem field?_obj (name : String) (fields : List (String × Json)) :
    (obj fields).field? name = (valuesOf name fields).head? := by
  rw [field?, valuesOf, List.head?_map, List.head?_filter]

/-! ## Values of fields -/

section Values

variable {holds : Json → Prop}

/-- What holds of the value of every field. -/
def AllValues (holds : Json → Prop) (fields : List (String × Json)) : Prop :=
  ∀ field ∈ fields, holds field.2

@[simp]
theorem allValues_nil : AllValues holds [] := by simp [AllValues]

@[simp]
theorem allValues_cons {field : String × Json} {fields : List (String × Json)} :
    AllValues holds (field :: fields) ↔ holds field.2 ∧ AllValues holds fields :=
  List.forall_mem_cons

@[simp]
theorem allValues_append {fields more : List (String × Json)} :
    AllValues holds (fields ++ more) ↔ AllValues holds fields ∧ AllValues holds more :=
  List.forall_mem_append

@[simp]
theorem allValues_optional {value : Option Json} :
    AllValues holds (optional name value) ↔ ∀ x ∈ value, holds x := by
  cases value <;> simp [optional]

@[simp]
theorem allValues_unlessEmpty {items : List Json} :
    AllValues holds (unlessEmpty name items) ↔ (items ≠ [] → holds (.arr items)) := by
  cases items <;> simp [unlessEmpty]

@[simp]
theorem allValues_ite {flag : Bool} {fields : List (String × Json)} :
    AllValues holds (if flag then fields else []) ↔ (flag → AllValues holds fields) := by
  cases flag <;> simp

end Values

/-! ## Depth -/

theorem depthOfList_le {items : List Json} {bound : Nat} :
    depthOfList items ≤ bound ↔ ∀ item ∈ items, item.depth ≤ bound := by
  induction items with
  | nil => simp [depthOfList]
  | cons item rest ih => rw [depthOfList, Nat.max_le, ih, List.forall_mem_cons]

theorem depthOfFields_le {fields : List (String × Json)} {bound : Nat} :
    depthOfFields fields ≤ bound ↔ AllValues (depth · ≤ bound) fields := by
  induction fields with
  | nil => simp [depthOfFields]
  | cons field rest ih =>
    obtain ⟨key, value⟩ := field
    rw [depthOfFields, Nat.max_le, ih, allValues_cons]

theorem depth_arr_le {items : List Json} {bound : Nat} :
    (arr items).depth ≤ bound + 1 ↔ ∀ item ∈ items, item.depth ≤ bound := by
  rw [depth, Nat.add_le_add_iff_right, depthOfList_le]

theorem depth_obj_le {fields : List (String × Json)} {bound : Nat} :
    (obj fields).depth ≤ bound + 1 ↔ AllValues (depth · ≤ bound) fields := by
  rw [depth, Nat.add_le_add_iff_right, depthOfFields_le]

theorem depth_lt_of_mem_items {items : List Json} {item : Json} (hitem : item ∈ items) :
    item.depth < (arr items).depth := by
  rw [depth, Nat.lt_succ_iff]
  exact depthOfList_le.mp (Nat.le_refl _) item hitem

theorem depth_lt_of_mem_fields {fields : List (String × Json)} {value : Json}
    (hvalue : (name, value) ∈ fields) : value.depth < (obj fields).depth := by
  rw [depth, Nat.lt_succ_iff]
  exact depthOfFields_le.mp (Nat.le_refl _) (name, value) hvalue

/-- What stands under a name nests less deep than the object around it. -/
theorem depth_lt_of_field (name : String) {fields : List (String × Json)} {value : Json}
    {bound : Nat} (hdepth : (obj fields).depth < bound + 1)
    (hvalue : value ∈ valuesOf name fields) : value.depth < bound :=
  Nat.lt_of_lt_of_le (depth_lt_of_mem_fields (mem_of_mem_valuesOf hvalue))
    (Nat.lt_succ_iff.mp hdepth)

theorem depth_lt_of_item {items : List Json} {item : Json} {bound : Nat}
    (hdepth : (arr items).depth < bound) (hitem : item ∈ items) : item.depth < bound :=
  Nat.lt_trans (depth_lt_of_mem_items hitem) hdepth

end SqlLineage.Json
