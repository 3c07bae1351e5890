import SqlLineage.Proofs.Json.Fields

/-!
# Regular values

The values that keep everything when they are written and read again.  A number is a natural of 64
bits, since a negative or a real one may be read as another kind of number, and an object has no two
fields of one name, since of those only the last would stay.
-/

namespace SqlLineage.Json

variable {name : String} {fields : List (String × Json)} {items : List Json} {value : Json}

/-- Values that can be written and read without loss. -/
inductive Regular : Json → Prop where
  | null : Regular .null
  | bool (value : Bool) : Regular (.bool value)
  | nat {n : Nat} (hn : n < UInt64.size) : Regular (.nat n)
  | str (text : String) : Regular (.str text)
  | arr {items : List Json} (hitems : ∀ item ∈ items, Regular item) : Regular (.arr items)
  | obj {fields : List (String × Json)} (hnames : (fields.map Prod.fst).Nodup)
      (hvalues : ∀ field ∈ fields, Regular field.2) : Regular (.obj fields)

attribute [simp] Regular.null Regular.bool Regular.str

@[simp]
theorem regular_arr_iff : Regular (.arr items) ↔ ∀ item ∈ items, Regular item := by
  refine ⟨fun h => ?_, .arr⟩
  cases h with
  | arr hitems => exact hitems

theorem regular_obj_iff :
    Regular (.obj fields) ↔ (fields.map Prod.fst).Nodup ∧ AllValues Regular fields := by
  refine ⟨fun h => ?_, fun h => .obj h.1 h.2⟩
  cases h with
  | obj hnames hvalues => exact ⟨hnames, hvalues⟩

/-! ## Names -/

theorem names_optional_sublist (name : String) (value : Option Json) :
    ((optional name value).map Prod.fst).Sublist [name] := by
  cases value <;> simp [optional]

theorem names_unlessEmpty_sublist (name : String) (items : List Json) :
    ((unlessEmpty name items).map Prod.fst).Sublist [name] := by
  cases items <;> simp [unlessEmpty]

theorem names_flag_sublist (name : String) (flag : Bool) :
    ((if flag then [(name, Json.bool Bool.true)] else []).map Prod.fst).Sublist [name] := by
  cases flag <;> simp

/-- A record whose names are among the names of its type, in their order, is regular if its values
are. -/
theorem regular_record (names : List String) (hnames : names.Nodup)
    (hsub : (fields.map Prod.fst).Sublist names) (hvalues : AllValues Regular fields) :
    Regular (.obj fields) :=
  .obj (hnames.sublist hsub) hvalues

/-! ## Repeated names -/

theorem withoutRepeatsList_eq_map (items : List Json) :
    withoutRepeatsList items = items.map withoutRepeats := by
  induction items with
  | nil => rfl
  | cons item rest ih => rw [withoutRepeatsList, ih, List.map_cons]

theorem put_of_not_mem (hname : name ∉ fields.map Prod.fst) :
    put name value fields = fields ++ [(name, value)] := by
  induction fields with
  | nil => rfl
  | cons field rest ih =>
    rw [List.map_cons, List.mem_cons, not_or] at hname
    have hkey : ¬(field.1 == name) = true := by simpa using Ne.symm hname.1
    rw [put, if_neg hkey, ih hname.2, List.cons_append]

theorem withoutRepeatsList_eq_self (hitems : ∀ item ∈ items, item.withoutRepeats = item) :
    withoutRepeatsList items = items := by
  induction items with
  | nil => rfl
  | cons item rest ih =>
    rw [List.forall_mem_cons] at hitems
    rw [withoutRepeatsList, hitems.1, ih hitems.2]

theorem withoutRepeatsFields_eq_append {done : List (String × Json)}
    (hnames : ((done ++ fields).map Prod.fst).Nodup)
    (hvalues : ∀ field ∈ fields, field.2.withoutRepeats = field.2) :
    withoutRepeatsFields fields done = done ++ fields := by
  induction fields generalizing done with
  | nil => rw [withoutRepeatsFields, List.append_nil]
  | cons field rest ih =>
    obtain ⟨key, value⟩ := field
    rw [List.forall_mem_cons] at hvalues
    have hnew : key ∉ done.map Prod.fst := by
      rw [List.map_append, List.nodup_append] at hnames
      exact fun hkey => hnames.2.2 key hkey key (by simp) rfl
    rw [withoutRepeatsFields, hvalues.1, put_of_not_mem hnew,
      ih (by simpa using hnames) hvalues.2]
    simp

theorem Regular.withoutRepeats_eq (hregular : Regular value) : value.withoutRepeats = value := by
  induction hregular with
  | null => rfl
  | bool value => rfl
  | nat hn => rfl
  | str text => rfl
  | arr hitems ih => rw [withoutRepeats, withoutRepeatsList_eq_self ih]
  | obj hnames hvalues ih =>
    rw [withoutRepeats, withoutRepeatsFields_eq_append (by simpa using hnames) ih, List.nil_append]

/-! ## Distinct names -/

/-- No object in the value has two fields of one name. -/
inductive Distinct : Json → Prop where
  | null : Distinct .null
  | bool (value : Bool) : Distinct (.bool value)
  | num (value : JsonNumber) : Distinct (.num value)
  | str (text : String) : Distinct (.str text)
  | arr {items : List Json} (hitems : ∀ item ∈ items, Distinct item) : Distinct (.arr items)
  | obj {fields : List (String × Json)} (hnames : (fields.map Prod.fst).Nodup)
      (hvalues : ∀ field ∈ fields, Distinct field.2) : Distinct (.obj fields)

attribute [simp] Distinct.null Distinct.bool Distinct.num Distinct.str

theorem distinct_arr_iff : Distinct (.arr items) ↔ ∀ item ∈ items, Distinct item := by
  refine ⟨fun h => ?_, .arr⟩
  cases h with
  | arr hitems => exact hitems

theorem distinct_obj_iff :
    Distinct (.obj fields) ↔ (fields.map Prod.fst).Nodup ∧ AllValues Distinct fields := by
  refine ⟨fun h => ?_, fun h => .obj h.1 h.2⟩
  cases h with
  | obj hnames hvalues => exact ⟨hnames, hvalues⟩

/-- Where no name stands twice, at most one value stands under each. -/
theorem valuesOf_eq_nil_or_singleton (name : String) (hnames : (fields.map Prod.fst).Nodup) :
    valuesOf name fields = [] ∨ ∃ value, valuesOf name fields = [value] := by
  induction fields with
  | nil => exact .inl rfl
  | cons field rest ih =>
    obtain ⟨key, value⟩ := field
    rw [List.map_cons, List.nodup_cons] at hnames
    by_cases hkey : key == name
    · refine .inr ⟨value, ?_⟩
      have hrest : valuesOf name rest = [] := by
        rw [valuesOf, List.map_eq_nil_iff, List.filter_eq_nil_iff]
        intro other hother hname
        have hsame : other.1 = key := (eq_of_beq hname).trans (eq_of_beq hkey).symm
        exact hnames.1 (List.mem_map.mpr ⟨other, hother, hsame⟩)
      simp [hkey, hrest]
    · simpa [hkey] using ih hnames.2

/-! ## Shallow values -/

/-- Regular, and at most that many containers inside each other. -/
def Shallow (levels : Nat) (value : Json) : Prop :=
  value.Regular ∧ value.depth ≤ levels

variable {levels : Nat}

theorem Shallow.mono {more : Nat} (hshallow : Shallow levels value) (hle : levels ≤ more) :
    Shallow more value :=
  ⟨hshallow.1, Nat.le_trans hshallow.2 hle⟩

@[simp]
theorem shallow_str (text : String) : Shallow levels (.str text) :=
  ⟨.str text, Nat.zero_le _⟩

@[simp]
theorem shallow_bool (flag : Bool) : Shallow levels (.bool flag) :=
  ⟨.bool flag, Nat.zero_le _⟩

theorem shallow_nat {n : Nat} (hn : n < UInt64.size) : Shallow levels (.nat n) :=
  ⟨.nat hn, Nat.zero_le _⟩

@[simp]
theorem shallow_arr_iff :
    Shallow (levels + 1) (.arr items) ↔ ∀ item ∈ items, Shallow levels item := by
  simp only [Shallow, regular_arr_iff, depth_arr_le]
  exact forall₂_and.symm

theorem shallow_record (names : List String) (hnames : names.Nodup)
    (hsub : (fields.map Prod.fst).Sublist names) (hvalues : AllValues (Shallow levels) fields) :
    Shallow (levels + 1) (.obj fields) :=
  ⟨regular_record names hnames hsub fun field hfield => (hvalues field hfield).1,
    depth_obj_le.mpr fun field hfield => (hvalues field hfield).2⟩

end SqlLineage.Json
