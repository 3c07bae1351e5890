import Mathlib.Data.List.Forall2
import SqlLineage.Decode.Basic
import SqlLineage.Proofs.Json.Fields

/-!
# Decoding records

A decoder undoes a way of writing values if it answers every value so written with the value
itself.  For a record it is enough that this holds of each field: a field that is written once is
found under its name, and one that was left out falls back on what leaving it out stands for.
-/

namespace SqlLineage

namespace Decode

variable {α : Type} {style : Style} {name : String} {fields : List (String × Json)}

theorem findNamed_eq_none (hvalues : Json.valuesOf name fields = []) (index : Nat) :
    findNamed name index fields = none := by
  induction fields generalizing index with
  | nil => rfl
  | cons field rest ih =>
    obtain ⟨key, value⟩ := field
    by_cases hkey : key == name
    · simp [hkey] at hvalues
    · have hrest : Json.valuesOf name rest = [] := by simpa [hkey] using hvalues
      simpa [findNamed, hkey] using ih hrest (index + 1)

/-- A name that stands only once is found at its place, and not again behind it. -/
theorem exists_findNamed {value : Json} (hvalues : Json.valuesOf name fields = [value])
    (index : Nat) :
    ∃ skipped, findNamed name index fields = some (index + skipped, value) ∧
      Json.valuesOf name (fields.drop (skipped + 1)) = [] := by
  induction fields generalizing index with
  | nil => simp at hvalues
  | cons field rest ih =>
    obtain ⟨key, first⟩ := field
    by_cases hkey : key == name
    · obtain ⟨rfl, hrest⟩ : first = value ∧ Json.valuesOf name rest = [] := by
        simpa [hkey] using hvalues
      exact ⟨0, by simp [findNamed, hkey], by simpa using hrest⟩
    · have hrest : Json.valuesOf name rest = [value] := by simpa [hkey] using hvalues
      obtain ⟨skipped, hfound, hbehind⟩ := ih hrest (index + 1)
      refine ⟨skipped + 1, ?_, by simpa using hbehind⟩
      rw [findNamed, if_neg hkey, hfound, Nat.add_assoc, Nat.add_comm 1]

/-! ## Slots -/

/-- The slot of a part that may be left out. -/
def Slot.ofOption : Option α → Slot α
  | none => .absent
  | some value => .found value

theorem Slot.fault?_ofOption (value : Option α) : (Slot.ofOption value).fault? = none := by
  cases value <;> rfl

theorem Slot.orElse_nullable (value : Option α) :
    (Slot.ofOption (value.map some)).orElse none = value := by
  cases value <;> rfl

variable {position : Nat} {decoder : Decoder α}

theorem slot_eq_absent (name : String) (hvalues : Json.valuesOf name fields = []) :
    (Parts.named fields).slot style name position decoder = .absent := by
  simp [Parts.slot, findNamed_eq_none hvalues]

theorem slot_eq_found (name : String) {value : Json} {result : α}
    (hresult : decoder style value = .ok result) (hvalues : Json.valuesOf name fields = [value]) :
    (Parts.named fields).slot style name position decoder = .found result := by
  obtain ⟨skipped, hfound, hbehind⟩ := exists_findNamed hvalues 0
  rw [Nat.zero_add] at hfound
  simp [Parts.slot, hfound, hresult, findNamed_eq_none hbehind]

/-- A field that is left out when there is no value for it. -/
theorem slot_nullable (name : String) {value : Option α} {encode : α → Json}
    (hpresent : ∀ x ∈ value, encode x ≠ .null ∧ decoder style (encode x) = .ok x)
    (hvalues : Json.valuesOf name fields = (value.map encode).toList) :
    (Parts.named fields).slot style name position (nullable decoder) =
      .ofOption (value.map some) := by
  cases value with
  | none => exact slot_eq_absent name hvalues
  | some x =>
    obtain ⟨hnull, hdecode⟩ := hpresent x rfl
    refine slot_eq_found name ?_ hvalues
    rw [nullable, hdecode]
    · rfl
    · exact hnull

/-- A truth value that is left out when it does not hold. -/
theorem slot_flag (name : String) (flag : Bool)
    (hvalues : Json.valuesOf name fields = if flag then [.bool true] else []) :
    (Parts.named fields).slot style name position bool =
      .ofOption (if flag then some true else none) := by
  cases flag with
  | false => exact slot_eq_absent name hvalues
  | true => exact slot_eq_found name rfl hvalues

theorem Slot.orElse_flag (flag : Bool) :
    (Slot.ofOption (if flag then some true else none)).orElse false = flag := by
  cases flag <;> rfl

/-! ## Plain values -/

theorem string_str (text : String) : string style (.str text) = .ok text := rfl

theorem bool_bool (value : Bool) : bool style (.bool value) = .ok value := rfl

theorem unsigned_nat (kind : String) (n : Nat) : unsigned kind style (.nat n) = .ok n := by
  simp [unsigned, Json.nat]

theorem nullable_str (text : Option String) :
    ∀ x ∈ text, Json.str x ≠ .null ∧ string style (.str x) = .ok x := by
  simp [string]

theorem word_str {choices : List (String × α)} {meaning : α}
    (hlookup : choices.lookup name = some meaning) :
    word choices style (.str name) = .ok meaning := by
  simp [word, hlookup]

/-! ## Lists -/

/-- A list is read if each of its items is, wherever the items are counted from. -/
theorem itemsFrom_eq_ok_iff {item : Json → Except Error α} {items : List Json} {values : List α}
    (index : Nat) :
    itemsFrom item index items = .ok values ↔
      List.Forall₂ (fun json value => item json = .ok value) items values := by
  induction items generalizing index values with
  | nil => simp [itemsFrom, eq_comm]
  | cons json rest ih =>
    rw [List.forall₂_cons_left_iff, itemsFrom]
    cases hitem : item json with
    | error error => simp
    | ok first =>
      cases hrest : itemsFrom item (index + 1) rest with
      | error error => simp [Except.map, ← ih (index + 1), hrest]
      | ok more => simp [Except.map, ← ih (index + 1), hrest, eq_comm]

theorem list_eq_ok_iff {items : List Json} {values : List α} :
    list decoder style (.arr items) = .ok values ↔
      List.Forall₂ (fun json value => decoder style json = .ok value) items values :=
  itemsFrom_eq_ok_iff 0

theorem itemsFrom_map {item : Json → Except Error α} {encode : α → Json} {values : List α}
    (hitems : ∀ x ∈ values, item (encode x) = .ok x) (index : Nat) :
    itemsFrom item index (values.map encode) = .ok values := by
  induction values generalizing index with
  | nil => rfl
  | cons x rest ih =>
    have hrest := ih (fun y hy => hitems y (List.mem_cons_of_mem x hy)) (index + 1)
    simp [itemsFrom, hitems x List.mem_cons_self, hrest, Except.map]

theorem list_map {encode : α → Json} {values : List α}
    (hitems : ∀ x ∈ values, decoder style (encode x) = .ok x) :
    list decoder style (.arr (values.map encode)) = .ok values :=
  itemsFrom_map hitems 0

theorem list_strings (texts : List String) :
    list string style (.arr (texts.map Json.str)) = .ok texts :=
  list_map fun text _ => string_str text

/-- A list that is left out when it is empty. -/
theorem slot_unlessEmpty (name : String) {encode : α → Json} {values : List α}
    (hitems : ∀ x ∈ values, decoder style (encode x) = .ok x)
    (hvalues : Json.valuesOf name fields =
      if values.map encode = [] then [] else [.arr (values.map encode)]) :
    (Parts.named fields).slot style name position (list decoder) =
      .ofOption (if values = [] then none else some values) := by
  cases values with
  | nil => exact slot_eq_absent name hvalues
  | cons x rest => exact slot_eq_found name (list_map hitems) hvalues

theorem Slot.orElse_unlessEmpty (values : List α) :
    (Slot.ofOption (if values = [] then none else some values)).orElse [] = values := by
  cases values <;> rfl

/-! ## Tags -/

/-- A tag in front of the fields chooses the variant that its word names. -/
theorem splitTag_variant {β : Type} {choice tag : String} {variants : List (String × α)}
    {meaning : α} (hlookup : variants.lookup tag = some meaning) (otherwise : Option α)
    (decode : Tagged → α → Except Error β) :
    (do
      let tagged ← splitTag name choice style (.obj ((name, .str tag) :: fields))
      let variant ← tagged.variant style variants otherwise
      decode tagged variant) =
      decode ⟨.str tag, 0, .obj fields⟩ meaning := by
  have hsplit : splitTag name choice style (.obj ((name, .str tag) :: fields)) =
      .ok ⟨.str tag, 0, .obj fields⟩ := by
    simp [splitTag, findNamed, withoutField]
  have hvariant : (⟨.str tag, 0, .obj fields⟩ : Tagged).variant style variants otherwise =
      .ok meaning := by
    simp [Tagged.variant, hlookup]
  rw [hsplit]
  simp [bind, Except.bind, hvariant]

/-! ## Records -/

/-- A record is read if no part is at fault and the parts make up a value. -/
theorem Shape.record_named {shape : Shape} {result : α}
    {read : Parts → List (Option (Nat × Error)) × Except Error α} (count : Nat)
    (hread : read (.named fields) = (List.replicate count none, .ok result)) :
    shape.record style (.obj fields) read = .ok result := by
  have hnone : (List.replicate count (none : Option (Nat × Error))).filterMap id = [] :=
    List.filterMap_eq_nil_iff.mpr fun _ hmem => List.eq_of_mem_replicate hmem
  have hfirst : firstFault (List.replicate count none) = none := by
    rw [firstFault, hnone]
    rfl
  simp [Shape.record, Shape.parts, bind, Except.bind, hread, hfirst, Parts.excess]

/-- A record is not read if the parts do not make up a value. -/
theorem Shape.record_error {shape : Shape}
    {read : Parts → List (Option (Nat × Error)) × Except Error α}
    (hread : ∃ error, (read (.named fields)).2 = .error error) :
    ∃ error, shape.record style (.obj fields) read = .error error := by
  obtain ⟨error, herror⟩ := hread
  cases hfirst : firstFault (read (.named fields)).1 with
  | some fault =>
    exact ⟨fault, by simp [Shape.record, Shape.parts, bind, Except.bind, hfirst]⟩
  | none =>
    exact ⟨error, by simp [Shape.record, Shape.parts, bind, Except.bind, hfirst, herror]⟩

theorem bind_error {β : Type} {first : Except Error β} {next : β → Except Error α}
    (hnext : ∀ value, ∃ error, next value = .error error) :
    ∃ error, (first >>= next) = .error error := by
  cases first with
  | error error => exact ⟨error, rfl⟩
  | ok value => exact hnext value

end Decode

end SqlLineage
