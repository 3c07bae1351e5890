import Mathlib.Data.List.Forall2
import Mathlib.Data.List.Nodup
import SqlLineage.Proofs.Schema.Validation

/-!
# Schemas by their shapes

What the shapes that the published schemas are made of say about a value: words, lists, records,
definitions, and choices that a word decides.
-/

namespace SqlLineage.Schema

open Json (valuesOf)

variable {root value : Json} {steps : Nat} {schema : Schema} {name : String}

/-! ## Kinds -/

@[simp]
theorem isOfKind_null : isOfKind "null" value ↔ value = .null := by
  rcases value with _ | _ | (_ | _) | _ | _ | _ <;> simp [isOfKind]

@[simp]
theorem isOfKind_boolean : isOfKind "boolean" value ↔ ∃ flag, value = .bool flag := by
  rcases value with _ | _ | (_ | _) | _ | _ | _ <;> simp [isOfKind]

@[simp]
theorem isOfKind_string : isOfKind "string" value ↔ ∃ text, value = .str text := by
  rcases value with _ | _ | (_ | _) | _ | _ | _ <;> simp [isOfKind]

@[simp]
theorem isOfKind_array : isOfKind "array" value ↔ ∃ items, value = .arr items := by
  rcases value with _ | _ | (_ | _) | _ | _ | _ <;> simp [isOfKind]

@[simp]
theorem isOfKind_object : isOfKind "object" value ↔ ∃ parts, value = .obj parts := by
  rcases value with _ | _ | (_ | _) | _ | _ | _ <;> simp [isOfKind]

@[simp]
theorem isWord_str {word : String} : isWord (.str word) value ↔ value = .str word := by
  cases value with
  | str text => simp [isWord, eq_comm (a := word)]
  | _ => simp [isWord]

/-! ## Leaves -/

theorem conforms_text :
    conforms root (steps + 1) (toJson text) value ↔ ∃ content, value = .str content := by
  rw [conforms_of_plain text rfl]
  simp [text, JsonKind.name]

theorem conforms_optionalText :
    conforms root (steps + 1) (toJson optionalText) value ↔
      value = .null ∨ ∃ content, value = .str content := by
  rw [conforms_of_plain optionalText rfl]
  simp [optionalText, JsonKind.name, or_comm]

theorem conforms_truth :
    conforms root (steps + 1) (toJson truth) value ↔ ∃ flag, value = .bool flag := by
  rw [conforms_of_plain truth rfl]
  simp [truth, JsonKind.name]

theorem conforms_word :
    conforms root (steps + 1) (toJson (word name)) value ↔ value = .str name := by
  rw [conforms_of_plain (word name) rfl]
  simp only [word, List.all_cons, holds_type, holds_const, List.all_nil, Bool.and_true,
    Bool.and_eq_true, isWord_str, List.any_cons, List.any_nil, Bool.or_false, JsonKind.name,
    isOfKind_string]
  exact ⟨And.right, fun hvalue => ⟨⟨name, hvalue⟩, hvalue⟩⟩

theorem conforms_words {names : List String} :
    conforms root (steps + 1) (toJson (words names)) value ↔
      ∃ word ∈ names, value = .str word := by
  rw [conforms_of_plain (words names) rfl]
  simp only [words, List.all_cons, holds_type, holds_enum, List.all_nil, Bool.and_true,
    Bool.and_eq_true, List.any_eq_true, isWord_str, List.any_cons, List.any_nil, Bool.or_false,
    JsonKind.name, isOfKind_string]
  exact ⟨And.right, fun hvalue => ⟨hvalue.imp fun _ h => h.2, hvalue⟩⟩

theorem conforms_unsigned (width : String) (n : Nat) :
    conforms root (steps + 1) (toJson (unsigned width)) (.nat n) := by
  rw [conforms_of_plain (unsigned width) rfl]
  simp [unsigned, JsonKind.name, isOfKind, Json.nat, isAtLeast]

theorem conforms_optionalUnsigned (width : String) (n : Nat) :
    conforms root (steps + 1) (toJson [.type [.integer, .null], .format width, .minimum 0])
      (.nat n) := by
  rw [conforms_of_plain [.type [.integer, .null], .format width, .minimum 0] rfl]
  simp [JsonKind.name, isOfKind, Json.nat, isAtLeast]

/-! ## Definitions -/

theorem conforms_alsoDefined :
    conforms root (steps + 1) (toJson (alsoDefined name)) value =
      conforms root steps (toJson (defined name)) value := by
  rw [conforms_of_plain (alsoDefined name) rfl]
  simp [alsoDefined]

theorem conforms_optional :
    conforms root (steps + 1) (toJson (optional name)) value ↔
      conforms root steps (toJson (defined name)) value ∨ 0 < steps ∧ value = .null := by
  rw [conforms_of_plain (optional name) rfl]
  cases steps with
  | zero => simp [optional]
  | succ steps => simp [optional, conforms_of_plain [.type [.null]] rfl, JsonKind.name]

/-! ## Lists -/

theorem conforms_list {item : Schema} :
    conforms root (steps + 1) (toJson (list item)) value ↔
      ∃ items, value = .arr items ∧ ∀ x ∈ items, conforms root steps (toJson item) x := by
  rw [conforms_of_plain (list item) rfl]
  simp only [list, List.all_cons, holds_type, holds_items, List.all_nil, Bool.and_true,
    Bool.and_eq_true, List.any_cons, List.any_nil, Bool.or_false, JsonKind.name, isOfKind_array,
    List.all_eq_true]
  constructor
  · rintro ⟨⟨items, rfl⟩, hitems⟩
    exact ⟨items, rfl, hitems⟩
  · rintro ⟨items, rfl, hitems⟩
    exact ⟨⟨items, rfl⟩, hitems⟩

theorem conforms_optionalList {item : Schema} :
    conforms root (steps + 1) (toJson [.type [.array, .null], .items item]) value ↔
      value = .null ∨ ∃ items, value = .arr items ∧
        ∀ x ∈ items, conforms root steps (toJson item) x := by
  rw [conforms_of_plain [.type [.array, .null], .items item] rfl]
  simp only [List.all_cons, holds_type, holds_items, List.all_nil, Bool.and_true, Bool.and_eq_true,
    List.any_cons, List.any_nil, Bool.or_false, Bool.or_eq_true, JsonKind.name, isOfKind_array,
    isOfKind_null, List.all_eq_true]
  constructor
  · rintro ⟨⟨items, rfl⟩ | rfl, hitems⟩
    · exact .inr ⟨items, rfl, hitems⟩
    · exact .inl rfl
  · rintro (rfl | ⟨items, rfl, hitems⟩)
    · exact ⟨.inr rfl, by simp [itemsOf]⟩
    · exact ⟨.inl ⟨items, rfl⟩, hitems⟩

/-! ## Records -/

theorem plain_record (fields : List Field) : Plain (record fields) := by
  unfold record Plain
  dsimp only
  split <;> rfl

/-- What a record says of the parts of an object: each part that is there is what its field says,
and those that have to be there are. -/
def Fits (test : Schema → Json → Prop) (fields : List Field) (parts : List (String × Json)) :
    Prop :=
  ∀ field ∈ fields, (∀ x ∈ valuesOf field.name parts, test field.schema x) ∧
    (field.needed → valuesOf field.name parts ≠ [])

theorem conforms_record {fields : List Field} :
    conforms root (steps + 1) (toJson (record fields)) value ↔
      ∃ parts, value = .obj parts ∧
        Fits (fun schema x => conforms root steps (toJson schema) x) fields parts := by
  have hrequired : ∀ {siblings parts},
      (if ((fields.filter Field.needed).map Field.name).isEmpty then [] else
        [Keyword.required ((fields.filter Field.needed).map Field.name)]).all
          (fun keyword => holds (conforms root steps) siblings keyword (.obj parts)) ↔
        ∀ field ∈ fields, field.needed → valuesOf field.name parts ≠ [] := by
    intro siblings parts
    have hall : ((fields.filter Field.needed).map Field.name).all
        (fun name => !(valuesOf name parts).isEmpty) ↔
        ∀ field ∈ fields, field.needed → valuesOf field.name parts ≠ [] := by
      simp [List.all_map, imp_iff_not_or]
    rw [← hall]
    cases hnames : (fields.filter Field.needed).map Field.name with
    | nil => simp
    | cons name rest => simp
  rw [conforms_of_plain _ (plain_record fields), record, List.all_cons, List.all_cons]
  simp only [Bool.and_eq_true, holds_type, holds_properties, List.any_cons, List.any_nil,
    Bool.or_false, JsonKind.name, isOfKind_object]
  constructor
  · rintro ⟨⟨parts, rfl⟩, hproperties, hneeded⟩
    rw [hrequired] at hneeded
    simp only [List.all_map, List.all_eq_true, Function.comp_def, fieldsOf] at hproperties
    exact ⟨parts, rfl, fun field hfield => ⟨hproperties field hfield, hneeded field hfield⟩⟩
  · rintro ⟨parts, rfl, hfits⟩
    refine ⟨⟨parts, rfl⟩, ?_, hrequired.mpr fun field hfield => (hfits field hfield).2⟩
    simp only [List.all_map, List.all_eq_true, Function.comp_def, fieldsOf]
    exact fun field hfield => (hfits field hfield).1

/-- A schema beside which a definition stands. -/
theorem conforms_statementOf {type : String} :
    conforms root (steps + 1) (toJson (statementOf type name)) value ↔
      conforms root (steps + 1) (toJson (variant "type" type [])) value ∧
        conforms root steps (toJson (defined name)) value := by
  rw [conforms_of_plain (statementOf type name) rfl, conforms_of_plain (variant "type" type []) rfl]
  -- of the keywords that both schemas have, none depends on the others
  have hrequired : ∀ siblings,
      holds (conforms root steps) siblings (.required ["type"]) value =
        holds (conforms root steps) [] (.required ["type"]) value := fun _ => rfl
  simp [statementOf, variant, record, alsoDefined, need, and_assoc, hrequired]

/-- An object whose fields all hold the same kind of value. -/
theorem conforms_entries {item : Schema} {parts : List (String × Json)} :
    conforms root (steps + 1) (toJson [.type [.object], .additionalProperties item]) (.obj parts) ↔
      ∀ part ∈ parts, conforms root steps (toJson item) part.2 := by
  rw [conforms_of_plain [.type [.object], .additionalProperties item] rfl]
  simp [holds_additionalProperties, fields, keywordField, JsonKind.name, fieldsOf]

/-! ## Choices -/

/-- A schema that only values with a certain key conform to. -/
def Pins (root : Json) (key : Json → Option String) (word : String) (schema : Schema) : Prop :=
  ∀ steps value, conforms root steps (toJson schema) value → key value = some word

/-- No more schemas hold than there are words that are the key. -/
theorem countP_conforms_le {key : Json → Option String} {words : List String}
    {schemas : List Schema} (hpins : List.Forall₂ (Pins root key) words schemas) (steps : Nat)
    (value : Json) :
    schemas.countP (fun schema => conforms root steps (toJson schema) value) ≤
      words.countP (fun word => some word == key value) := by
  induction hpins with
  | nil => exact Nat.le_refl 0
  | @cons word schema words schemas hpin hrest ih =>
    rw [List.countP_cons, List.countP_cons]
    by_cases hconforms : conforms root steps (toJson schema) value
    · have hword : (some word == key value) = true := by
        rw [hpin steps value hconforms]
        exact beq_self_eq_true _
      rw [if_pos hconforms, if_pos hword]
      exact Nat.add_le_add_right ih 1
    · rw [if_neg hconforms]
      exact Nat.le_add_right_of_le ih

/-- Exactly one of several schemas with different keys holds if any does. -/
theorem conforms_oneOf {key : Json → Option String} {words : List String} {schemas : List Schema}
    (hpins : List.Forall₂ (Pins root key) words schemas) (hwords : words.Nodup) :
    conforms root (steps + 1) (toJson [.oneOf schemas]) value ↔
      ∃ schema ∈ schemas, conforms root steps (toJson schema) value := by
  have hkey : words.countP (fun word => some word == key value) ≤ 1 := by
    cases hvalue : key value with
    | none => simp
    | some word =>
      have hcount := List.nodup_iff_count_le_one.mp hwords word
      rw [List.count] at hcount
      simpa using hcount
  have hmost := Nat.le_trans (countP_conforms_le hpins steps value) hkey
  have hone : schemas.countP (fun schema => conforms root steps (toJson schema) value) = 1 ↔
      ∃ schema ∈ schemas, conforms root steps (toJson schema) value := by
    rw [← List.countP_pos_iff]
    omega
  rw [conforms_of_plain [.oneOf schemas] rfl, List.all_cons, holds_oneOf, List.all_nil,
    Bool.and_true, decide_eq_true_eq]
  exact hone

/-- The word that a tag of an object holds. -/
def tagOf (tag : String) (value : Json) : Option String :=
  (valuesOf tag (fieldsOf value)).head?.bind textOf

/-- The schemas of which a value has to meet exactly one. -/
def alternatives : Schema → List Schema
  | [] => []
  | .oneOf schemas :: _ => schemas
  | _ :: rest => alternatives rest

variable {key : Json → Option String} {word tag : String}

theorem pins_describe {about : String} (hpins : Pins root key word schema) :
    Pins root key word (describe about schema) := by
  intro steps value hconforms
  rw [conforms_describe] at hconforms
  exact hpins steps value hconforms

theorem pins_word : Pins root textOf word (Schema.word word) := by
  intro steps value hconforms
  cases steps with
  | zero => cases hconforms
  | succ steps =>
    rw [conforms_word] at hconforms
    rw [hconforms]
    rfl

/-- A choice among words, whatever is told of them. -/
theorem conforms_describedWords {choices : List (String × String)}
    (hwords : (choices.map Prod.fst).Nodup) :
    conforms root (steps + 1) (toJson (describedWords choices)) value ↔
      0 < steps ∧ ∃ choice ∈ choices, value = .str choice.1 := by
  have hpins : List.Forall₂ (Pins root textOf) (choices.map Prod.fst)
      (choices.map fun choice => describe choice.2 (Schema.word choice.1)) := by
    rw [List.forall₂_map_left_iff, List.forall₂_map_right_iff, List.forall₂_same]
    exact fun choice _ => pins_describe pins_word
  have hschema : describedWords choices =
      [.oneOf (choices.map fun choice => describe choice.2 (Schema.word choice.1))] := rfl
  rw [hschema, conforms_oneOf hpins hwords]
  cases steps with
  | zero => simp
  | succ steps => simp [conforms_word]

theorem pins_variant {fields : List Field} :
    Pins root (tagOf tag) word (variant tag word fields) := by
  intro steps value hconforms
  cases steps with
  | zero => cases hconforms
  | succ steps =>
    obtain ⟨parts, rfl, hfits⟩ := conforms_record.mp hconforms
    obtain ⟨htag, hneeded⟩ := hfits (need tag (Schema.word word)) List.mem_cons_self
    obtain ⟨first, rest, hvalues⟩ := List.exists_cons_of_ne_nil (hneeded rfl)
    have hfirst := htag first (by rw [show valuesOf _ _ = _ from hvalues]; exact List.mem_cons_self)
    have hword : textOf first = some word := pins_word steps first hfirst
    rw [tagOf, fieldsOf, show valuesOf tag parts = _ from hvalues]
    exact hword

theorem pins_statementOf : Pins root (tagOf "type") word (statementOf word name) := by
  intro steps value hconforms
  cases steps with
  | zero => cases hconforms
  | succ steps => exact pins_variant _ value (conforms_statementOf.mp hconforms).1

/-! ## The choices of statements -/

theorem conforms_expression :
    conforms root (steps + 1) (toJson expression) value ↔
      ∃ form ∈ alternatives expression, conforms root steps (toJson form) value := by
  have hpins : List.Forall₂ (Pins root (tagOf "type")) ["column_ref", "binary", "other"]
      (alternatives expression) :=
    .cons (pins_describe pins_variant) (.cons pins_variant (.cons pins_variant .nil))
  rw [expression, conforms_describe]
  exact conforms_oneOf hpins (by decide)

theorem conforms_tableSource :
    conforms root (steps + 1) (toJson tableSource) value ↔
      ∃ form ∈ alternatives tableSource, conforms root steps (toJson form) value := by
  have hpins : List.Forall₂ (Pins root (tagOf "kind")) ["table", "subquery"]
      (alternatives tableSource) :=
    .cons pins_variant (.cons pins_variant .nil)
  exact conforms_oneOf hpins (by decide)

theorem conforms_insertSource :
    conforms root (steps + 1) (toJson insertSource) value ↔
      ∃ form ∈ alternatives insertSource, conforms root steps (toJson form) value := by
  have hpins : List.Forall₂ (Pins root (tagOf "kind")) ["values", "query", "default_values"]
      (alternatives insertSource) :=
    .cons pins_variant (.cons pins_variant (.cons pins_variant .nil))
  exact conforms_oneOf hpins (by decide)

theorem conforms_statement :
    conforms root (steps + 1) (toJson statement) value ↔
      ∃ form ∈ alternatives statement, conforms root steps (toJson form) value := by
  have hpins : List.Forall₂ (Pins root (tagOf "type"))
      ["select", "insert", "update", "delete", "create_table", "create_view", "alter_table",
        "unsupported"] (alternatives statement) :=
    .cons pins_statementOf <| .cons pins_statementOf <| .cons pins_statementOf <|
      .cons pins_statementOf <| .cons pins_statementOf <| .cons pins_statementOf <|
      .cons pins_statementOf <| .cons (pins_describe pins_variant) .nil
  rw [statement, conforms_describe]
  exact conforms_oneOf hpins (by decide)

end SqlLineage.Schema
