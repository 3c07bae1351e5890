import Mathlib.Order.Filter.AtTopBot.Basic
import Mathlib.Order.Filter.Finite
import SqlLineage.Proofs.Json.Fields
import SqlLineage.Schema

/-!
# Validation

What it means for a value to validate against a schema that is written as JSON.  The keywords that
the published schemas use restrict a value; all others describe it.  A reference stands for the
definition that it names, and nothing else counts in a schema that has one.

Schemas refer to each other in circles, so validation takes a number of steps.  A value that uses
them up does not validate, which could make one of two alternatives the only one: so a value
validates only if it does for every number of steps that is large enough.
-/

namespace SqlLineage.Schema

open Json (valuesOf)

/-- The fields of an object. -/
def fieldsOf : Json → List (String × Json)
  | .obj fields => fields
  | _ => []

/-- The items of a list. -/
def itemsOf : Json → List Json
  | .arr items => items
  | _ => []

/-- The text that a value is. -/
def textOf : Json → Option String
  | .str text => some text
  | _ => none

/-- Whether a value is of a kind.  A real without a fraction is an integer too. -/
def isOfKind (kind : String) : Json → Bool
  | .null => kind == "null"
  | .bool _ => kind == "boolean"
  | .num (.int _) => kind == "integer" || kind == "number"
  | .num (.real value) => kind == "number" || (kind == "integer" && value == value.floor)
  | .str _ => kind == "string"
  | .arr _ => kind == "array"
  | .obj _ => kind == "object"

/-- Whether a value is that word.  Nothing else stands for itself in the schemas. -/
def isWord : Json → Json → Bool
  | .str word, .str value => word == value
  | _, _ => false

/-- Whether a value is no number below a bound. -/
def isAtLeast (bound : Int) : Json → Bool
  | .num (.int value) => bound ≤ value
  | .num (.real value) => Float.ofInt bound ≤ value
  | _ => true

/-- Whether a value meets a keyword of a schema, given how it is checked against the schemas inside.
All keywords of the schema are there, since one of them depends on another. -/
def meets (check : Json → Json → Bool) (keywords : List (String × Json)) (name : String)
    (argument value : Json) : Bool :=
  match name with
  | "type" =>
    match argument with
    | .str kind => isOfKind kind value
    | kinds => (itemsOf kinds).any (fun kind => (textOf kind).any (isOfKind · value))
  | "enum" => (itemsOf argument).any (isWord · value)
  | "const" => isWord argument value
  | "minimum" =>
    match argument with
    | .num (.int bound) => isAtLeast bound value
    | _ => false
  | "properties" =>
    (fieldsOf argument).all (fun property =>
      (valuesOf property.1 (fieldsOf value)).all (check property.2))
  | "required" =>
    match value with
    | .obj fields =>
      (itemsOf argument).all (fun name =>
        (textOf name).any (fun name => !(valuesOf name fields).isEmpty))
    | _ => true
  | "additionalProperties" =>
    let named := (valuesOf "properties" keywords).flatMap (fun properties =>
      (fieldsOf properties).map Prod.fst)
    (fieldsOf value).all (fun field => named.contains field.1 || check argument field.2)
  | "items" => (itemsOf value).all (check argument)
  | "allOf" => (itemsOf argument).all (check · value)
  | "anyOf" => (itemsOf argument).any (check · value)
  | "oneOf" => (itemsOf argument).countP (check · value) = 1
  | _ => true

/-- What a reference within a document stands for. -/
def definition? (root : Json) (reference : String) : Option Json :=
  (((valuesOf "definitions" (fieldsOf root)).flatMap fieldsOf).find?
    (fun definition => refPath definition.1 == reference)).map (·.2)

/-- Whether a value is found to conform to a schema within a number of steps. -/
def conforms (root : Json) : Nat → Json → Json → Bool
  | 0, _, _ => false
  | steps + 1, schema, value =>
    match schema with
    | .bool holds => holds
    | .obj keywords =>
      match valuesOf "$ref" keywords with
      | .str reference :: _ => (definition? root reference).any (conforms root steps · value)
      | _ => keywords.all (fun keyword =>
          meets (conforms root steps) keywords keyword.1 keyword.2 value)
    | _ => false

/-- A value validates against a schema of a document. -/
def Validates (root schema value : Json) : Prop :=
  ∀ᶠ steps in Filter.atTop, conforms root steps schema value

/-! ## Keywords as they are written -/

section Writing

theorem fields_eq_map (schema : Schema) : fields schema = schema.map keywordField := by
  induction schema with
  | nil => rfl
  | cons keyword rest ih => rw [fields, ih, List.map_cons]

theorem namedFields_eq_map (schemas : List (String × Schema)) :
    namedFields schemas = schemas.map (fun schema => (schema.1, toJson schema.2)) := by
  induction schemas with
  | nil => rfl
  | cons schema rest ih => rw [namedFields, ih, List.map_cons, toJson]

theorem objects_eq_map (schemas : List Schema) : objects schemas = schemas.map toJson := by
  induction schemas with
  | nil => rfl
  | cons schema rest ih => rw [objects, ih, List.map_cons, toJson]

theorem refPath_inj {first second : String} : refPath first = refPath second ↔ first = second := by
  rw [refPath, refPath, String.append_right_inj]

/-- A schema without a reference, whose keywords all count. -/
def Plain (schema : Schema) : Prop :=
  valuesOf "$ref" (fields schema) = []

end Writing

/-- Whether a value meets a keyword, in a schema with those fields. -/
def holds (check : Json → Json → Bool) (siblings : List (String × Json)) (keyword : Keyword)
    (value : Json) : Bool :=
  meets check siblings (keywordField keyword).1 (keywordField keyword).2 value

section Keywords

variable {check : Json → Json → Bool} {siblings : List (String × Json)} {value : Json}

@[simp]
theorem holds_description (text : String) :
    holds check siblings (.description text) value = true := rfl

@[simp]
theorem holds_default (fallback : Json) :
    holds check siblings (.default fallback) value = true := rfl

@[simp]
theorem holds_format (width : String) : holds check siblings (.format width) value = true := rfl

@[simp]
theorem holds_type (kinds : List JsonKind) :
    holds check siblings (.type kinds) value =
      kinds.any (fun kind => isOfKind kind.name value) := by
  have hlist : ∀ kinds : List JsonKind,
      (itemsOf (wordList (kinds.map JsonKind.name))).any
        (fun kind => (textOf kind).any (isOfKind · value)) =
      kinds.any (fun kind => isOfKind kind.name value) := by
    intro kinds
    simp [wordList, itemsOf, textOf, List.any_map, Function.comp_def]
  match kinds with
  | [kind] => simp [holds, keywordField, meets]
  | [] => exact hlist []
  | first :: second :: rest => exact hlist (first :: second :: rest)

@[simp]
theorem holds_enum (words : List String) :
    holds check siblings (.enum words) value =
      words.any (fun word => isWord (.str word) value) := by
  simp [holds, keywordField, meets, wordList, itemsOf, List.any_map, Function.comp_def]

@[simp]
theorem holds_const (word : String) :
    holds check siblings (.const word) value = isWord (.str word) value := rfl

@[simp]
theorem holds_minimum (bound : Nat) :
    holds check siblings (.minimum bound) value = isAtLeast bound value := rfl

@[simp]
theorem holds_properties (properties : List (String × Schema)) :
    holds check siblings (.properties properties) value =
      properties.all (fun property =>
        (valuesOf property.1 (fieldsOf value)).all (check (toJson property.2))) := by
  simp [holds, keywordField, meets, namedFields_eq_map, fieldsOf, List.all_map, Function.comp_def]

@[simp]
theorem holds_required (names : List String) (parts : List (String × Json)) :
    holds check siblings (.required names) (.obj parts) =
      names.all (fun name => !(valuesOf name parts).isEmpty) := by
  simp [holds, keywordField, meets, wordList, itemsOf, textOf, List.all_map, Function.comp_def]

@[simp]
theorem holds_items (item : Schema) :
    holds check siblings (.items item) value = (itemsOf value).all (check (toJson item)) := rfl

@[simp]
theorem holds_allOf (schemas : List Schema) :
    holds check siblings (.allOf schemas) value =
      schemas.all (fun schema => check (toJson schema) value) := by
  simp [holds, keywordField, meets, objects_eq_map, itemsOf, List.all_map, Function.comp_def]

@[simp]
theorem holds_anyOf (schemas : List Schema) :
    holds check siblings (.anyOf schemas) value =
      schemas.any (fun schema => check (toJson schema) value) := by
  simp [holds, keywordField, meets, objects_eq_map, itemsOf, List.any_map, Function.comp_def]

@[simp]
theorem holds_oneOf (schemas : List Schema) :
    holds check siblings (.oneOf schemas) value =
      decide (schemas.countP (fun schema => check (toJson schema) value) = 1) := by
  simp [holds, keywordField, meets, objects_eq_map, itemsOf, List.countP_map, Function.comp_def]

/-- Where no other keyword names fields, all of them hold what is left over. -/
theorem holds_additionalProperties (schema : Schema)
    (hnone : valuesOf "properties" siblings = []) :
    holds check siblings (.additionalProperties schema) value =
      (fieldsOf value).all (fun field => check (toJson schema) field.2) := by
  simp [holds, keywordField, meets, hnone, toJson]

end Keywords

/-! ## Steps -/

section Steps

variable {root value : Json} {steps : Nat} {schema : Schema} {name : String}

@[simp]
theorem conforms_zero (schema : Json) : conforms root 0 schema value = false := rfl

theorem conforms_of_plain (schema : Schema) (hplain : Plain schema) :
    conforms root (steps + 1) (toJson schema) value =
      schema.all (fun keyword =>
        holds (conforms root steps) (fields schema) keyword value) := by
  rw [toJson, conforms, hplain, fields_eq_map, List.all_map]
  rfl

theorem conforms_defined :
    conforms root (steps + 1) (toJson (defined name)) value =
      (definition? root (refPath name)).any (conforms root steps · value) :=
  rfl

/-- A field that only tells something about a schema. -/
def IsNote (name : String) : Prop :=
  name ≠ "$ref" ∧ name ≠ "properties" ∧
    ∀ check keywords argument value, meets check keywords name argument value = true

theorem meets_note {check : Json → Json → Bool} {note : String} (hnote : note ≠ "properties")
    (argument : Json) (before after : List (String × Json)) (inner : Json) :
    meets check (before ++ (note, argument) :: after) name inner value =
      meets check (before ++ after) name inner value := by
  have hsame : valuesOf "properties" (before ++ (note, argument) :: after) =
      valuesOf "properties" (before ++ after) := by
    simp [hnote]
  unfold meets
  rw [hsame]

/-- A note changes nothing. -/
theorem conforms_note {note : String} (hnote : IsNote note) (argument : Json)
    (before after : List (String × Json)) :
    conforms root steps (.obj (before ++ (note, argument) :: after)) value =
      conforms root steps (.obj (before ++ after)) value := by
  obtain ⟨href, hproperties, htrue⟩ := hnote
  cases steps with
  | zero => rfl
  | succ steps =>
    have hsame : valuesOf "$ref" (before ++ (note, argument) :: after) =
        valuesOf "$ref" (before ++ after) := by
      simp [href]
    simp only [conforms, hsame, meets_note hproperties]
    simp [List.all_append, List.all_cons, htrue]

theorem isNote_description : IsNote "description" :=
  ⟨by decide, by decide, fun _ _ _ _ => rfl⟩

theorem isNote_default : IsNote "default" :=
  ⟨by decide, by decide, fun _ _ _ _ => rfl⟩

@[simp]
theorem conforms_describe (text : String) :
    conforms root steps (toJson (describe text schema)) value =
      conforms root steps (toJson schema) value :=
  conforms_note isNote_description (.str text) [] (fields schema)

@[simp]
theorem conforms_default (fallback : Json) :
    conforms root steps (toJson (.default fallback :: schema)) value =
      conforms root steps (toJson schema) value :=
  conforms_note isNote_default fallback [] (fields schema)

@[simp]
theorem conforms_orDefault (fallback : Json) :
    conforms root steps (toJson (orDefault fallback schema)) value =
      conforms root steps (toJson schema) value := by
  have hnote : conforms root steps (.obj (fields schema ++ [("default", fallback)])) value =
      conforms root steps (.obj (fields schema ++ [])) value :=
    conforms_note isNote_default fallback (fields schema) []
  rw [List.append_nil] at hnote
  rw [toJson, orDefault, fields_eq_map, List.map_append, ← fields_eq_map]
  exact hnote

end Steps

/-! ## Documents -/

section Documents

variable (document : SchemaDocument) {value : Json} {name : String}

theorem keywordField_ne_definitions (keyword : Keyword) :
    (keywordField keyword).1 ≠ "definitions" := by
  unfold keywordField
  split <;> simp

theorem valuesOf_definitions_fields (schema : Schema) :
    valuesOf "definitions" (fields schema) = [] := by
  simp [valuesOf, fields_eq_map, keywordField_ne_definitions]

theorem find?_namedFields (schemas : List (String × Schema)) (name : String) :
    ((namedFields schemas).find?
      (fun definition => refPath definition.1 == refPath name)).map (·.2) =
      (schemas.lookup name).map toJson := by
  induction schemas with
  | nil => rfl
  | cons schema rest ih =>
    obtain ⟨other, body⟩ := schema
    rw [namedFields, List.find?_cons, List.lookup_cons]
    by_cases hname : name = other
    · simp [hname, toJson]
    · have hpath : (refPath other == refPath name) = false := by
        simpa [refPath_inj] using Ne.symm hname
      rw [beq_eq_false_iff_ne.mpr hname, hpath]
      exact ih

/-- A reference in a document stands for the definition of that name. -/
theorem definition?_document :
    definition? document.toJson (refPath name) =
      (document.definitions.lookup name).map toJson := by
  have hdefinitions : valuesOf "definitions" (fieldsOf document.toJson) =
      [.obj (namedFields document.definitions)] := by
    simp [SchemaDocument.toJson, fieldsOf, valuesOf_definitions_fields]
  rw [definition?, hdefinitions, List.flatMap_singleton, fieldsOf, find?_namedFields]

/-- A document says nothing of a value but what its body says. -/
theorem conforms_document (root : Json) (steps : Nat) :
    conforms root steps document.toJson value =
      conforms root steps (toJson document.body) value := by
  have hschema : IsNote "$schema" := ⟨by decide, by decide, fun _ _ _ _ => rfl⟩
  have htitle : IsNote "title" := ⟨by decide, by decide, fun _ _ _ _ => rfl⟩
  have hdefinitions : IsNote "definitions" := ⟨by decide, by decide, fun _ _ _ _ => rfl⟩
  calc conforms root steps document.toJson value
    _ = conforms root steps (.obj (("title", .str document.title) ::
          (fields document.body ++ [("definitions", .obj (namedFields document.definitions))])))
          value := conforms_note hschema _ [] _
    _ = conforms root steps (.obj (fields document.body ++
          [("definitions", .obj (namedFields document.definitions))])) value :=
        conforms_note htitle _ [] _
    _ = conforms root steps (.obj (fields document.body ++ [])) value :=
        conforms_note hdefinitions _ _ []
    _ = conforms root steps (toJson document.body) value := by rw [List.append_nil, toJson]

end Documents

end SqlLineage.Schema
