import SqlLineage.Json.Value

/-!
# JSON schemas

A schema is a list of keywords, each of which describes a value or restricts it; a value has to meet
all of them.  A document is a schema with a title and the definitions that its references name.
-/

namespace SqlLineage

/-- A kind of JSON value. -/
inductive JsonKind where
  | null
  | boolean
  | integer
  | string
  | array
  | object
  deriving DecidableEq, Repr

/-- The word for a kind of value. -/
def JsonKind.name : JsonKind → String
  | .null => "null"
  | .boolean => "boolean"
  | .integer => "integer"
  | .string => "string"
  | .array => "array"
  | .object => "object"

/-- A part of a schema.  The schemas inside it are lists of keywords. -/
inductive Keyword where
  | description (text : String)
  | default (value : Json)
  /-- One of the kinds. -/
  | type (kinds : List JsonKind)
  /-- One of the words. -/
  | enum (words : List String)
  | const (word : String)
  /-- The width of a number, which restricts nothing. -/
  | format (name : String)
  | minimum (bound : Nat)
  /-- What fields hold, where they are there. -/
  | properties (fields : List (String × List Keyword))
  /-- The fields that have to be there. -/
  | required (names : List String)
  /-- What every field holds that `properties` does not name. -/
  | additionalProperties (schema : List Keyword)
  /-- What the items of a list are. -/
  | items (schema : List Keyword)
  /-- A definition of the document. -/
  | ref (name : String)
  | allOf (schemas : List (List Keyword))
  | anyOf (schemas : List (List Keyword))
  /-- Exactly one of the schemas. -/
  | oneOf (schemas : List (List Keyword))

/-- A schema. -/
abbrev Schema := List Keyword

namespace Schema

/-- The path of a definition within a document. -/
def refPath (name : String) : String :=
  "#/definitions/" ++ name

/-- Words as a JSON list. -/
def wordList (words : List String) : Json :=
  .arr (words.map Json.str)

mutual

/-- A keyword as a field. -/
def keywordField : Keyword → String × Json
  | .description text => ("description", .str text)
  | .default value => ("default", value)
  | .type [kind] => ("type", .str kind.name)
  | .type kinds => ("type", wordList (kinds.map JsonKind.name))
  | .enum words => ("enum", wordList words)
  | .const word => ("const", .str word)
  | .format name => ("format", .str name)
  | .minimum bound => ("minimum", .nat bound)
  | .properties fields => ("properties", .obj (namedFields fields))
  | .required names => ("required", wordList names)
  | .additionalProperties schema => ("additionalProperties", .obj (fields schema))
  | .items schema => ("items", .obj (fields schema))
  | .ref name => ("$ref", .str (refPath name))
  | .allOf schemas => ("allOf", .arr (objects schemas))
  | .anyOf schemas => ("anyOf", .arr (objects schemas))
  | .oneOf schemas => ("oneOf", .arr (objects schemas))

/-- The keywords of a schema as fields. -/
def fields : List Keyword → List (String × Json)
  | [] => []
  | keyword :: rest => keywordField keyword :: fields rest

/-- Named schemas as fields. -/
def namedFields : List (String × List Keyword) → List (String × Json)
  | [] => []
  | (name, schema) :: rest => (name, .obj (fields schema)) :: namedFields rest

/-- Schemas as objects. -/
def objects : List (List Keyword) → List Json
  | [] => []
  | schema :: rest => .obj (fields schema) :: objects rest

end

/-- A schema as JSON. -/
def toJson (schema : Schema) : Json :=
  .obj (fields schema)

/-- A text. -/
def text : Schema :=
  [.type [.string]]

/-- A text or nothing. -/
def optionalText : Schema :=
  [.type [.string, .null]]

/-- A truth value. -/
def truth : Schema :=
  [.type [.boolean]]

/-- A non-negative integer of a width. -/
def unsigned (width : String) : Schema :=
  [.type [.integer], .format width, .minimum 0]

/-- One word. -/
def word (name : String) : Schema :=
  [.type [.string], .const name]

/-- One of several words. -/
def words (names : List String) : Schema :=
  [.type [.string], .enum names]

/-- One of several words, each with a description. -/
def describedWords (choices : List (String × String)) : Schema :=
  [.oneOf (choices.map (fun (name, meaning) => .description meaning :: word name))]

/-- A definition of the document. -/
def defined (name : String) : Schema :=
  [.ref name]

/-- A definition, in a form that other keywords can stand beside. -/
def alsoDefined (name : String) : Schema :=
  [.allOf [defined name]]

/-- A definition or nothing. -/
def optional (name : String) : Schema :=
  [.anyOf [defined name, [.type [.null]]]]

/-- A list. -/
def list (item : Schema) : Schema :=
  [.type [.array], .items item]

/-- A field of an object. -/
structure Field where
  name : String
  schema : Schema
  /-- Whether it has to be there. -/
  needed : Bool

/-- A field that has to be there. -/
def need (name : String) (schema : Schema) : Field :=
  ⟨name, schema, true⟩

/-- A field that may be left out. -/
def may (name : String) (schema : Schema) : Field :=
  ⟨name, schema, false⟩

/-- An object with those fields. -/
def record (fields : List Field) : Schema :=
  let required := (fields.filter Field.needed).map Field.name
  .type [.object] :: .properties (fields.map (fun field => (field.name, field.schema)))
    :: (if required.isEmpty then [] else [.required required])

/-- An object whose field `tag` holds that word. -/
def variant (tag name : String) (fields : List Field) : Schema :=
  record (need tag (word name) :: fields)

/-- A schema with a description. -/
def describe (text : String) (schema : Schema) : Schema :=
  .description text :: schema

/-- A schema with the value that an absent field stands for. -/
def orDefault (value : Json) (schema : Schema) : Schema :=
  schema ++ [.default value]

end Schema

/-- A schema on its own. -/
structure SchemaDocument where
  title : String
  body : Schema
  definitions : List (String × Schema)

/-- The draft of the schema language that documents are written in. -/
def SchemaDocument.draft : String :=
  "http:" ++ "//json-schema.org/draft-07/schema#"

/-- A document as JSON; its description stands before everything but the title. -/
def SchemaDocument.toJson (document : SchemaDocument) : Json :=
  .obj (("$schema", .str draft) :: ("title", .str document.title)
    :: (Schema.fields document.body
      ++ [("definitions", .obj (Schema.namedFields document.definitions))]))

end SqlLineage
