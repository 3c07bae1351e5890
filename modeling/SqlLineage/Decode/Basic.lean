import SqlLineage.Decimal.Shortest
import SqlLineage.Json.Reading

/-!
# Decoding JSON values

A decoder takes a value to a domain type or says what is wrong and where.  The place is the list of
child indices from the root, so that a fault found in a text can be given its line and column
afterwards.  Within one value the fault that stands first is the one reported.
-/

namespace SqlLineage.Decode

/-- What a decoder found, in the words of an error. -/
inductive Found where
  | null
  | bool (value : Bool)
  | num (value : JsonNumber)
  /-- An integer of more than 64 bits. -/
  | wide (value : Int)
  | str (value : String)
  | list
  | object

/-- The kind of a value. -/
def Found.of : Json → Found
  | .null => .null
  | .bool value => .bool value
  | .num value => .num value
  | .str value => .str value
  | .arr _ => .list
  | .obj _ => .object

/-- A character inside a quoted word of an error. -/
def showChar (c : Char) : List Char :=
  if c = '"' then ['\\', '"']
  else if c = '\\' then ['\\', '\\']
  else if c = '\n' then ['\\', 'n']
  else if c = '\r' then ['\\', 'r']
  else if c = '\t' then ['\\', 't']
  else if c = '\x00' then ['\\', '0']
  else if c.toNat < 0x20 ∨ (0x7f ≤ c.toNat ∧ c.toNat < 0xa0) then
    ['\\', 'u', '{'] ++ Nat.toDigits 16 c.toNat ++ ['}']
  else [c]

/-- Text between quotes, with the unprintable characters spelled out. -/
def showText (text : String) : String :=
  String.ofList ('"' :: text.toList.flatMap showChar ++ ['"'])

/-- A real in the words of an error. -/
def showReal (value : Float) : String :=
  if value.isNaN then "NaN"
  else if value.isInf then (if value < 0 then "-inf" else "inf")
  else Decimal.text value

/-- The words for what was found. -/
def Found.message : Found → String
  | .null => "null"
  | .bool value => s!"boolean `{value}`"
  | .num (.int value) => s!"integer `{value}`"
  | .num (.real value) => s!"floating point `{showReal value}`"
  | .wide value =>
    let width := if value < Int.pow 2 127 then "i128" else "u128"
    s!"integer `{value}` as {width}"
  | .str value => "string " ++ showText value
  | .list => "sequence"
  | .object => "map"

/-- What is wrong with a value. -/
inductive Cause where
  | invalidType (found : Found) (expected : String)
  | invalidValue (found : Found) (expected : String)
  | missingField (name : String)
  | duplicateField (name : String)
  | unknownField (name : String) (known : List String)
  | unknownVariant (name : String) (known : List String)
  /-- A list ended before the field at `length`. -/
  | tooShort (length : Nat) (expected : String)
  /-- A list of `length` items where `wanted` were. -/
  | tooLong (length wanted : Nat)
  /-- Neither a word nor an object where a choice is named. -/
  | notAChoice (found : Found)
  /-- A choice named by an object with other than one field. -/
  | choiceCount
  | noVariant (choice : String)

/-- How the decoded value came in, which decides the words of three causes. -/
inductive Style where
  /-- Fields of a value that was set aside whole before its kind was known. -/
  | buffered
  /-- A value on its own. -/
  | direct
  /-- A text that is decoded while it is read. -/
  | streamed
  deriving DecidableEq

/-- `1 element`, `2 elements`. -/
def countOf (noun : String) (n : Nat) : String :=
  if n = 1 then s!"{n} {noun}" else s!"{n} {noun}s"

/-- The known words, in the form an error lists them. -/
def listWords : List String → String
  | [] => "there are no variants"
  | [word] => s!"expected `{word}`"
  | [first, second] => s!"expected `{first}` or `{second}`"
  | words => "expected one of " ++ String.intercalate ", " (words.map (fun word => s!"`{word}`"))

/-- The words for a cause. -/
def Cause.message (style : Style) : Cause → String
  | .invalidType found expected => s!"invalid type: {found.message}, expected {expected}"
  | .invalidValue found expected => s!"invalid value: {found.message}, expected {expected}"
  | .missingField name => s!"missing field `{name}`"
  | .duplicateField name => s!"duplicate field `{name}`"
  | .unknownField name known => s!"unknown field `{name}`, {listWords known}"
  | .unknownVariant name known => s!"unknown variant `{name}`, {listWords known}"
  | .tooShort length expected => s!"invalid length {length}, expected {expected}"
  | .tooLong length wanted =>
    match style with
    | .buffered =>
      let wanted := countOf "element" wanted
      s!"invalid length {length}, expected {wanted} in sequence"
    | .direct => s!"invalid length {length}, expected fewer elements in array"
    | .streamed => "trailing characters"
  | .notAChoice found =>
    match style with
    | .streamed => "expected value"
    | _ => s!"invalid type: {found.message}, expected string or map"
  | .choiceCount =>
    match style with
    | .streamed => "expected value"
    | _ => "invalid value: map, expected map with a single key"
  | .noVariant choice => s!"data did not match any variant of untagged enum {choice}"

/-- Which offset of the value at fault is reported. -/
inductive Place where
  /-- Behind a leaf, in front of a container. -/
  | value
  /-- Behind the name of the field. -/
  | name
  /-- Behind the closing bracket of a container. -/
  | close
  /-- One byte into the value. -/
  | ahead
  deriving DecidableEq

/-- A fault of content. -/
structure Error where
  cause : Cause
  path : List Nat
  place : Place
  style : Style

/-- Decoders of a type. -/
abbrev Decoder (α : Type) := Style → Json → Except Error α

/-- A fault of the value itself. -/
def Error.here (style : Style) (cause : Cause) : Error :=
  let place : Place :=
    match cause with
    | .missingField _ | .tooShort .. | .noVariant _ => .close
    | .duplicateField _ | .unknownField .. => .name
    | .tooLong .. | .notAChoice _ => .ahead
    | _ => .value
  ⟨cause, [], place, style⟩

/-- A fault of the child at `index`. -/
def Error.under (index : Nat) (error : Error) : Error :=
  { error with path := index :: error.path }

/-- The words for a fault, without its position. -/
def Error.message (error : Error) : String :=
  error.cause.message error.style

/-- The value is of the wrong type. -/
def wrongType {α : Type} (style : Style) (value : Json) (expected : String) : Except Error α :=
  .error (.here style (.invalidType (.of value) expected))

/-- A string. -/
def string : Decoder String
  | _, .str value => .ok value
  | style, other => wrongType style other "a string"

/-- A truth value. -/
def bool : Decoder Bool
  | _, .bool value => .ok value
  | style, other => wrongType style other "a boolean"

/-- The unit value. -/
def unit : Decoder Unit
  | _, .null => .ok ()
  | style, other => wrongType style other "unit"

/-- An unsigned number of 64 bits, called `name` in errors. -/
def unsigned (name : String) : Decoder Nat
  | style, .num (.int value) =>
    if 0 ≤ value then .ok value.toNat
    else .error (.here style (.invalidValue (.num (.int value)) name))
  | style, other => wrongType style other name

/-- Nothing for `null`. -/
def nullable {α : Type} (item : Decoder α) : Decoder (Option α)
  | _, .null => .ok none
  | style, other => (item style other).map some

/-- Decodes items in order; the first one stands at `index`. -/
def itemsFrom {α : Type} (item : Json → Except Error α) :
    Nat → List Json → Except Error (List α)
  | _, [] => .ok []
  | index, value :: rest =>
    match item value with
    | .error error => .error (error.under index)
    | .ok first => (itemsFrom item (index + 1) rest).map (first :: ·)

/-- A list. -/
def list {α : Type} (item : Decoder α) : Decoder (List α)
  | style, .arr items => itemsFrom (item style) 0 items
  | style, other => wrongType style other "a sequence"

/-- A choice among words, each with its meaning; `extra` are accepted too and listed where they
stand.  The word may also be the only field of an object, with the unit value. -/
def word {α : Type} (choices : List (String × α)) : Decoder α
  | style, .str name =>
    match choices.lookup name with
    | some meaning => .ok meaning
    | none => .error (.here style (.unknownVariant name (choices.map (·.1))))
  | style, .obj [(name, value)] =>
    match choices.lookup name with
    | some meaning =>
      match unit style value with
      | .ok () => .ok meaning
      | .error error => .error (error.under 0)
    | none =>
      .error { Error.here style (.unknownVariant name (choices.map (·.1))) with
        path := [0], place := .name }
  | style, .obj _ => .error (.here style .choiceCount)
  | style, other => .error (.here style (.notAChoice (.of other)))

/-- The parts of a record: fields by name, or items by position. -/
inductive Parts where
  | named (fields : List (String × Json))
  | ordered (items : List Json)

/-- What was found for one part of a record. -/
inductive Slot (α : Type) where
  | absent
  | found (value : α)
  /-- A fault in the part that stands at `index`. -/
  | faulty (index : Nat) (error : Error)

/-- The first field of that name, and its index counted from `index`. -/
def findNamed (name : String) : Nat → List (String × Json) → Option (Nat × Json)
  | _, [] => none
  | index, field :: rest =>
    if field.1 == name then some (index, field.2) else findNamed name (index + 1) rest

/-- The part called `name`, which stands at `position` in a list. -/
def Parts.slot {α : Type} (parts : Parts) (style : Style) (name : String) (position : Nat)
    (decoder : Decoder α) : Slot α :=
  match parts with
  | .ordered items =>
    match items[position]? with
    | none => .absent
    | some value =>
      match decoder style value with
      | .ok value => .found value
      | .error error => .faulty position (error.under position)
  | .named fields =>
    match findNamed name 0 fields with
    | none => .absent
    | some (index, value) =>
      match decoder style value with
      | .error error => .faulty index (error.under index)
      | .ok value =>
        match findNamed name (index + 1) (fields.drop (index + 1)) with
        | none => .found value
        | some (second, _) =>
          .faulty second ((Error.here style (.duplicateField name)).under second)

/-- The fault of a slot, with the index of the part. -/
def Slot.fault? {α : Type} : Slot α → Option (Nat × Error)
  | .faulty index error => some (index, error)
  | _ => none

/-- Of two faults the one that stands first. -/
def earlier (best : Option (Nat × Error)) (next : Nat × Error) : Option (Nat × Error) :=
  match best with
  | none => some next
  | some current => if next.1 < current.1 then some next else some current

/-- The fault that stands first. -/
def firstFault (faults : List (Option (Nat × Error))) : Option Error :=
  (List.foldl earlier none (faults.filterMap id)).map (·.2)

/-- A record type as errors name it: `struct Name`, with its number of fields. -/
structure Shape where
  title : String
  size : Nat

/-- The fault of a part that has to be there. -/
def Parts.lacks (parts : Parts) (style : Style) (shape : Shape) (name : String)
    (position : Nat) : Error :=
  match parts with
  | .named _ => .here style (.missingField name)
  | .ordered _ =>
    let wanted := countOf "element" shape.size
    .here style (.tooShort position s!"{shape.title} with {wanted}")

/-- A part that has to be there. -/
def Slot.require {α : Type} (slot : Slot α) (parts : Parts) (style : Style) (shape : Shape)
    (name : String) (position : Nat) : Except Error α :=
  match slot with
  | .found value => .ok value
  | .absent => .error (parts.lacks style shape name position)
  | .faulty _ error => .error error

/-- A part that has a value to fall back on. -/
def Slot.orElse {α : Type} (slot : Slot α) (fallback : α) : α :=
  match slot with
  | .found value => value
  | _ => fallback

/-- The parts of a record, or the fault of a value that is none. -/
def Shape.parts (shape : Shape) (style : Style) : Json → Except Error Parts
  | .obj fields => .ok (.named fields)
  | .arr items => .ok (.ordered items)
  | other => wrongType style other shape.title

/-- The fault of a list with more items than the record has fields. -/
def Parts.excess (parts : Parts) (style : Style) (shape : Shape) : Option Error :=
  match parts with
  | .named _ => none
  | .ordered items =>
    if shape.size < items.length then
      let error := Error.here style (.tooLong items.length shape.size)
      some (if style = .streamed then error.under shape.size else error)
    else none

/-- Reads a record.  `read` gives what is wrong with each part, and the record if nothing is.  The
first fault of a part comes before a lack, and a surplus of items comes last. -/
def Shape.record {α : Type} (shape : Shape) (style : Style) (value : Json)
    (read : Parts → List (Option (Nat × Error)) × Except Error α) : Except Error α := do
  let parts ← shape.parts style value
  let (faults, built) := read parts
  match firstFault faults with
  | some error => .error error
  | none =>
    let result ← built
    match parts.excess style shape with
    | some error => .error error
    | none => .ok result

/-- A tagged choice taken apart: the name or number of the variant, where it stood, and the parts
of the variant. -/
structure Tagged where
  tag : Json
  index : Nat
  parts : Json

/-- Removes the first field of that name. -/
def withoutField (name : String) : List (String × Json) → List (String × Json)
  | [] => []
  | field :: rest => if field.1 == name then rest else field :: withoutField name rest

/-- Splits off the tag, a field of an object or the first item of a list. -/
def splitTag (name choice : String) (style : Style) : Json → Except Error Tagged
  | .obj fields =>
    match findNamed name 0 fields with
    | none => .error (.here style (.missingField name))
    | some (index, tag) => .ok ⟨tag, index, .obj (withoutField name fields)⟩
  | .arr [] => .error (.here style (.missingField name))
  | .arr (tag :: rest) => .ok ⟨tag, 0, .arr rest⟩
  | other => wrongType style other s!"internally tagged enum {choice}"

/-- The variant that a tag names, by its word or by its number. -/
def Tagged.variant {α : Type} (tagged : Tagged) (style : Style) (variants : List (String × α))
    (otherwise : Option α) : Except Error α :=
  match tagged.tag with
  | .str name =>
    match variants.lookup name, otherwise with
    | some meaning, _ => .ok meaning
    | none, some meaning => .ok meaning
    | none, none =>
      .error ((Error.here style (.unknownVariant name (variants.map (·.1)))).under tagged.index)
  | .num (.int number) =>
    match (if 0 ≤ number then variants[number.toNat]? else none), otherwise with
    | some (_, meaning), _ => .ok meaning
    | none, some meaning =>
      if 0 ≤ number then .ok meaning
      else
        .error ((Error.here style
          (.invalidType (.num (.int number)) "variant identifier")).under tagged.index)
    | none, none =>
      if 0 ≤ number then
        .error ((Error.here style (.invalidValue (.num (.int number))
          s!"variant index 0 <= i < {variants.length}")).under tagged.index)
      else
        .error ((Error.here style
          (.invalidType (.num (.int number)) "variant identifier")).under tagged.index)
  | other =>
    .error ((Error.here style (.invalidType (.of other) "variant identifier")).under tagged.index)

end SqlLineage.Decode
