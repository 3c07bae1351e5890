/-!
# JSON values

The data that requests, statements and results travel in.  An object is the list of its fields in
the order they were written: the order of output is part of an answer, and the first fault of a
document is found in that order.
-/

namespace SqlLineage

/-- A number is an integer of at most 64 bits or a real. -/
inductive JsonNumber where
  | int (value : Int)
  | real (value : Float)
  deriving Inhabited

/-- A JSON value. -/
inductive Json where
  | null
  | bool (value : Bool)
  | num (value : JsonNumber)
  | str (value : String)
  | arr (items : List Json)
  | obj (fields : List (String × Json))
  deriving Inhabited

namespace Json

/-- A non-negative integer. -/
def nat (n : Nat) : Json :=
  .num (.int n)

/-- The value of the first field of that name. -/
def field? (name : String) : Json → Option Json
  | .obj fields => (fields.find? (fun field => field.1 == name)).map (·.2)
  | _ => none

/-- An absent field and a `null` one mean the same. -/
def present? (name : String) (value : Json) : Option Json :=
  match value.field? name with
  | some .null => none
  | other => other

/-- One field that is written only when there is a value for it. -/
def optional (name : String) (value : Option Json) : List (String × Json) :=
  match value with
  | none => []
  | some value => [(name, value)]

/-- One field that holds a list and is left out when the list is empty. -/
def unlessEmpty (name : String) (items : List Json) : List (String × Json) :=
  match items with
  | [] => []
  | _ => [(name, .arr items)]

/-- Gives `name` the value `value`: in its old place when the name is there, else at the end. -/
def put (name : String) (value : Json) :
    List (String × Json) → List (String × Json)
  | [] => [(name, value)]
  | field :: rest =>
    if field.1 == name then (name, value) :: rest else field :: put name value rest

mutual

/-- Keeps the last value written for a name, in the place where the name first stood. -/
def withoutRepeats : Json → Json
  | .arr items => .arr (withoutRepeatsList items)
  | .obj fields => .obj (withoutRepeatsFields fields [])
  | value => value

/-- `withoutRepeats` for each item. -/
def withoutRepeatsList : List Json → List Json
  | [] => []
  | item :: rest => withoutRepeats item :: withoutRepeatsList rest

/-- `withoutRepeats` for the fields of one object; `done` holds those already seen. -/
def withoutRepeatsFields :
    List (String × Json) → List (String × Json) → List (String × Json)
  | [], done => done
  | (name, value) :: rest, done =>
    withoutRepeatsFields rest (put name (withoutRepeats value) done)

end

mutual

/-- How many containers lie inside each other at the deepest place. -/
def depth : Json → Nat
  | .arr items => depthOfList items + 1
  | .obj fields => depthOfFields fields + 1
  | _ => 0

/-- The greatest depth of an item. -/
def depthOfList : List Json → Nat
  | [] => 0
  | item :: rest => max (depth item) (depthOfList rest)

/-- The greatest depth of a field's value. -/
def depthOfFields : List (String × Json) → Nat
  | [] => 0
  | (_, value) :: rest => max (depth value) (depthOfFields rest)

end

end Json

end SqlLineage
