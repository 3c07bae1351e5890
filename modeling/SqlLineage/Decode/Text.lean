import SqlLineage.Decode.Basic

/-!
# Decoding texts

A text is decoded as far as it could be read, and the fault that stands first in it, of content or
of form, is the one reported.
-/

namespace SqlLineage

namespace Json.Reading

/-- Finds the reading that a path leads to, with the offset behind its name. -/
def follow : Json.Reading → List Nat → Option (Json.Reading × Option Nat)
  | reading, [] => some (reading, none)
  | .list _ items _, index :: rest =>
    match items[index]? with
    | some item => follow item rest
    | none => none
  | .object _ fields _, index :: rest =>
    match fields[index]? with
    | some (_, nameStop, item) =>
      if rest.isEmpty then some (item, some nameStop) else follow item rest
    | none => none
  | _, _ :: _ => none
termination_by _ path => path.length

/-- The offset at which a fault of content is reported; none if the text broke before it. -/
def offsetOf (root : Json.Reading) (error : Decode.Error) : Option Nat :=
  match root.follow error.path with
  | none => none
  | some (reading, nameStop) =>
    match error.place, reading with
    | .name, _ => nameStop
    | .value, .leaf _ _ stop => some stop
    | .value, .list start _ _ => some start
    | .value, .object start _ _ => some start
    | .ahead, .leaf _ start _ => some (start + 1)
    | .ahead, .list start _ _ => some (start + 1)
    | .ahead, .object start _ _ => some (start + 1)
    | .close, .leaf _ _ stop => some stop
    | .close, .list _ _ close => close.toOption
    | .close, .object _ _ close => close.toOption
    | _, .broken _ => none

end Json.Reading

namespace Decode

/-- Decodes a text.  The message of a fault ends with its line and column. -/
def ofText {α : Type} (decoder : Decoder α) (text : String) : Except String α :=
  let document := Json.readDocument text
  let formFault := document.root.fault?
  match decoder .streamed document.root.value with
  | .error error =>
    match document.root.offsetOf error, formFault with
    | some offset, _ => .error (error.message ++ Json.describeOffset text offset)
    | none, some fault => .error (fault.message text)
    | none, none => .error error.message
  | .ok value =>
    match formFault, document.excess with
    | some fault, _ => .error (fault.message text)
    | none, some fault => .error (fault.message text)
    | none, none => .ok value

/-- Decodes a text that is read whole before it is decoded; only faults of form have a place. -/
def ofWholeText {α : Type} (decoder : Decoder α) (text : String) : Except String α :=
  let document := Json.readDocument text
  match document.root.fault? with
  | some fault => .error (fault.message text)
  | none =>
    match decoder .direct document.root.value.withoutRepeats with
    | .error error => .error error.message
    | .ok value =>
      match document.excess with
      | some fault => .error (fault.message text)
      | none => .ok value

end Decode

end SqlLineage
