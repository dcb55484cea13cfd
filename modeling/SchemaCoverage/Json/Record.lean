import SchemaCoverage.Json.Value
/-!
Reading records out of JSON values. A record is written as an object with its fields as keys, or
as an array of its fields in order, of which the last may be left out.
-/
namespace SchemaCoverage.Json

/-- Puts the members of an object into the places of the fields that their keys name. A key may
be unknown if that is allowed; no field is given twice. -/
def placeMembers (fields : List (List String)) (unknown : Bool) :
    List (Option String × Json) → Option (List (Option Json))
  | [] => some (fields.map fun _ => none)
  | (none, _) :: _ => none
  | (some key, value) :: others => do
      let places ← placeMembers fields unknown others
      match fields.findIdx? (key ∈ ·) with
      | none => if unknown then some places else none
      | some place =>
          if (places[place]?.join).isSome then none else some (places.set place (some value))

/-- The fields of a record, each with the keys that name it, as far as they are given. -/
def fields? (fields : List (List String)) (unknown : Bool) : Json → Option (List (Option Json))
  | .object members => placeMembers fields unknown members
  | .array items =>
      if items.length ≤ fields.length then
        some (items.map some ++ List.replicate (fields.length - items.length) none)
      else none
  | _ => none

/-- A string with a text. -/
def asText? : Json → Option String
  | .string text => text
  | _ => none

/-- A truth value. -/
def asBool? : Json → Option Bool
  | .bool value => some value
  | _ => none

/-- An array whose items can all be read. -/
def asList? {α : Type} (read : Json → Option α) : Json → Option (List α)
  | .array items => items.mapM read
  | _ => none

/-- A value or null. -/
def asNullable? {α : Type} (read : Json → Option α) : Json → Option (Option α)
  | .null => some none
  | value => (read value).map some

/-- A field that must be given. -/
def required {α : Type} (read : Json → Option α) (field : Option Json) : Option α :=
  field.bind read

/-- A field that may be left out. -/
def withDefault {α : Type} (default : α) (read : Json → Option α) : Option Json → Option α
  | none => some default
  | some value => read value

end SchemaCoverage.Json
