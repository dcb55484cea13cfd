/-!
Coordinates of schema fields: a type name and a field name, written with a dot between them.
-/
namespace SchemaCoverage.Schema

/-- A field of a type, both by name. -/
structure Coordinate where
  type : String
  field : String
deriving Repr, DecidableEq

namespace Coordinate

/-- The written form. -/
def render (coordinate : Coordinate) : String :=
  coordinate.type ++ "." ++ coordinate.field

/-- Reads a written coordinate: exactly one dot with text on both sides. -/
def parse? (text : String) : Option Coordinate :=
  let type := text.toList.takeWhile (· != '.')
  match text.toList.dropWhile (· != '.') with
  | [] => none
  | _ :: field =>
      if type.isEmpty || field.isEmpty || '.' ∈ field then none
      else some ⟨String.ofList type, String.ofList field⟩

/-- Coordinates are ordered by type name and then by field name, both by code points. -/
def compare (a b : Coordinate) : Ordering :=
  (compareOfLessAndEq a.type b.type).then (compareOfLessAndEq a.field b.field)

/-- One coordinate does not come after another. -/
def notAfter (a b : Coordinate) : Bool :=
  compare a b != .gt

/-- Sorts coordinates; equal ones keep their order. -/
def sort (coordinates : List Coordinate) : List Coordinate :=
  coordinates.mergeSort notAfter

end Coordinate

end SchemaCoverage.Schema
