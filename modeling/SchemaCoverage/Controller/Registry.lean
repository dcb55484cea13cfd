import SchemaCoverage.Controller.Method
import SchemaCoverage.Schema.Graph
/-!
The registry of controller methods: which method fetches which field of the schema. A method is
registered for a root field of an operation, whatever the root type is called, or for a field at
a coordinate.
-/
namespace SchemaCoverage.Controller

open Schema

/-- What a method is registered for. -/
inductive Target
  | field (place : Coordinate)
  | operation (kind : Operation) (name : String)
deriving Repr, DecidableEq

namespace Target

/-- The name of the field. -/
def fieldName : Target → String
  | .field place => place.field
  | .operation _ name => name

/-- The target in words; the root type goes by its usual name. -/
def render : Target → String
  | .field place => place.render
  | .operation kind name => kind.title ++ "." ++ name

/-- The coordinate in a schema; of a root type that the schema lacks the usual name is taken. -/
def coordinate (graph : Graph) : Target → Coordinate
  | .field place => place
  | .operation kind name => ⟨(graph.rootName? kind).getD kind.title, name⟩

end Target

/-- Why a method is not registered. -/
inductive RegistryError
  | duplicateMapping (target : Target) (existing new : Method)
  | invalidCoordinate (text : String)
deriving Repr, DecidableEq

/-- The error in words. -/
def RegistryError.message : RegistryError → String
  | .duplicateMapping target existing new =>
      "`" ++ target.render ++ "` is mapped to both `" ++ existing.render ++ "` and `" ++
        new.render ++ "`"
  | .invalidCoordinate text => "`" ++ text ++ "` is not a valid `Type.field` coordinate"

/-- The registered methods by target, in the order of registration. -/
structure Registry where
  mappings : Assoc Target Method
deriving Repr, DecidableEq

/-- A method that is ignored since its coordinate has a method already. -/
structure Shadowed where
  target : Target
  coordinate : Coordinate
  existing : Method
  ignored : Method
deriving Repr, DecidableEq

namespace Registry

/-- Nothing is registered. -/
def empty : Registry := ⟨[]⟩

/-- The method registered for a target. -/
def get? (registry : Registry) (target : Target) : Option Method :=
  registry.mappings.find? target

/-- Registers a method for a target, which must be new. -/
def register (registry : Registry) (target : Target) (method : Method) :
    Except RegistryError Registry :=
  match registry.get? target with
  | some existing => .error (.duplicateMapping target existing method)
  | none => .ok ⟨registry.mappings ++ [(target, method)]⟩

/-- Registers a method for a written coordinate. -/
def registerAt (registry : Registry) (coordinate : String) (method : Method) :
    Except RegistryError Registry :=
  match Coordinate.parse? coordinate with
  | some coordinate => registry.register (.field coordinate) method
  | none => .error (.invalidCoordinate coordinate)

/-- Takes a method for its coordinate in a schema unless the coordinate is taken. -/
def addByCoordinate (graph : Graph) (found : Assoc Coordinate Method × List Shadowed)
    (mapping : Target × Method) : Assoc Coordinate Method × List Shadowed :=
  let (target, method) := mapping
  let coordinate := target.coordinate graph
  match found.1.find? coordinate with
  | some existing => (found.1, found.2 ++ [⟨target, coordinate, existing, method⟩])
  | none => (found.1 ++ [(coordinate, method)], found.2)

/-- The methods by their coordinates in a schema, and those that are ignored. The method
registered first for a coordinate wins. -/
def byCoordinate (registry : Registry) (graph : Graph) :
    Assoc Coordinate Method × List Shadowed :=
  registry.mappings.foldl (addByCoordinate graph) ([], [])

end Registry

end SchemaCoverage.Controller
