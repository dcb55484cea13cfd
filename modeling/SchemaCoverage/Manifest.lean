import SchemaCoverage.Candidates.TypeNames
import SchemaCoverage.Controller.Registry
import SchemaCoverage.Json.Reader
/-!
Manifests: a host program described in JSON, by its types, its controller methods, the schema
type names of some of its types and the wrappers it uses.
-/
namespace SchemaCoverage

open Host Candidates

/-- A method with the written coordinate of the field that it fetches. -/
structure ControllerEntry where
  coordinate : String
  method : Controller.Method
deriving Repr, DecidableEq

/-- A description of a host program. -/
structure Manifest where
  classMappings : List (String × String)
  controllers : List ControllerEntry
  hostTypes : List HostType
  wrapperTypes : List String
deriving Repr, DecidableEq

/-- The greatest depth of a value in a controller entry. -/
def ControllerEntry.maxDepth : Nat := 124

/-- A member of a controller entry: whatever it means, it must be exact and not too deep. -/
def ControllerEntry.isAdmitted (member : Option String × Json) : Bool :=
  member.1.isSome && member.2.isExact && member.2.depth ≤ maxDepth

/-- Reads a controller entry: the fields of a method and a coordinate, in one object. Unknown
keys do not matter. -/
def ControllerEntry.ofJson? : Json → Option ControllerEntry
  | .object members =>
      if members.all isAdmitted then do
        let fields ← Json.fields?
          [["coordinate"], ["arguments"], ["controller"], ["name"], ["return_type"]] true
          (.object members)
        match fields with
        | [coordinate, arguments, controller, name, returns] =>
            return {
              coordinate := ← Json.required Json.asText? coordinate
              method := ← Controller.Method.ofFields? arguments controller name returns }
        | _ => none
      else none
  | _ => none

namespace Manifest

/-- Reads the path of a host type and the name of a schema type. -/
def classMappingOfJson? (json : Json) : Option (String × String) := do
  match ← json.fields? [["host_type"], ["schema_type"]] false with
  | [path, name] => return (← Json.required Json.asText? path, ← Json.required Json.asText? name)
  | _ => none

/-- Reads a manifest; all its fields may be left out. -/
def ofJson? (json : Json) : Option Manifest := do
  let fields ← json.fields?
    [["class_mappings"], ["controllers"], ["host_types"], ["wrapper_types"]] false
  match fields with
  | [mappings, controllers, types, wrappers] =>
      return {
        classMappings := ← Json.withDefault [] (Json.asList? classMappingOfJson?) mappings
        controllers := ← Json.withDefault [] (Json.asList? ControllerEntry.ofJson?) controllers
        hostTypes := ← Json.withDefault [] (Json.asList? HostType.ofJson?) types
        wrapperTypes := ← Json.withDefault [] (Json.asList? Json.asText?) wrappers }
  | _ => none

/-- Reads a manifest from JSON text. -/
def parse? (text : String) : Option Manifest :=
  (Json.parse? text).bind ofJson?

/-- The schema type names that host types are mapped to. -/
def typeNames (manifest : Manifest) : TypeNames :=
  manifest.classMappings.foldl (fun names (path, name) => names.add path name) .empty

/-- The controller methods, registered in order up to the first error. -/
def controllerRegistry (manifest : Manifest) :
    Except Controller.RegistryError Controller.Registry :=
  manifest.controllers.foldlM
    (fun registry entry => registry.registerAt entry.coordinate entry.method) .empty

/-- The host types, registered in order up to the first error. -/
def hostRegistry (manifest : Manifest) : Except Host.RegistryError Host.Registry :=
  Host.Registry.ofTypes manifest.hostTypes

end Manifest

end SchemaCoverage
