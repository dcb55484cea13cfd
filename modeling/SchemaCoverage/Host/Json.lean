import SchemaCoverage.Host.HostType
import SchemaCoverage.Host.TypeRef.Parser
import SchemaCoverage.Json.Record
/-!
The JSON forms of host types and of references to them.
-/
namespace SchemaCoverage.Host

/-- A reference is written as a string. -/
def TypeRef.toJson (ref : TypeRef) : Json :=
  .text ref.render

/-- Reads a reference from a string. -/
def TypeRef.ofJson? (json : Json) : Option TypeRef :=
  json.asText?.bind fun text => (parse text).toOption

/-- The kind of a written name. -/
def TypeKind.ofName? : String → Option TypeKind
  | "abstract" => some .abstract
  | "concrete" => some .concrete
  | _ => none

/-- A kind is read from its name, or from an object whose only key it is, with the value null. -/
def TypeKind.ofJson? : Json → Option TypeKind
  | .string (some name) => ofName? name
  | .object [(some name, .null)] => ofName? name
  | _ => none

/-- Reads members from an object; a repeated key keeps its place and takes the last value. -/
def membersOfJson? : Json → Option (Assoc String TypeRef)
  | .object members =>
      members.foldlM
        (fun found (key, value) => do return found.put (← key) (← TypeRef.ofJson? value)) []
  | _ => none

namespace HostType

/-- The form with all fields. -/
def toJson (type : HostType) : Json :=
  .record [
    ("implements", .texts type.implements),
    ("kind", .text type.kind.render),
    ("members", .record (type.members.map fun (name, ref) => (name, ref.toJson))),
    ("path", .text type.path),
    ("permits", .texts type.permits)]

/-- Reads a host type; only the path must be given, and unknown keys do not matter. -/
def ofJson? (json : Json) : Option HostType := do
  let fields ← json.fields? [["implements"], ["kind"], ["members"], ["path"], ["permits"]] true
  match fields with
  | [implements, kind, members, path, permits] =>
      return {
        path := ← Json.required Json.asText? path
        kind := ← Json.withDefault .concrete TypeKind.ofJson? kind
        members := ← Json.withDefault [] membersOfJson? members
        implements := ← Json.withDefault [] (Json.asList? Json.asText?) implements
        permits := ← Json.withDefault [] (Json.asList? Json.asText?) permits }
  | _ => none

end HostType

end SchemaCoverage.Host
