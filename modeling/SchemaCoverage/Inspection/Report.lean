import SchemaCoverage.Assoc
import SchemaCoverage.Json.Value
import SchemaCoverage.Schema.Coordinate
/-!
Reports of inspections: which parts of a schema nothing in the host program serves.
-/
namespace SchemaCoverage.Inspection

open Schema

/-- Why a schema type is not checked against a host type. -/
inductive SkipReason
  | noHostCandidate
  | notActiveImplementation
  | notAssignable
  | unnamedHostType
  | unknownHostType
deriving Repr, DecidableEq

namespace SkipReason

/-- The written name of a reason. -/
def code : SkipReason → String
  | .noHostCandidate => "no_host_candidate"
  | .notActiveImplementation => "not_active_implementation"
  | .notAssignable => "not_assignable"
  | .unnamedHostType => "opaque_host_type"
  | .unknownHostType => "unknown_host_type"

/-- The reason in words. -/
def message : SkipReason → String
  | .noHostCandidate => "no host type candidate found"
  | .notActiveImplementation => "not returned by the declared concrete host type"
  | .notAssignable => "no candidate is assignable to the declared host type"
  | .unnamedHostType => "declared host type is opaque"
  | .unknownHostType => "declared host type is not registered"

end SkipReason

/-- A schema type that was skipped, with the host type that came nearest and the field that
returned it. -/
structure SkippedType where
  type : String
  host : Option String
  via : Option Coordinate
  reason : SkipReason
deriving Repr, DecidableEq

namespace SkippedType

/-- What makes one skip the same as another. -/
def key (skipped : SkippedType) : String × Option String :=
  (skipped.type, skipped.host)

/-- The skip in words. -/
def render (skipped : SkippedType) : String :=
  let host :=
    match skipped.host with
    | some path => " (" ++ path ++ ")"
    | none => ""
  let via :=
    match skipped.via with
    | some coordinate => " via " ++ coordinate.render
    | none => ""
  skipped.type ++ host ++ via ++ ": " ++ skipped.reason.message

/-- The form with all fields. -/
def toJson (skipped : SkippedType) : Json :=
  .record [
    ("field_coordinate", (skipped.via.map fun via => Json.text via.render).getD .null),
    ("host_type", (skipped.host.map Json.text).getD .null),
    ("reason", .text skipped.reason.code),
    ("type_name", .text skipped.type)]

end SkippedType

/-- What an inspection has found out about a schema type. -/
inductive TypeState
  | unvisited
  | visiting
  | skipped
  | resolved
deriving Repr, DecidableEq, Inhabited

/-- The written name of a state. -/
def TypeState.code : TypeState → String
  | .unvisited => "unvisited"
  | .visiting => "visiting"
  | .skipped => "skipped"
  | .resolved => "resolved"

/-- An argument that a method binds but the schema field does not declare. -/
structure UnmappedArgument where
  argument : String
  coordinate : Coordinate
  method : String
deriving Repr, DecidableEq

/-- The form with all fields. -/
def UnmappedArgument.toJson (unmapped : UnmappedArgument) : Json :=
  .record [
    ("argument_name", .text unmapped.argument),
    ("field_coordinate", .text unmapped.coordinate.render),
    ("method", .text unmapped.method)]

/-- A method that is registered for a field that the schema does not have. -/
structure UnmappedRegistration where
  coordinate : Coordinate
  method : String
deriving Repr, DecidableEq

/-- The form with all fields. -/
def UnmappedRegistration.toJson (unmapped : UnmappedRegistration) : Json :=
  .record [
    ("field_coordinate", .text unmapped.coordinate.render),
    ("method", .text unmapped.method)]

/-- All findings of an inspection, each list in the order of discovery, and the states of the
types in the order in which they got one. -/
structure Report where
  skipped : List SkippedType
  states : Assoc String TypeState
  unmappedArguments : List UnmappedArgument
  unmappedFields : List Coordinate
  unmappedRegistrations : List UnmappedRegistration
deriving Repr, DecidableEq

namespace Report

/-- Nothing was found amiss. -/
def isEmpty (report : Report) : Bool :=
  report.skipped.isEmpty && report.unmappedArguments.isEmpty && report.unmappedFields.isEmpty &&
    report.unmappedRegistrations.isEmpty

/-- The names of the skipped types, each once. -/
def skippedNames (report : Report) : List String :=
  (report.skipped.map (·.type)).foldl Assoc.addNew []

/-- The skips of one type. -/
def skippedFor (report : Report) (type : String) : List SkippedType :=
  report.skipped.filter (·.type == type)

/-- The state of a type; a type that was not met is unvisited. -/
def stateOf (report : Report) (type : String) : TypeState :=
  (report.states.find? type).getD .unvisited

/-- Groups values by a key, the keys in the order of their first values. -/
def groupBy {α κ ν : Type} [DecidableEq κ] (key : α → κ) (value : α → ν) (items : List α) :
    Assoc κ (List ν) :=
  items.foldl (fun groups item => groups.update (key item) [] (· ++ [value item])) []

/-- The names of the unmapped fields by type. -/
def unmappedFieldsByType (report : Report) : Assoc String (List String) :=
  groupBy Coordinate.type Coordinate.field report.unmappedFields

/-- The names of the unmapped fields of one type. -/
def unmappedFieldsFor (report : Report) (type : String) : List String :=
  (report.unmappedFields.filter (·.type == type)).map (·.field)

/-- The unmapped arguments by the field that does not declare them. -/
def unmappedArgumentsByField (report : Report) : Assoc Coordinate (List String) :=
  groupBy UnmappedArgument.coordinate UnmappedArgument.argument report.unmappedArguments

/-- Names in square brackets. -/
def bracketed (names : List String) : String :=
  "[" ++ ", ".intercalate names ++ "]"

/-- Entries in braces. -/
def braced (entries : List String) : String :=
  "\x7b" ++ ", ".intercalate entries ++ "\x7d"

/-- The report in words. -/
def render (report : Report) : String :=
  let fields := report.unmappedFieldsByType.map fun (type, names) => type ++ "=" ++ bracketed names
  let registrations := report.unmappedRegistrations.map fun unmapped =>
    unmapped.coordinate.render ++ "=" ++ unmapped.method
  let arguments := report.unmappedArgumentsByField.map fun (coordinate, names) =>
    coordinate.render ++ "=" ++ bracketed names
  "GraphQL schema inspection:\n\tUnmapped fields: " ++ braced fields ++
    "\n\tUnmapped registrations: " ++ braced registrations ++
    "\n\tUnmapped arguments: " ++ braced arguments ++
    "\n\tSkipped types: " ++ bracketed report.skippedNames

/-- The form with all fields. -/
def toJson (report : Report) : Json :=
  .record [
    ("skipped_types", .array (report.skipped.map (·.toJson))),
    ("type_states", .record (report.states.map fun (type, state) => (type, .text state.code))),
    ("unmapped_arguments", .array (report.unmappedArguments.map (·.toJson))),
    ("unmapped_fields", .texts (report.unmappedFields.map (·.render))),
    ("unmapped_registrations", .array (report.unmappedRegistrations.map (·.toJson)))]

end Report

end SchemaCoverage.Inspection
