import SchemaCoverage.Host.Json
/-!
Controller methods: the methods of the host program that fetch the values of schema fields.
-/
namespace SchemaCoverage.Controller

open Host

/-- A method of a controller, the type it returns and the names of the arguments it binds. -/
structure Method where
  controller : String
  name : String
  returns : TypeRef
  arguments : List String
deriving Repr, DecidableEq

namespace Method

/-- The method in words. -/
def render (method : Method) : String :=
  method.controller ++ "::" ++ method.name

/-- Binds one more argument. -/
def withArgument (method : Method) (argument : String) : Method :=
  { method with arguments := method.arguments ++ [argument] }

/-- The form with all fields. -/
def toJson (method : Method) : Json :=
  .record [
    ("arguments", .texts method.arguments),
    ("controller", .text method.controller),
    ("name", .text method.name),
    ("return_type", method.returns.toJson)]

/-- A method whose fields are given as JSON values; only the arguments may be left out. -/
def ofFields? (arguments controller name returns : Option Json) : Option Method := do
  return {
    arguments := ← Json.withDefault [] (Json.asList? Json.asText?) arguments
    controller := ← Json.required Json.asText? controller
    name := ← Json.required Json.asText? name
    returns := ← Json.required TypeRef.ofJson? returns }

/-- Reads a method; unknown keys do not matter. -/
def ofJson? (json : Json) : Option Method := do
  match ← json.fields? [["arguments"], ["controller"], ["name"], ["return_type"]] true with
  | [arguments, controller, name, returns] => ofFields? arguments controller name returns
  | _ => none

end Method

end SchemaCoverage.Controller
