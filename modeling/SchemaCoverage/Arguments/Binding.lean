import SchemaCoverage.Json.Record
/-!
Bindings: a method parameter may be bound to a value of a context.
-/
namespace SchemaCoverage.Arguments

/-- Which context a value comes from. -/
inductive Scope
  | global
  | own
deriving Repr, DecidableEq

namespace Scope

/-- The written name of a scope. -/
def render : Scope → String
  | .global => "global"
  | .own => "local"

/-- The scope of a written name. -/
def ofName? : String → Option Scope
  | "global" => some .global
  | "local" => some .own
  | _ => none

/-- A scope is read from its name, or from an object whose only key it is, with the value null. -/
def ofJson? : Json → Option Scope
  | .string (some name) => ofName? name
  | .object [(some name, .null)] => ofName? name
  | _ => none

end Scope

/-- A binding to a context value. Without a name the parameter's own name is taken. -/
structure Binding where
  scope : Scope
  name : Option String
  required : Bool
deriving Repr, DecidableEq

namespace Binding

/-- The form with all fields. -/
def toJson (binding : Binding) : Json :=
  .record [
    ("name", (binding.name.map Json.text).getD .null),
    ("required", .bool binding.required),
    ("scope", .text binding.scope.render)]

/-- Reads a binding; only the scope must be given. The name goes by two keys. -/
def ofJson? (json : Json) : Option Binding := do
  match ← json.fields? [["name", "value"], ["required"], ["scope"]] true with
  | [name, required, scope] =>
      return {
        scope := ← Json.required Scope.ofJson? scope
        name := ← Json.withDefault none (Json.asNullable? Json.asText?) name
        required := ← Json.withDefault false Json.asBool? required }
  | _ => none

end Binding

/-- A parameter of a method. Its name may be unknown, and it may be bound to a context value. -/
structure Parameter where
  index : Nat
  name : Option String
  binding : Option Binding
deriving Repr, DecidableEq

end SchemaCoverage.Arguments
