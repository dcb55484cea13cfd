import SchemaCoverage.Schema.Error
import SchemaCoverage.Schema.Graph
/-!
Checking the references between the types of a schema. Every bad reference is found, in the
order of the types and within a type in the order of its parts.
-/
namespace SchemaCoverage.Schema

/-- The kind of the type of a name. -/
def kindOf? (types : List GraphType) (name : String) : Option Kind :=
  (findType? types name).map (·.kind)

/-- A name that must be defined. -/
def undefinedErrors (types : List GraphType) (name : String) (location : Location) :
    List ReferenceError :=
  if (findType? types name).isSome then [] else [.undefinedType name location]

/-- What an object or interface implements must be an interface. -/
def interfaceErrors (types : List GraphType) (type : String) (mention : Mention) :
    List ReferenceError :=
  match kindOf? types mention.name with
  | some .interface => []
  | some _ => [.implementsNonInterface type mention.name mention.location]
  | none => [.implementsUndefined type mention.name mention.location]

/-- A member of a union must be an object type. -/
def memberErrors (types : List GraphType) (union : String) (mention : Mention) :
    List ReferenceError :=
  match kindOf? types mention.name with
  | some .object => []
  | some _ => [.memberNotObject union mention.name mention.location]
  | none => [.undefinedType mention.name mention.location]

/-- The type of a field of an object or interface must be defined and no input type; the types
of its arguments must be defined. -/
def fieldErrors (types : List GraphType) (type : String) (field : Field) : List ReferenceError :=
  let own :=
    match kindOf? types field.type.innermost with
    | some .inputObject =>
        [.outputOfInputType type field.name field.type.innermost field.location]
    | some _ => []
    | none => [.undefinedType field.type.innermost field.type.location]
  own ++ field.arguments.flatMap fun (_, argument) =>
    undefinedErrors types argument.innermost argument.location

/-- The bad references of one type. -/
def typeErrors (types : List GraphType) (type : GraphType) : List ReferenceError :=
  match type.content with
  | .object interfaces fields | .interface interfaces fields =>
      interfaces.flatMap (interfaceErrors types type.name) ++
        fields.flatMap (fieldErrors types type.name)
  | .union members => members.flatMap (memberErrors types type.name)
  | .input fields =>
      fields.flatMap fun field => undefinedErrors types field.type.innermost field.type.location
  | .scalar | .enum _ => []

/-- All bad references between types. -/
def referenceErrors (types : List GraphType) : List ReferenceError :=
  types.flatMap (typeErrors types)

end SchemaCoverage.Schema
