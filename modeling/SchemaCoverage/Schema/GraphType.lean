import SchemaCoverage.Assoc
import SchemaCoverage.Schema.Coordinate
import SchemaCoverage.Schema.FieldType
/-!
The types of a schema, with all that their definitions and extensions say of them.
-/
namespace SchemaCoverage.Schema

/-- The six kinds of type. -/
inductive Kind
  | enum
  | inputObject
  | interface
  | object
  | scalar
  | union
deriving Repr, DecidableEq

/-- The name of a kind. -/
def Kind.title : Kind → String
  | .enum => "Enum"
  | .inputObject => "InputObject"
  | .interface => "Interface"
  | .object => "Object"
  | .scalar => "Scalar"
  | .union => "Union"

/-- The kinds of operation that a schema has root types for. -/
inductive Operation
  | query
  | mutation
  | subscription
deriving Repr, DecidableEq

/-- The name of the root type that an operation has where none is declared. -/
def Operation.title : Operation → String
  | .query => "Query"
  | .mutation => "Mutation"
  | .subscription => "Subscription"

/-- The word for an operation in a schema. -/
def Operation.name : Operation → String
  | .query => "query"
  | .mutation => "mutation"
  | .subscription => "subscription"

/-- The operation of a word. -/
def Operation.ofName? : String → Option Operation
  | "query" => some .query
  | "mutation" => some .mutation
  | "subscription" => some .subscription
  | _ => none

/-- A type mentioned by name at a place. -/
structure Mention where
  name : String
  location : Location
deriving Repr, DecidableEq

/-- A field of an object, interface or input type. -/
structure Field where
  name : String
  parent : String
  type : FieldType
  arguments : Assoc String FieldType
  location : Location
deriving Repr, DecidableEq

/-- The coordinate of a field. -/
def Field.coordinate (field : Field) : Coordinate :=
  ⟨field.parent, field.name⟩

/-- What a type consists of, by kind. -/
inductive Content
  | scalar
  | enum (values : List String)
  | input (fields : List Field)
  | interface (interfaces : List Mention) (fields : List Field)
  | object (interfaces : List Mention) (fields : List Field)
  | union (members : List Mention)
deriving Repr, DecidableEq

/-- The kind of type that has such content. -/
def Content.kind : Content → Kind
  | .scalar => .scalar
  | .enum _ => .enum
  | .input _ => .inputObject
  | .interface _ _ => .interface
  | .object _ _ => .object
  | .union _ => .union

/-- A type of a schema. -/
structure GraphType where
  name : String
  content : Content
  location : Location
deriving Repr, DecidableEq

namespace GraphType

/-- The kind of a type. -/
def kind (type : GraphType) : Kind :=
  type.content.kind

/-- The fields of an object, interface or input type. -/
def fields (type : GraphType) : List Field :=
  match type.content with
  | .input fields | .interface _ fields | .object _ fields => fields
  | _ => []

/-- The interfaces that an object or interface type says it implements. -/
def interfaces (type : GraphType) : List Mention :=
  match type.content with
  | .interface interfaces _ | .object interfaces _ => interfaces
  | _ => []

/-- The members of a union type. -/
def members (type : GraphType) : List Mention :=
  match type.content with
  | .union members => members
  | _ => []

/-- An object or interface type, whose fields have coordinates. -/
def isComposite (type : GraphType) : Bool :=
  type.kind == .object || type.kind == .interface

/-- An enum or scalar type, which has no fields to look into. -/
def isLeaf (type : GraphType) : Bool :=
  type.kind == .enum || type.kind == .scalar

/-- An interface or union type, which stands for several object types. -/
def isPolymorphic (type : GraphType) : Bool :=
  type.kind == .interface || type.kind == .union

/-- A type that a field may return. -/
def isOutput (type : GraphType) : Bool :=
  type.kind != .inputObject

/-- The object or interface type says it implements an interface. -/
def implements (type : GraphType) (interface : String) : Bool :=
  type.interfaces.any (·.name == interface)

end GraphType

/-- The scalar types that every schema has. -/
def builtinTypes : List GraphType :=
  ["Boolean", "Float", "ID", "Int", "String"].map fun name => ⟨name, .scalar, .builtin⟩

end SchemaCoverage.Schema
