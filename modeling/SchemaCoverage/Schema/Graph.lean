import SchemaCoverage.Schema.GraphType
/-!
The type graph of a schema: all its types in the order of their definitions, and the root types
of the operations.
-/
namespace SchemaCoverage.Schema

/-- The first type of a name. -/
def findType? (types : List GraphType) (name : String) : Option GraphType :=
  types.find? (·.name == name)

theorem name_of_findType? {types : List GraphType} {name : String} {type : GraphType}
    (h : findType? types name = some type) : type.name = name := by
  simpa using List.find?_some h

theorem mem_of_findType? {types : List GraphType} {name : String} {type : GraphType}
    (h : findType? types name = some type) : type ∈ types :=
  List.mem_of_find?_eq_some h

/-- The types of a schema and its root types by name. -/
structure Graph where
  types : List GraphType
  query : String
  mutation : Option String
  subscription : Option String
deriving Repr, DecidableEq

/-- A mention of a type that a graph does not have. -/
structure DanglingMention where
  name : String
deriving Repr, DecidableEq

/-- The error in words. -/
def DanglingMention.message (dangling : DanglingMention) : String :=
  "No definition found for `" ++ dangling.name ++ "`"

namespace Graph

/-- The type of a name. -/
def type? (graph : Graph) (name : String) : Option GraphType :=
  findType? graph.types name

/-- A type that is found at all is found under its own name. -/
theorem type?_name {graph : Graph} {name : String} {type : GraphType}
    (h : graph.type? name = some type) : graph.type? type.name = some type := by
  rwa [name_of_findType? h]

/-- The graph has a type of that name. -/
def hasType (graph : Graph) (name : String) : Bool :=
  (graph.type? name).isSome

/-- The type that is mentioned. -/
def mentioned (graph : Graph) (mention : Mention) : Except DanglingMention GraphType :=
  match graph.type? mention.name with
  | some type => .ok type
  | none => .error ⟨mention.name⟩

/-- The field at a coordinate of an object or interface type. -/
def field? (graph : Graph) (coordinate : Coordinate) : Option Field :=
  match graph.type? coordinate.type with
  | some type =>
      if type.isComposite then type.fields.find? (·.name == coordinate.field) else none
  | none => none

/-- The object types that say they implement an interface, in the order of the types. -/
def implementations (graph : Graph) (interface : String) : List String :=
  (graph.types.filter fun type => type.kind == .object && type.implements interface).map (·.name)

/-- The types that a value of a type may have: the members of a union, the implementations of
an interface, and any other type alone. -/
def possibleTypes (graph : Graph) (name : String) : List String :=
  match graph.type? name with
  | some type =>
      match type.kind with
      | .union => type.members.map (·.name)
      | .interface => graph.implementations name
      | _ => [name]
  | none => []

/-- The name of the root type of an operation. -/
def rootName? (graph : Graph) : Operation → Option String
  | .query => some graph.query
  | .mutation => graph.mutation
  | .subscription => graph.subscription

/-- The operations with their root types, in a fixed order. -/
def roots (graph : Graph) : List (Operation × GraphType) :=
  [Operation.query, .mutation, .subscription].filterMap fun operation => do
    let name ← graph.rootName? operation
    let type ← graph.type? name
    return (operation, type)

end Graph

end SchemaCoverage.Schema
