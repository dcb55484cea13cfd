import SchemaCoverage.Sdl.Token
/-!
Documents of the schema definition language: type definitions, extensions and schema blocks in
the order in which they are written.
-/
namespace SchemaCoverage.Sdl

/-- A written type: a name or a list, with an exclamation mark where null is ruled out. -/
inductive TypeExpr
  | named (name : String) (required : Bool)
  | list (inner : TypeExpr) (required : Bool)
deriving Repr, DecidableEq

namespace TypeExpr

/-- The mark that rules out null. -/
def bang (required : Bool) : List Char :=
  if required then ['!'] else []

/-- The type as it is written, without blanks. -/
def chars : TypeExpr → List Char
  | .named name required => name.toList ++ bang required
  | .list inner required => '[' :: inner.chars ++ ']' :: bang required

/-- The number of list brackets around the name. -/
def depth : TypeExpr → Nat
  | .named _ _ => 0
  | .list inner _ => inner.depth + 1

/-- The name inside all lists. -/
def innermost : TypeExpr → String
  | .named name _ => name
  | .list inner _ => inner.innermost

/-- The type ends with an exclamation mark. -/
def isRequired : TypeExpr → Bool
  | .named _ required => required
  | .list _ required => required

end TypeExpr

/-- An argument of a field, or a field of an input type. -/
structure InputValue where
  name : String
  type : TypeExpr
  position : Position
deriving Repr, DecidableEq

/-- A field of an object or interface type. -/
structure FieldDef where
  name : String
  arguments : List InputValue
  type : TypeExpr
  position : Position
deriving Repr, DecidableEq

/-- What a type definition or an extension says of its type, by kind. -/
inductive TypeBody
  | scalar
  | object (interfaces : List String) (fields : List FieldDef)
  | interface (interfaces : List String) (fields : List FieldDef)
  | union (members : List String)
  | enum (values : List String)
  | input (fields : List InputValue)
deriving Repr, DecidableEq

/-- A type definition or an extension at the place of its keyword. -/
structure TypeDef where
  name : String
  body : TypeBody
  position : Position
deriving Repr, DecidableEq

/-- A schema block: the object types that serve as roots, where they are named. -/
structure SchemaBlock where
  query : Option String
  mutation : Option String
  subscription : Option String
  position : Position
deriving Repr, DecidableEq

/-- One definition of a document. -/
inductive Definition
  | schema (block : SchemaBlock)
  | type (definition : TypeDef)
  | extension (addition : TypeDef)
  | directive
deriving Repr, DecidableEq

/-- The definitions of a document, in order. -/
abbrev Document := List Definition

end SchemaCoverage.Sdl
