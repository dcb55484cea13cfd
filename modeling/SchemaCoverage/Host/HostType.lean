import SchemaCoverage.Assoc
import SchemaCoverage.Host.TypeRef
/-!
Host types: the types of the host program that may stand behind types of the schema.
-/
namespace SchemaCoverage.Host

/-- An abstract type stands for others; a concrete type is what values really have. -/
inductive TypeKind
  | abstract
  | concrete
deriving Repr, DecidableEq

/-- The written name of a kind. -/
def TypeKind.render : TypeKind → String
  | .abstract => "abstract"
  | .concrete => "concrete"

/-- A host type: its path, its members in order with their types, the abstract types that it
implements and the types that it permits as implementations. -/
structure HostType where
  path : String
  kind : TypeKind
  members : Assoc String TypeRef
  implements : List String
  permits : List String
deriving Repr, DecidableEq

namespace HostType

/-- A type of which only path and kind are known. -/
def bare (path : String) (kind : TypeKind) : HostType :=
  ⟨path, kind, [], [], []⟩

/-- A concrete type without members. -/
def concrete (path : String) : HostType :=
  bare path .concrete

/-- An abstract type without members. -/
def abstract (path : String) : HostType :=
  bare path .abstract

/-- The last segment of the path. -/
def simpleName (type : HostType) : String :=
  Host.simpleName type.path

/-- What stands before the last segment of the path. -/
def modulePath (type : HostType) : String :=
  moduleOf type.path

/-- The type stands for others. -/
def isAbstract (type : HostType) : Bool :=
  type.kind == .abstract

/-- The type of a member. -/
def member? (type : HostType) (name : String) : Option TypeRef :=
  type.members.find? name

/-- Adds a member, or gives a known member another type. -/
def withMember (type : HostType) (name : String) (ref : TypeRef) : HostType :=
  { type with members := type.members.put name ref }

/-- Adds a path to what the type implements. -/
def implementing (type : HostType) (path : String) : HostType :=
  { type with implements := Assoc.addNew type.implements path }

/-- Adds a path to what the type permits. -/
def permitting (type : HostType) (path : String) : HostType :=
  { type with permits := Assoc.addNew type.permits path }

end HostType

end SchemaCoverage.Host
