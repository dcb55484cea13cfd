import SchemaCoverage.Declaration.Outline
/-!
Descriptions: the host type references that types stand for, and the host type that an outline
describes. References to a value stand for the value; runs of values are lists; of the types with
arguments only the usual containers can be described.
-/
namespace SchemaCoverage.Declaration

open Host

/-- The plain types that every program has. -/
def plainTypes : List String := [
  "bool", "char", "f32", "f64", "i8", "i16", "i32", "i64", "i128", "isize", "str", "String", "u8",
  "u16", "u32", "u64", "u128", "usize"]

/-- The reference to a container around a type. -/
def containerRef? (name : String) (count : Nat) (inner : TypeRef) : Option TypeRef :=
  match name, count with
  | "Vec", 1 => some (.list inner)
  | "Option", 1 => some (.optional inner)
  | "Box", 1 | "Rc", 1 | "Arc", 1 | "Result", 2 => some (.named name [inner])
  | _, _ => none

namespace Shape

mutual

/-- The reference that a type stands for, where the declared types of a scope go by their paths. They
are written by their whole names, plain types and containers may be qualified. -/
def describe (scope : Assoc String String) : Shape → Option TypeRef
  | .reference target => describe scope target
  | .slice element => (describe scope element).map .list
  | .named segments [] =>
      match scope.find? ("::".intercalate segments) with
      | some path => some (.named path [])
      | none =>
          let name := segments.getLast?.getD ""
          if name ∈ plainTypes then some (.named name []) else none
  | .named segments arguments =>
      (describeFirst scope arguments).bind
        (containerRef? (segments.getLast?.getD "") arguments.length)
  | .other => none

/-- The reference that the first of some types stands for. -/
def describeFirst (scope : Assoc String String) : List Shape → Option TypeRef
  | [] => none
  | first :: _ => describe scope first

end

/-- The path that a type stands for; it is empty if the reference has none. -/
def describedPath? (scope : Assoc String String) (shape : Shape) : Option String :=
  (shape.describe scope).map fun ref => ref.path?.getD ""

end Shape

namespace Outline

/-- The path of the declared type, where the declaration stands in a module. -/
def ownPath (outline : Outline) (module : String) : String :=
  match outline.path with
  | some (_, value) => value
  | none => module ++ "::" ++ outline.name

/-- The reference to the declared type. -/
def ownRef (outline : Outline) (module : String) : TypeRef :=
  .named (outline.ownPath module) []

/-- The type of a member. -/
def memberRef? (scope : Assoc String String) (member : Member) : Option TypeRef :=
  match member.type with
  | some type => type.shape.describe scope
  | none => some .unnamed

/-- The host type that an outline describes, if all types in it can be described. -/
def hostType? (outline : Outline) (module : String) (scope : Assoc String String) :
    Option HostType := do
  let bare := HostType.bare (outline.ownPath module) outline.kind
  let members ← outline.members.mapM fun member => do
    return (member.name, ← memberRef? scope member)
  let extra ← outline.extraMembers.mapM fun (name, type) => do
    return (name, ← type.shape.describe scope)
  let permits ← outline.permits.mapM (·.shape.describedPath? scope)
  let implements ← outline.implements.mapM (·.shape.describedPath? scope)
  let withMembers :=
    (members ++ extra).foldl (fun type (name, ref) => type.withMember name ref) bare
  return implements.foldl HostType.implementing (permits.foldl HostType.permitting withMembers)

end Outline

end SchemaCoverage.Declaration
