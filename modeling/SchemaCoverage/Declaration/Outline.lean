import SchemaCoverage.Declaration.HostAttribute
import SchemaCoverage.Declaration.MemberName
import SchemaCoverage.Host.HostType
/-!
Outlines: what a declaration says of its host type. A type with named fields is concrete and has
them as members; a type of variants is abstract and permits what its variants wrap.
-/
namespace SchemaCoverage.Declaration

/-- Why a declaration says nothing of a host type. -/
inductive OutlineError
  | genericType
  | tupleType
  | unionType
  | variantContent
  | badAttribute (fault : Fault)
deriving Repr, DecidableEq

/-- The error in words. -/
def OutlineError.message : OutlineError → String
  | .genericType => "`#[derive(HostType)]` does not support generic types"
  | .tupleType => "`#[derive(HostType)]` does not support tuple structs"
  | .unionType => "`#[derive(HostType)]` does not support unions"
  | .variantContent =>
      "`#[derive(HostType)]` enum variants must be unit variants or wrap exactly one type"
  | .badAttribute fault => fault.message

/-- A member from a field; its type may be left open. -/
structure Member where
  name : String
  type : Option TypeExpr
deriving Repr

/-- The host type of a declaration. -/
structure Outline where
  name : String
  /-- The path as written and as a text, if the declaration gives one. -/
  path : Option (String × String)
  kind : Host.TypeKind
  members : List Member
  permits : List TypeExpr
  /-- Members that are no fields. -/
  extraMembers : List (String × TypeExpr)
  implements : List TypeExpr
deriving Repr

namespace Outline

/-- The member that a field stands for, unless the field is skipped. -/
def memberOf? (field : NamedField) : Except Fault (Option Member) := do
  let entries ← hostEntries (fun _ => Parser.fieldEntry) field.attributes
  if .skip ∈ entries then return none
  let renamed := entries.filterMap fun entry =>
    match entry with
    | .rename name => some name
    | _ => none
  return some {
    name := renamed.getLast?.getD (memberName field.name)
    type := if .unnamed ∈ entries then none else some field.type }

/-- The types that variants wrap. A variant wraps one type or nothing. -/
def wrappedTypes : List VariantContent → Except OutlineError (List TypeExpr)
  | [] => .ok []
  | .nothing :: others => wrappedTypes others
  | .values [type] :: others => (wrappedTypes others).map (type :: ·)
  | _ :: _ => .error .variantContent

/-- The kind, the members and the permitted types of some content. -/
def ofContent : Content → Except OutlineError (Host.TypeKind × List Member × List TypeExpr)
  | .record fields =>
      match fields.mapM memberOf? with
      | .error fault => .error (.badAttribute fault)
      | .ok members => .ok (.concrete, members.filterMap id, [])
  | .empty => .ok (.concrete, [], [])
  | .choice variants => (wrappedTypes variants).map fun permits => (.abstract, [], permits)
  | .tuple => .error .tupleType
  | .union => .error .unionType

/-- The outline of a declaration. -/
def ofItem (item : Item) : Except OutlineError Outline := do
  if item.isGeneric then throw .genericType
  let entries ← (hostEntries Parser.typeEntry item.attributes).mapError .badAttribute
  let (kind, members, permits) ← ofContent item.content
  let paths := entries.filterMap fun entry =>
    match entry with
    | .path written value => some (written, value)
    | _ => none
  let extraMembers := entries.filterMap fun entry =>
    match entry with
    | .member name type => some (name, type)
    | _ => none
  let implements := entries.flatMap fun entry =>
    match entry with
    | .implements types => types
    | _ => []
  return {
    name := item.name, path := paths.getLast?, kind, members, permits, extraMembers, implements }

end Outline

end SchemaCoverage.Declaration
