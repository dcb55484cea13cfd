import SchemaCoverage.Candidates.Table
import SchemaCoverage.Schema.Graph
/-!
Resolvers find the host types that may stand behind a schema type where a certain host type is
declared. A resolver may have no opinion on a type; in a chain the first opinion counts.
-/
namespace SchemaCoverage.Candidates

open Host Schema

/-- Why a resolver does not fit a schema and a registry. -/
inductive ConfigError
  | unknownHostType (path type : String)
  | unknownSchemaType (path type : String)
deriving Repr, DecidableEq

/-- The error in words. -/
def ConfigError.message : ConfigError → String
  | .unknownHostType path type =>
      "The class name table maps `" ++ path ++ "` to the `" ++ type ++
        "` schema type, but no host type with that path is registered"
  | .unknownSchemaType path type =>
      "The class name table maps `" ++ path ++ "` to `" ++ type ++
        "`, but the schema defines no type with that name"

/-- A type name of a schema, and a registered path, in each place of a table. -/
def Table.check (table : Table) (graph : Graph) (registry : Registry) : Except ConfigError Unit :=
  table.pairs.forM fun (type, path) =>
    if !graph.hasType type then .error (.unknownSchemaType path type)
    else if !registry.contains path then .error (.unknownHostType path type)
    else .ok ()

/-- The path of a simple name in the module of a declared type. -/
def siblingPath (declared : HostType) (name : String) : String :=
  if declared.modulePath.isEmpty then name else declared.modulePath ++ "::" ++ name

/-- The registered types of a simple name that a declared type leads to: its sibling first, then
those that it permits. Without a declared type all registered types of that name are found. -/
def byName (registry : Registry) (name : String) : Option HostType → List String
  | none => (registry.types.filter (·.simpleName == name)).map (·.path)
  | some declared =>
      let sibling := siblingPath declared name
      let siblings := if registry.contains sibling then [sibling] else []
      (declared.permits.filter fun path =>
        simpleName path == name && registry.contains path).foldl Assoc.addNew siblings

/-- A way to find candidates: a table, a naming convention, a function of any other kind with the check
of what it is configured with, or a chain of resolvers. Without a check of its own a function fits
everything. -/
inductive Resolver
  | table (entries : Table)
  | convention (className : String → String)
  | custom (find : String → Option HostType → Registry → Option (List String))
      (check : Graph → Registry → Except ConfigError Unit := fun _ _ => .ok ())
  | chain (resolvers : List Resolver)
deriving Inhabited

namespace Resolver

/-- A naming convention in words, whatever its function. -/
def conventionText : String :=
  "NamingConventionClassResolver \x7b .. \x7d"

mutual

/-- The paths found for a schema type where a host type is declared, if there is an opinion. -/
def resolve (registry : Registry) (type : String) (declared : Option HostType) :
    Resolver → Option (List String)
  | .table entries => entries.candidates? type
  | .convention className => some (byName registry (className type) declared)
  | .custom find _ => find type declared registry
  | .chain resolvers => resolveFirst registry type declared resolvers

/-- The first opinion of some resolvers. -/
def resolveFirst (registry : Registry) (type : String) (declared : Option HostType) :
    List Resolver → Option (List String)
  | [] => none
  | resolver :: others =>
      match resolve registry type declared resolver with
      | some paths => some paths
      | none => resolveFirst registry type declared others

end

mutual

/-- All that a resolver is made of fits a schema and a registry. -/
def check (graph : Graph) (registry : Registry) : Resolver → Except ConfigError Unit
  | .table entries => entries.check graph registry
  | .convention _ => .ok ()
  | .custom _ check => check graph registry
  | .chain resolvers => checkAll graph registry resolvers

/-- The first misfit among some resolvers. -/
def checkAll (graph : Graph) (registry : Registry) : List Resolver → Except ConfigError Unit
  | [] => .ok ()
  | resolver :: others =>
      match check graph registry resolver with
      | .ok () => checkAll graph registry others
      | .error error => .error error

end

end Resolver

end SchemaCoverage.Candidates
