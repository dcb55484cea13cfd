import SchemaCoverage.Inspection.Memo
import SchemaCoverage.Schema.Builder
/-!
Inspectors: an inspector holds how schema types are matched with host types, and checks schemas
against the methods and types of host programs.
-/
namespace SchemaCoverage.Inspection

open Schema Host Candidates

/-- How schema types are matched with host types. -/
structure Inspector where
  resolver : Resolver
  policy : InterfacePolicy
  wrappers : Wrappers

/-- Why there is no report. -/
inductive InspectError
  | schema (error : BuildError)
  | config (error : ConfigError)
deriving Repr, DecidableEq

/-- The error in words. -/
def InspectError.message : InspectError → String
  | .schema error => "Failed to build the schema to inspect: " ++ error.message
  | .config error => "Invalid class resolver configuration: " ++ error.message

/-- A report with the warnings that were given on the way. -/
structure Outcome where
  report : Report
  warnings : List Warning
deriving Repr, DecidableEq

/-- What an inspector is made from. -/
structure Options where
  resolvers : List Resolver
  table : Table
  className : Option (String → String)
  policy : InterfacePolicy
  wrappers : Wrappers

namespace Options

/-- Host types go by the names of the schema types, interfaces are not checked themselves, and
the usual wrappers are looked through. -/
def standard : Options :=
  ⟨[], .empty, none, .concreteTypesOnly, .standard⟩

/-- Takes the explicit mappings of host types. -/
def withTypeNames (options : Options) (names : TypeNames) : Options :=
  { options with table := options.table.insertNames names }

/-- Takes one more resolver, which is asked before the mappings. -/
def withResolver (options : Options) (resolver : Resolver) : Options :=
  { options with resolvers := options.resolvers ++ [resolver] }

/-- Looks through one more wrapper type. -/
def withWrapper (options : Options) (name : String) : Options :=
  { options with wrappers := options.wrappers.insert name }

/-- The inspector: its own resolvers are asked first, then the mappings if there are any, and the
naming convention last. -/
def inspector (options : Options) : Inspector :=
  let table := if options.table.entries.isEmpty then [] else [Resolver.table options.table]
  let convention := Resolver.convention (options.className.getD id)
  { resolver := .chain (options.resolvers ++ table ++ [convention])
    policy := options.policy
    wrappers := options.wrappers }

end Options

namespace Inspector

/-- What an inspection of a schema looks into. -/
def setting (inspector : Inspector) (graph : Graph) (controllers : Controller.Registry)
    (hosts : Registry) : Setting :=
  { graph
    methods := (controllers.byCoordinate graph).1
    registry := hosts
    resolver := inspector.resolver
    policy := inspector.policy
    wrappers := inspector.wrappers }

/-- Inspects a schema, if the resolver fits it. -/
def inspect (inspector : Inspector) (graph : Graph) (controllers : Controller.Registry)
    (hosts : Registry) : Except InspectError Outcome :=
  match inspector.resolver.check graph hosts with
  | .error error => .error (.config error)
  | .ok () =>
      let setting := inspector.setting graph controllers hosts
      let shadowed := (controllers.byCoordinate graph).2.map Warning.shadowedMethod
      let memo := Memo.ofSteps setting setting.trace
      .ok ⟨setting.report, shadowed ++ memo.warnings⟩

/-- Builds the schema from what is loaded and inspects it. -/
def inspectBuilt (inspector : Inspector) (built : Except BuildError Graph)
    (controllers : Controller.Registry) (hosts : Registry) : Except InspectError Outcome :=
  match built with
  | .ok graph => inspector.inspect graph controllers hosts
  | .error error => .error (.schema error)

/-- Inspects the schema in a text. -/
def inspectText (inspector : Inspector) (text : String) (controllers : Controller.Registry)
    (hosts : Registry) : Except InspectError Outcome :=
  inspector.inspectBuilt (do (← Builder.empty.loadText none text).build) controllers hosts

/-- Inspects the schema in some files. -/
def inspectFiles (inspector : Inspector) (files : List (String × Option Files.Entry))
    (controllers : Controller.Registry) (hosts : Registry) : Except InspectError Outcome :=
  inspector.inspectBuilt (do (← Builder.empty.loadFiles files).build) controllers hosts

end Inspector

end SchemaCoverage.Inspection
