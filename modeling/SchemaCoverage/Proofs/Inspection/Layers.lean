import SchemaCoverage.Host.Wrappers
import SchemaCoverage.Proofs.Candidates.Plain
import SchemaCoverage.Proofs.Controller.Coordinates
/-!
Schemas, host types and methods without layers. In place of the type of a field stands the name inside
all lists, and in place of a reference its element type. All look-ups of names and paths come to the
same with and without layers.
-/
namespace SchemaCoverage

namespace Schema

/-- The name inside all lists, with null. -/
def FieldType.unlayered (type : FieldType) : FieldType :=
  .named type.innermost true .builtin

/-- The field with no more than the name inside its type. -/
def Field.unlayered (field : Field) : Field :=
  { field with type := field.type.unlayered }

def Content.unlayered : Content → Content
  | .input fields => .input (fields.map Field.unlayered)
  | .interface interfaces fields => .interface interfaces (fields.map Field.unlayered)
  | .object interfaces fields => .object interfaces (fields.map Field.unlayered)
  | content => content

/-- The type with such fields. -/
def GraphType.unlayered (type : GraphType) : GraphType :=
  { type with content := type.content.unlayered }

/-- The graph of such types. -/
def Graph.unlayered (graph : Graph) : Graph :=
  { graph with types := graph.types.map GraphType.unlayered }

namespace Field

variable {field field' : Field}

theorem name_eq_of_unlayered (h : field.unlayered = field'.unlayered) :
    field.name = field'.name := by
  have hname : field.unlayered.name = field'.unlayered.name := congrArg name h
  exact hname

theorem coordinate_eq_of_unlayered (h : field.unlayered = field'.unlayered) :
    field.coordinate = field'.coordinate := by
  have hcoordinate : field.unlayered.coordinate = field'.unlayered.coordinate :=
    congrArg coordinate h
  exact hcoordinate

theorem arguments_eq_of_unlayered (h : field.unlayered = field'.unlayered) :
    field.arguments = field'.arguments := by
  have harguments : field.unlayered.arguments = field'.unlayered.arguments := congrArg arguments h
  exact harguments

theorem innermost_eq_of_unlayered (h : field.unlayered = field'.unlayered) :
    field.type.innermost = field'.type.innermost := by
  have hinnermost : field.unlayered.type.innermost = field'.unlayered.type.innermost :=
    congrArg (·.type.innermost) h
  exact hinnermost

end Field

namespace GraphType

variable (type : GraphType)

@[simp] theorem name_unlayered : type.unlayered.name = type.name := rfl

@[simp] theorem kind_unlayered : type.unlayered.kind = type.kind := by
  unfold kind unlayered
  cases type.content <;> rfl

@[simp] theorem fields_unlayered : type.unlayered.fields = type.fields.map Field.unlayered := by
  unfold fields unlayered
  cases type.content <;> rfl

@[simp] theorem interfaces_unlayered : type.unlayered.interfaces = type.interfaces := by
  unfold interfaces unlayered
  cases type.content <;> rfl

@[simp] theorem members_unlayered : type.unlayered.members = type.members := by
  unfold members unlayered
  cases type.content <;> rfl

@[simp] theorem isComposite_unlayered : type.unlayered.isComposite = type.isComposite := by
  simp [isComposite]

@[simp] theorem implements_unlayered (interface : String) :
    type.unlayered.implements interface = type.implements interface := by
  simp [implements]

theorem name_eq_of_unlayered {type type' : GraphType} (h : type.unlayered = type'.unlayered) :
    type.name = type'.name := by
  simpa using congrArg name h

end GraphType

namespace Graph

variable (graph : Graph)

@[simp] theorem type?_unlayered (name : String) :
    graph.unlayered.type? name = (graph.type? name).map GraphType.unlayered := by
  simp [type?, findType?, unlayered, Function.comp_def]

@[simp] theorem hasType_unlayered : graph.unlayered.hasType = graph.hasType := by
  funext name
  simp [hasType]

@[simp] theorem field?_unlayered (coordinate : Coordinate) :
    graph.unlayered.field? coordinate = (graph.field? coordinate).map Field.unlayered := by
  unfold field?
  rw [type?_unlayered]
  cases graph.type? coordinate.type with
  | none => rfl
  | some type =>
      simp only [Option.map_some, GraphType.isComposite_unlayered, GraphType.fields_unlayered]
      split
      · rw [List.find?_map]
        rfl
      · rfl

@[simp] theorem implementations_unlayered (interface : String) :
    graph.unlayered.implementations interface = graph.implementations interface := by
  simp [implementations, unlayered, List.filter_map, Function.comp_def]

@[simp] theorem possibleTypes_unlayered (name : String) :
    graph.unlayered.possibleTypes name = graph.possibleTypes name := by
  unfold possibleTypes
  rw [type?_unlayered]
  cases graph.type? name <;> simp

@[simp] theorem rootName?_unlayered (operation : Operation) :
    graph.unlayered.rootName? operation = graph.rootName? operation := rfl

@[simp] theorem roots_unlayered :
    graph.unlayered.roots = graph.roots.map (Prod.map id GraphType.unlayered) := by
  unfold roots
  rw [List.map_filterMap]
  congr 1
  funext operation
  rw [rootName?_unlayered]
  cases graph.rootName? operation with
  | none => rfl
  | some name => cases hfind : graph.type? name <;> simp [hfind]

end Graph

end Schema

namespace Host

/-- The host type with the element types of its members. -/
def HostType.unlayered (wrappers : Wrappers) (host : HostType) : HostType :=
  { host with members := host.members.map (Prod.map id (TypeRef.element wrappers)) }

/-- The registry of such host types. -/
def Registry.unlayered (wrappers : Wrappers) (registry : Registry) : Registry :=
  ⟨registry.types.map (HostType.unlayered wrappers)⟩

section

variable (wrappers : Wrappers)

namespace HostType

variable (host : HostType)

@[simp] theorem path_unlayered : (host.unlayered wrappers).path = host.path := rfl

@[simp] theorem permits_unlayered : (host.unlayered wrappers).permits = host.permits := rfl

@[simp] theorem isAbstract_unlayered :
    (host.unlayered wrappers).isAbstract = host.isAbstract := rfl

@[simp] theorem member?_unlayered (name : String) :
    (host.unlayered wrappers).member? name = (host.member? name).map (TypeRef.element wrappers) :=
  Assoc.find?_map _ _ _

variable {wrappers} {host host' : HostType}

theorem path_eq_of_unlayered (h : host.unlayered wrappers = host'.unlayered wrappers) :
    host.path = host'.path := by
  simpa using congrArg path h

end HostType

namespace Registry

variable (registry : Registry)

@[simp] theorem get?_unlayered (path : String) :
    (registry.unlayered wrappers).get? path =
      (registry.get? path).map (HostType.unlayered wrappers) :=
  List.find?_map ..

@[simp] theorem contains_unlayered : (registry.unlayered wrappers).contains = registry.contains := by
  funext path
  simp [contains]

theorem contains_eq_of_unlayered {wrappers : Wrappers} {registry registry' : Registry}
    (h : registry.unlayered wrappers = registry'.unlayered wrappers) :
    registry.contains = registry'.contains := by
  rw [← contains_unlayered wrappers, h, contains_unlayered]

@[simp] theorem paths_unlayered : (registry.unlayered wrappers).paths = registry.paths :=
  List.map_map

@[simp] theorem implementsOf_unlayered :
    (registry.unlayered wrappers).implementsOf = registry.implementsOf := by
  funext path
  simp only [implementsOf, get?_unlayered, Option.map_map]
  rfl

@[simp] theorem permitsOf_unlayered :
    (registry.unlayered wrappers).permitsOf = registry.permitsOf := by
  funext path
  simp only [permitsOf, get?_unlayered, Option.map_map]
  rfl

@[simp] theorem isAssignable_unlayered :
    (registry.unlayered wrappers).isAssignable = registry.isAssignable := by
  funext candidate declared
  simp [isAssignable, leadsTo]

end Registry

end

end Host

namespace Controller

open Schema Host

/-- The method with the element type of what it returns. -/
def Method.unlayered (wrappers : Wrappers) (method : Method) : Method :=
  { method with returns := method.returns.element wrappers }

namespace Registry

/-- The registry of such methods. -/
def unlayered (wrappers : Wrappers) (registry : Registry) : Registry :=
  ⟨registry.mappings.map (Prod.map id (Method.unlayered wrappers))⟩

variable (wrappers : Wrappers) (registry : Registry) (graph : Graph)

theorem byCoordinate_unlayered_graph :
    registry.byCoordinate graph.unlayered = registry.byCoordinate graph := by
  unfold byCoordinate addByCoordinate Target.coordinate
  simp only [Graph.rootName?_unlayered]

/-- Which methods are taken for their coordinates does not depend on what they return. -/
theorem byCoordinate_unlayered :
    ((registry.unlayered wrappers).byCoordinate graph).1 =
      (registry.byCoordinate graph).1.map (Prod.map id (Method.unlayered wrappers)) := by
  apply Assoc.eq_of_keys_eq (keys_byCoordinate_nodup _ graph)
  · rw [Assoc.keys_map, keys_byCoordinate, keys_byCoordinate, unlayered, List.map_map]
    rfl
  · intro coordinate
    rw [Assoc.find?_map, find?_byCoordinate, find?_byCoordinate, unlayered, List.find?_map,
      Option.map_map, Option.map_map]
    rfl

end Registry

end Controller

namespace Candidates.Resolver

open Schema Host

/-- The functions in a resolver do not tell two inputs apart. They answer alike from both registries when
they are asked about what both have under a path, and their checks come out alike. -/
inductive AnswersAlike (graph graph' : Graph) (hosts hosts' : Registry) : Resolver → Prop
  | table (entries : Table) : AnswersAlike graph graph' hosts hosts' (.table entries)
  | convention (className : String → String) :
      AnswersAlike graph graph' hosts hosts' (.convention className)
  | custom {find : String → Option HostType → Registry → Option (List String)}
      {check : Graph → Registry → Except ConfigError Unit} :
      (∀ type path, hosts.contains path = true →
        find type (hosts.get? path) hosts = find type (hosts'.get? path) hosts') →
      check graph hosts = check graph' hosts' →
      AnswersAlike graph graph' hosts hosts' (.custom find check)
  | chain {resolvers : List Resolver} :
      (∀ resolver ∈ resolvers, AnswersAlike graph graph' hosts hosts' resolver) →
      AnswersAlike graph graph' hosts hosts' (.chain resolvers)

variable {graph graph' : Graph} {hosts hosts' : Registry} {wrappers : Wrappers}
  {declared declared' : HostType} {path : String} {resolver : Resolver}

/-- Tables and naming conventions do not tell any two inputs apart. -/
theorem Plain.answersAlike (h : resolver.Plain) (graph graph' : Graph) (hosts hosts' : Registry) :
    resolver.AnswersAlike graph graph' hosts hosts' := by
  induction h with
  | table entries => exact .table entries
  | convention className => exact .convention className
  | chain _ ih => exact .chain ih

namespace AnswersAlike

variable (h : resolver.AnswersAlike graph graph' hosts hosts')
  (hhosts : hosts.unlayered wrappers = hosts'.unlayered wrappers)

include h hhosts

theorem resolve_eq (hget : hosts.get? path = some declared)
    (hget' : hosts'.get? path = some declared') (type : String) :
    resolve hosts type (some declared) resolver = resolve hosts' type (some declared') resolver := by
  have hpaths := Registry.contains_eq_of_unlayered hhosts
  have hdeclared : declared.unlayered wrappers = declared'.unlayered wrappers := by
    have hfound := Registry.get?_unlayered wrappers hosts path
    rw [hhosts, Registry.get?_unlayered, hget, hget'] at hfound
    exact (Option.some.inj hfound).symm
  have hpath := HostType.path_eq_of_unlayered hdeclared
  have hpermits : declared.permits = declared'.permits := by
    simpa using congrArg HostType.permits hdeclared
  induction h with
  | table entries => rfl
  | convention className =>
      rw [resolve, resolve, byName_congr hpaths hpath hpermits]
  | custom hfind =>
      have hfound := hfind type path (by simp [Registry.contains, hget])
      rwa [hget, hget'] at hfound
  | chain _ ih => exact resolveFirst_congr ih

theorem check_eq (hgraph : graph.unlayered = graph'.unlayered) :
    check graph hosts resolver = check graph' hosts' resolver := by
  have htypes : graph.hasType = graph'.hasType := by
    rw [← Graph.hasType_unlayered, hgraph, Graph.hasType_unlayered]
  have hpaths := Registry.contains_eq_of_unlayered hhosts
  induction h with
  | table entries => exact table_check_congr htypes hpaths entries
  | convention className => rfl
  | custom _ hcheck => exact hcheck
  | chain _ ih => exact checkAll_congr ih

end AnswersAlike

end Candidates.Resolver

end SchemaCoverage
