import SchemaCoverage.Candidates.Resolver
import SchemaCoverage.Controller.Registry
import SchemaCoverage.Host.Wrappers
import SchemaCoverage.Inspection.Tally
/-!
Walking a schema from its root types. Each object or interface type that is reached is checked
field by field against the host types that may stand behind it, each pair of a type and a host
type once. What a field leads to depends on the field and on what serves it alone, so the walk is
a depth-first search along a fixed relation between such pairs.
-/
namespace SchemaCoverage.Inspection

open Schema Host Candidates

/-- Whether the fields of an interface are checked against an abstract host type that is declared
for it, beside those of the types that implement it. -/
inductive InterfacePolicy
  | concreteTypesOnly
  | includeAbstractType
deriving Repr, DecidableEq

/-- The written name of a policy. -/
def InterfacePolicy.code : InterfacePolicy → String
  | .concreteTypesOnly => "concrete_types_only"
  | .includeAbstractType => "include_abstract_type"

/-- The policy of a written name. -/
def InterfacePolicy.ofCode? : String → Option InterfacePolicy
  | "concrete_types_only" => some .concreteTypesOnly
  | "include_abstract_type" => some .includeAbstractType
  | _ => none

/-- All that an inspection looks into. -/
structure Setting where
  graph : Graph
  methods : Assoc Coordinate Controller.Method
  registry : Registry
  resolver : Resolver
  policy : InterfacePolicy
  wrappers : Wrappers

/-- One step of a walk. -/
inductive Step
  /-- Something to record. -/
  | record (event : Event)
  /-- The candidates of a type are looked up where a host type is declared. -/
  | consult (type : String) (declared : HostType)
  /-- A type is to be checked against a host type, unless that was done. -/
  | visit (type : GraphType) (host : HostType)

namespace Setting

/-- The paths that the resolver finds for a type where a host type is declared. -/
def candidatePaths (setting : Setting) (type : String) (declared : HostType) : List String :=
  (setting.resolver.resolve setting.registry type (some declared)).getD []

/-- The registered host types that may stand behind a type where a host type is declared. -/
def candidates (setting : Setting) (type : String) (declared : HostType) : List HostType :=
  (setting.candidatePaths type declared).filterMap setting.registry.get?

/-- The host type that a field's element type names, or why there is none. -/
def declaredHost (setting : Setting) (element : TypeRef) : Except SkipReason HostType :=
  match element with
  | .named path _ =>
      match setting.registry.get? path with
      | some host => .ok host
      | none => .error .unknownHostType
  | _ => .error .unnamedHostType

/-- The host types that a value of an object type may really have where a host type is declared.
A concrete type that is bound directly stands for the object type as it is; in place of an
interface or union it stands only for the object types that it is a candidate of. -/
def activeHosts (setting : Setting) (type : String) (declared : HostType) (direct : Bool) :
    List HostType :=
  if declared.isAbstract then
    (setting.candidates type declared).filter fun candidate =>
      setting.registry.isAssignable candidate.path declared.path
  else if direct || (setting.candidates type declared).any (·.path == declared.path) then
    [declared]
  else []

/-- Why an object type has no active host type where a host type is declared. -/
def inactiveReason (setting : Setting) (type : String) (declared : HostType) : SkipReason :=
  if !declared.isAbstract then .notActiveImplementation
  else if (setting.candidates type declared).isEmpty then .noHostCandidate
  else .notAssignable

/-- Skips a type that a field returns. -/
def skipSteps (type : String) (host : Option String) (via : Coordinate) (reason : SkipReason) :
    List Step :=
  [.record (.skip ⟨type, host, some via, reason⟩), .record (.skipped type)]

/-- Follows an object type to its active host types, or skips it for want of any. -/
def memberSteps (setting : Setting) (via : Coordinate) (member : GraphType) (declared : HostType)
    (direct : Bool) : List Step :=
  let lookup := if direct && !declared.isAbstract then [] else [Step.consult member.name declared]
  match setting.activeHosts member.name declared direct with
  | [] =>
      let nearest := (setting.candidates member.name declared).head?.map (·.path)
      lookup ++ skipSteps member.name nearest via (setting.inactiveReason member.name declared)
  | hosts => lookup ++ hosts.map (.visit member)

/-- Follows a field that returns an object type. -/
def objectSteps (setting : Setting) (via : Coordinate) (type : GraphType) (element : TypeRef) :
    List Step :=
  match setting.declaredHost element with
  | .ok declared => setting.memberSteps via type declared true
  | .error reason => skipSteps type.name element.path? via reason

/-- The object types that a value of a type may have. -/
def possibleObjects (setting : Setting) (type : String) : List GraphType :=
  (setting.graph.possibleTypes type).filterMap fun name =>
    (setting.graph.type? name).filter (·.kind == .object)

/-- The interface itself is checked against an abstract type declared for it. -/
def checksInterface (setting : Setting) (type : GraphType) (declared : HostType) : Bool :=
  setting.policy == .includeAbstractType && declared.isAbstract && type.kind == .interface

/-- Follows a field that returns an interface or union to the object types it may be. It is
resolved if anything is checked for it, and skipped otherwise. -/
def polymorphicSteps (setting : Setting) (via : Coordinate) (type : GraphType)
    (element : TypeRef) : List Step :=
  match setting.declaredHost element with
  | .error reason =>
      (setting.graph.possibleTypes type.name).flatMap
        (fun member => skipSteps member element.path? via reason) ++
        [.record (.skipped type.name)]
  | .ok declared =>
      let members := setting.possibleObjects type.name
      let itself := setting.checksInterface type declared
      let checked := itself || members.any fun member =>
        !(setting.activeHosts member.name declared false).isEmpty
      [.record (.visiting type.name)] ++
        (if itself then [.visit type declared] else []) ++
        members.flatMap (setting.memberSteps via · declared false) ++
        [.record (if checked then .resolved type.name else .skipped type.name)]

/-- Follows a field that is served by a reference to the type that it returns. -/
def fieldSteps (setting : Setting) (field : Field) (serving : TypeRef) : List Step :=
  match setting.graph.type? field.type.innermost with
  | none => []
  | some type =>
      let element := serving.element setting.wrappers
      match type.kind with
      | .object => setting.objectSteps field.coordinate type element
      | .interface | .union => setting.polymorphicSteps field.coordinate type element
      | .enum | .scalar => [.record (.resolved type.name)]
      | .inputObject => []

/-- What a method registered for a field returns. -/
def registered? (setting : Setting) (field : Field) : Option TypeRef :=
  (setting.methods.find? field.coordinate).map (·.returns)

/-- What serves a field of a type that is checked against a host type: a registered method, or
else the member of the same name. -/
def serving? (setting : Setting) (host : HostType) (field : Field) : Option TypeRef :=
  (setting.registered? field).or (host.member? field.name)

/-- Follows a field, or finds it unmapped for want of anything that serves it. -/
def serveSteps (setting : Setting) (field : Field) : Option TypeRef → List Step
  | some serving => setting.fieldSteps field serving
  | none => [.record (.unmappedField field.coordinate)]

/-- Checks the fields of a type against a host type. -/
def pairSteps (setting : Setting) (type : GraphType) (host : HostType) : List Step :=
  [.record (.checked type.name host.path), .record (.visiting type.name)] ++
    type.fields.flatMap (fun field => setting.serveSteps field (setting.serving? host field)) ++
    [.record (.resolved type.name)]

/-- Checks the fields of a root type against the registered methods. -/
def rootSteps (setting : Setting) (root : GraphType) : List Step :=
  [.record (.visiting root.name)] ++
    root.fields.flatMap (fun field => setting.serveSteps field (setting.registered? field)) ++
    [.record (.resolved root.name)]

/-- Every pair of an object or interface type and a registered host type, by name. -/
def allPairs (setting : Setting) : List (String × String) :=
  (setting.graph.types.filter (·.isComposite)).flatMap fun type =>
    setting.registry.paths.map fun path => (type.name, path)

/-- Takes steps in order. A pair that is still to be checked is checked at once, before the steps
behind it, and is not to be checked again; the rest of the steps are what the walk did. -/
def walk (setting : Setting) (unchecked : List (String × String)) (steps : List Step) :
    List Step :=
  match steps with
  | [] => []
  | .visit type host :: rest =>
      if (type.name, host.path) ∈ unchecked then
        setting.walk (unchecked.erase (type.name, host.path)) (setting.pairSteps type host ++ rest)
      else setting.walk unchecked rest
  | step :: rest => step :: setting.walk unchecked rest
termination_by (unchecked.length, steps.length)
decreasing_by
  · have inside := ‹(type.name, host.path) ∈ unchecked›
    have := List.length_erase_of_mem inside
    have := List.length_pos_of_mem inside
    exact Prod.Lex.left _ _ (by omega)
  · exact Prod.Lex.right _ (by simp)
  · exact Prod.Lex.right _ (by simp)

/-- What the walk from all root types did. -/
def trace (setting : Setting) : List Step :=
  setting.walk setting.allPairs
    (setting.graph.roots.flatMap fun (_, root) => setting.rootSteps root)

/-- Registered methods whose field the schema lacks, and arguments that the field lacks. -/
def registrationEvents (setting : Setting) : List Event :=
  setting.methods.flatMap fun (coordinate, method) =>
    match setting.graph.field? coordinate with
    | none => [.unmappedRegistration ⟨coordinate, method.render⟩]
    | some field =>
        let missing := method.arguments.filter fun argument => argument ∉ field.arguments.keys
        missing.map fun argument => .unmappedArgument ⟨argument, coordinate, method.render⟩

/-- The event of a step that records one. -/
def eventOf? : Step → Option Event
  | .record event => some event
  | _ => none

/-- All events of an inspection. -/
def events (setting : Setting) : List Event :=
  setting.trace.filterMap eventOf? ++ setting.registrationEvents

/-- The report of an inspection. -/
def report (setting : Setting) : Report :=
  (Tally.ofEvents setting.events).report

end Setting

end SchemaCoverage.Inspection
