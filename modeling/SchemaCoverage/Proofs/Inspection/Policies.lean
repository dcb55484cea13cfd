import SchemaCoverage.Proofs.Controller.Coordinates
import SchemaCoverage.Proofs.Inspection.Settled
/-!
The two policies for interfaces. Where interfaces are checked themselves the walk comes to more
pairs, never to fewer, so that nothing is found without them that is not found with them. What is
found in addition are fields of interfaces that an abstract host type lacks.
-/
namespace SchemaCoverage.Inspection

open Schema Host Candidates

namespace Setting

/-- The same setting with interfaces checked themselves. -/
def including (setting : Setting) : Setting :=
  { setting with policy := .includeAbstractType }

variable {setting : Setting}

theorem Target.including {type member : GraphType} {element : TypeRef} {host : HostType}
    (h : setting.Target type element member host) :
    setting.including.Target type element member host := by
  cases h with
  | itself hdeclares hconcrete hkind => exact .itself hdeclares hconcrete hkind
  | assignable hdeclares habstract hpossible hcandidate hassignable =>
      exact .assignable hdeclares habstract hpossible hcandidate hassignable
  | candidate hdeclares hconcrete hpolymorphic hpossible hcandidate =>
      exact .candidate hdeclares hconcrete hpolymorphic hpossible hcandidate
  | interface hdeclares habstract hinterface _ =>
      exact .interface hdeclares habstract hinterface rfl

theorem Leads.including {field : Field} {serving : TypeRef} {type : GraphType} {host : HostType}
    (h : setting.Leads field serving type host) :
    setting.including.Leads field serving type host := by
  obtain ⟨returned, hreturned, htarget⟩ := h
  exact ⟨returned, hreturned, htarget.including⟩

/-- The pairs that are checked where interfaces are checked are closed also where they are not. -/
theorem closed_checkedPairs_including : setting.Closed setting.including.checkedPairs := by
  have hclosed : setting.including.Closed setting.including.checkedPairs := closed_checkedPairs
  constructor
  case root =>
    intro _ _ _ _ _ _ hroot hfield hserving hleads
    exact hclosed.root hroot hfield hserving hleads.including
  case member =>
    intro _ _ _ _ _ _ hpair hfield hserving hleads
    exact hclosed.member hpair hfield hserving hleads.including

theorem checkedPairs_subset_including : setting.checkedPairs ⊆ setting.including.checkedPairs :=
  fun _ hpair => closed_checkedPairs_including.of_reached (mem_checkedPairs.1 hpair)

theorem Followed.including {field : Field} {serving : TypeRef}
    (h : setting.Followed field serving) : setting.including.Followed field serving := by
  cases h with
  | root hroot hfield hserving => exact .root hroot hfield hserving
  | member hpair hfield hserving =>
      exact .member (checkedPairs_subset_including hpair) hfield hserving

theorem unmappedField_mem_including {coordinate : Coordinate}
    (h : .unmappedField coordinate ∈ setting.events) :
    .unmappedField coordinate ∈ setting.including.events := by
  rcases unmappedField_mem_events.1 h with hroot | ⟨type, host, field, hreached, hfield⟩
  · exact unmappedField_mem_events.2 (Or.inl hroot)
  · have hpair := checkedPairs_subset_including (mem_checkedPairs.2 hreached)
    exact unmappedField_mem_events.2
      (Or.inr ⟨type, host, field, mem_checkedPairs.1 hpair, hfield⟩)

/-- What a field resolves it resolves also where interfaces are checked. -/
theorem resolved_mem_fieldSteps_including {field : Field} {serving : TypeRef} {name : String}
    (h : .record (.resolved name) ∈ setting.fieldSteps field serving) :
    .record (.resolved name) ∈ setting.including.fieldSteps field serving := by
  obtain ⟨returned, hreturned, rfl, hother⟩ := returned_of_resolved_mem_fieldSteps h
  obtain ⟨returned', hreturned', h⟩ := mem_fieldSteps.1 h
  rw [hreturned, Option.some.injEq] at hreturned'
  subst hreturned'
  refine mem_fieldSteps.2 ⟨returned, hreturned, ?_⟩
  rcases h with ⟨hobject, -⟩ | ⟨hkind, h⟩ | hleaf
  · exact absurd hobject hother
  · -- an interface or union is resolved if anything is visited for it
    obtain ⟨member, host, hvisit⟩ := resolved_mem_polymorphicSteps.1 h
    have htarget := (visit_mem_polymorphicSteps_iff_target hkind).1 hvisit
    exact Or.inr (Or.inl ⟨hkind, resolved_mem_polymorphicSteps.2
      ⟨member, host, (visit_mem_polymorphicSteps_iff_target hkind).2 htarget.including⟩⟩)
  · exact Or.inr (Or.inr hleaf)

theorem resolved_mem_including {name : String} (h : .resolved name ∈ setting.events) :
    .resolved name ∈ setting.including.events := by
  apply (mem_events_iff_followed rfl).2
  rcases (mem_events_iff_followed rfl).1 h with hroot | ⟨type, host, hpair, hname⟩ |
    ⟨field, serving, hfollowed, hrecord⟩
  · exact Or.inl hroot
  · exact Or.inr (Or.inl ⟨type, host, checkedPairs_subset_including hpair, hname⟩)
  · exact Or.inr (Or.inr
      ⟨field, serving, hfollowed.including, resolved_mem_fieldSteps_including hrecord⟩)

/-- An interface is checked itself against abstract types alone, and if the policy says so. -/
theorem policy_of_checked_interface {type : GraphType} {host : HostType}
    (hpair : (type, host) ∈ setting.checkedPairs) (hkind : type.kind = .interface) :
    setting.policy = .includeAbstractType ∧ host.kind = .abstract := by
  obtain ⟨field, serving, -, returned, -, htarget⟩ := exists_followed_of_checked hpair
  have hobject (hpossible : setting.Possible returned type) : False := by
    have := hpossible.2.2
    rw [hkind] at this
    cases this
  cases htarget with
  | itself _ _ hother => simp [hkind] at hother
  | assignable _ _ hpossible _ _ => exact (hobject hpossible).elim
  | candidate _ _ _ hpossible _ => exact (hobject hpossible).elim
  | interface _ habstract _ hpolicy => exact ⟨hpolicy, habstract⟩

/-- A field of an interface is unmapped only if interfaces are checked themselves. It then has no
method, and some abstract host type has no member for it. -/
theorem unmapped_interface_field (hwell : setting.graph.WellFormed) {interface : GraphType}
    (hmem : interface ∈ setting.graph.types) (hkind : interface.kind = .interface) {field : Field}
    (hfield : field ∈ interface.fields)
    (hunmapped : .unmappedField field.coordinate ∈ setting.events) :
    setting.policy = .includeAbstractType ∧ setting.registered? field = none ∧
      ∃ host, setting.registry.get? host.path = some host ∧ host.kind = .abstract ∧
        host.member? field.name = none := by
  have hparent := (hwell.fields interface hmem field hfield).2
  have hsame {type : GraphType} {other : Field} (hfind : setting.graph.type? type.name = some type)
      (hother : other ∈ type.fields) (hcoordinate : other.coordinate = field.coordinate) :
      type = interface ∧ other.name = field.name := by
    obtain ⟨hparents, hname⟩ := Coordinate.mk.inj hcoordinate
    rw [(hwell.fields type (mem_of_findType? hfind) other hother).2, hparent] at hparents
    rw [hparents, hwell.found interface hmem, Option.some.injEq] at hfind
    exact ⟨hfind.symm, hname⟩
  rcases unmappedField_mem_events.1 hunmapped with
    ⟨operation, root, other, hroot, hother, -, hcoordinate⟩ |
    ⟨type, host, other, hreached, hother, hserving, hcoordinate⟩
  · obtain ⟨hfind, hobject⟩ := root_found hwell hroot
    obtain ⟨rfl, -⟩ := hsame hfind hother hcoordinate
    rw [hkind] at hobject
    cases hobject
  · obtain ⟨rfl, hname⟩ := hsame hreached.known.1 hother hcoordinate
    obtain ⟨hpolicy, habstract⟩ := policy_of_checked_interface (mem_checkedPairs.2 hreached) hkind
    rw [serving?, registered?, hcoordinate, hname, Option.or_eq_none_iff] at hserving
    exact ⟨hpolicy, hserving.1, host, hreached.known.2, habstract, hserving.2⟩

end Setting

/-- How the report of an inspection where interfaces are checked goes beyond one where they are
not. -/
structure Report.Extends (graph : Graph) (controllers : Controller.Registry) (hosts : Registry)
    (concrete including : Report) : Prop where
  unmapped : ∀ coordinate ∈ concrete.unmappedFields, coordinate ∈ including.unmappedFields
  resolved : ∀ name, concrete.stateOf name = .resolved → including.stateOf name = .resolved
  /-- No field of an interface is unmapped unless interfaces are checked. -/
  silent : ∀ interface ∈ graph.types, interface.kind = .interface →
    ∀ field ∈ interface.fields, field.coordinate ∉ concrete.unmappedFields
  /-- An unmapped field of an interface has no registration, and an abstract type lacks it. -/
  lacking : ∀ interface ∈ graph.types, interface.kind = .interface →
    ∀ field ∈ interface.fields, field.coordinate ∈ including.unmappedFields →
      (∀ mapping ∈ controllers.mappings, mapping.1.coordinate graph ≠ field.coordinate) ∧
        ∃ host, hosts.get? host.path = some host ∧ host.kind = .abstract ∧
          host.member? field.name = none

/-- The document `type Query { node: Node }`, `interface Node { id: ID }` and
`type Book implements Node { id: ID }`. -/
def nodeDocuments : List (Option String × Sdl.Document) :=
  [(none, [
    .type ⟨"Query", .object [] [⟨"node", [], .named "Node" false, ⟨1, 14⟩⟩], ⟨1, 1⟩⟩,
    .type ⟨"Node", .interface [] [⟨"id", [], .named "ID" false, ⟨2, 18⟩⟩], ⟨2, 1⟩⟩,
    .type ⟨"Book", .object ["Node"] [⟨"id", [], .named "ID" false, ⟨3, 29⟩⟩], ⟨3, 1⟩⟩])]

/-- Books have the member that nodes lack. -/
def nodeHosts : Registry :=
  ⟨[⟨"app::Node", .abstract, [], [], ["app::Book"]⟩,
    ⟨"app::Book", .concrete, [("id", .unnamed)], [], []⟩]⟩

def nodeControllers : Controller.Registry :=
  ⟨[(.operation .query "node", ⟨"Nodes", "node", .named "app::Node" [], []⟩)]⟩

namespace Inspector

variable {resolver : Resolver} {wrappers : Wrappers} {controllers : Controller.Registry}
  {hosts : Registry} {graph : Graph}

/-- A field without a method is one that no registration comes to. -/
theorem not_registered_of_registered?_eq_none {inspector : Inspector} {field : Field}
    (h : (inspector.setting graph controllers hosts).registered? field = none) :
    ∀ mapping ∈ controllers.mappings, mapping.1.coordinate graph ≠ field.coordinate := by
  intro mapping hmem hcoordinate
  have hkey : field.coordinate ∉ (controllers.byCoordinate graph).1.keys := by
    rw [← Assoc.find?_eq_none_iff]
    exact Option.map_eq_none_iff.1 h
  rw [Controller.Registry.keys_byCoordinate, List.mem_eraseDups] at hkey
  exact hkey (List.mem_map.2 ⟨mapping, hmem, hcoordinate⟩)

/-- If the resolver fits the inputs, inspections with and without checks of interfaces both come to
a report, and the one with them goes beyond the other. -/
theorem including_extends_concrete {documents : List (Option String × Sdl.Document)}
    (hbuilt : Graph.ofDocuments documents = .ok graph)
    (hcheck : resolver.check graph hosts = .ok ()) :
    ∃ concrete including : Outcome,
      (Inspector.mk resolver .concreteTypesOnly wrappers).inspect graph controllers hosts =
        .ok concrete ∧
      (Inspector.mk resolver .includeAbstractType wrappers).inspect graph controllers hosts =
        .ok including ∧
      Report.Extends graph controllers hosts concrete.report including.report := by
  have hwell := wellFormed_of_ofDocuments hbuilt
  have hinspected (policy : InterfacePolicy) : ∃ outcome,
      (Inspector.mk resolver policy wrappers).inspect graph controllers hosts = .ok outcome := by
    unfold inspect
    simp only [hcheck]
    exact ⟨_, rfl⟩
  obtain ⟨concrete, hconcrete⟩ := hinspected .concreteTypesOnly
  obtain ⟨including, hincluding⟩ := hinspected .includeAbstractType
  refine ⟨concrete, including, hconcrete, hincluding, ?_⟩
  rw [report_of_inspect hconcrete, report_of_inspect hincluding]
  constructor
  case unmapped =>
    intro coordinate hunmapped
    apply Tally.mem_unmappedFields_ofEvents.2
    exact Setting.unmappedField_mem_including (Tally.mem_unmappedFields_ofEvents.1 hunmapped)
  case resolved =>
    intro name hresolved
    apply Tally.stateOf_ofEvents_eq_resolved.2
    exact Setting.resolved_mem_including (Tally.stateOf_ofEvents_eq_resolved.1 hresolved)
  case silent =>
    intro interface hmem hkind field hfield hunmapped
    obtain ⟨hpolicy, -⟩ := Setting.unmapped_interface_field hwell hmem hkind hfield
      (Tally.mem_unmappedFields_ofEvents.1 hunmapped)
    cases hpolicy
  case lacking =>
    intro interface hmem hkind field hfield hunmapped
    obtain ⟨-, hregistered, hhost⟩ := Setting.unmapped_interface_field hwell hmem hkind hfield
      (Tally.mem_unmappedFields_ofEvents.1 hunmapped)
    exact ⟨not_registered_of_registered?_eq_none hregistered, hhost⟩

theorem nodes_including_extends_concrete :
    ∃ graph, Graph.ofDocuments nodeDocuments = .ok graph ∧
      Options.standard.inspector.resolver.check graph nodeHosts = .ok () ∧
      ∃ concrete including : Outcome,
        (Inspector.mk Options.standard.inspector.resolver .concreteTypesOnly .standard).inspect
          graph nodeControllers nodeHosts = .ok concrete ∧
        (Inspector.mk Options.standard.inspector.resolver .includeAbstractType .standard).inspect
          graph nodeControllers nodeHosts = .ok including ∧
        Report.Extends graph nodeControllers nodeHosts concrete.report including.report := by
  have hbuilds : (Graph.ofDocuments nodeDocuments).isOk = true := by decide +kernel
  obtain ⟨graph, hbuilt⟩ := exists_eq_ok_of_isOk hbuilds
  exact ⟨graph, hbuilt, rfl, including_extends_concrete hbuilt rfl⟩

end Inspector

end SchemaCoverage.Inspection
