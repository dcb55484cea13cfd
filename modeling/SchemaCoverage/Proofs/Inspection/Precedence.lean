import SchemaCoverage.Inspection.Inspector
import SchemaCoverage.Proofs.Candidates.Mapped
import SchemaCoverage.Proofs.Inspection.Accounting
import SchemaCoverage.Proofs.Inspection.Lookups
import SchemaCoverage.Proofs.Inspection.Termination
/-!
Explicit mappings in inspections. A walk looks up candidates of object types alone, so that two
resolvers that find the same for these make for the same inspection; if every object type is named
by a mapping, class-name functions make no difference.
-/
namespace SchemaCoverage.Inspection

open Schema Host Candidates

namespace Setting

/-- The same setting with another resolver. -/
def resolvedBy (setting : Setting) (resolver : Resolver) : Setting :=
  { setting with resolver }

variable {setting : Setting} {resolver : Resolver}

/-- Another resolver finds the same for the object types of the schema. -/
def FindsSame (setting : Setting) (resolver : Resolver) : Prop :=
  ∀ type, setting.graph.type? type.name = some type → type.kind = .object → ∀ declared,
    (setting.resolvedBy resolver).candidatePaths type.name declared =
      setting.candidatePaths type.name declared

namespace FindsSame

variable (h : setting.FindsSame resolver)

include h

section Objects

variable {type : GraphType} (hfind : setting.graph.type? type.name = some type)
  (hkind : type.kind = .object)

include hfind hkind

theorem candidates_eq (declared : HostType) :
    (setting.resolvedBy resolver).candidates type.name declared =
      setting.candidates type.name declared := by
  unfold candidates
  rw [h type hfind hkind declared]
  rfl

theorem activeHosts_eq (declared : HostType) (direct : Bool) :
    (setting.resolvedBy resolver).activeHosts type.name declared direct =
      setting.activeHosts type.name declared direct := by
  unfold activeHosts
  rw [h.candidates_eq hfind hkind]
  rfl

theorem memberSteps_eq (via : Coordinate) (declared : HostType) (direct : Bool) :
    (setting.resolvedBy resolver).memberSteps via type declared direct =
      setting.memberSteps via type declared direct := by
  unfold memberSteps inactiveReason
  rw [h.activeHosts_eq hfind hkind, h.candidates_eq hfind hkind]

theorem objectSteps_eq (via : Coordinate) (element : TypeRef) :
    (setting.resolvedBy resolver).objectSteps via type element =
      setting.objectSteps via type element := by
  have hdeclared :
      (setting.resolvedBy resolver).declaredHost element = setting.declaredHost element := rfl
  unfold objectSteps
  rw [hdeclared]
  cases setting.declaredHost element with
  | ok declared => exact h.memberSteps_eq hfind hkind via declared true
  | error reason => rfl

end Objects

/-- An interface or union is followed to object types alone. -/
theorem polymorphicSteps_eq (via : Coordinate) (type : GraphType) (element : TypeRef) :
    (setting.resolvedBy resolver).polymorphicSteps via type element =
      setting.polymorphicSteps via type element := by
  have hdeclared :
      (setting.resolvedBy resolver).declaredHost element = setting.declaredHost element := rfl
  have hmembers : (setting.resolvedBy resolver).possibleObjects type.name =
      setting.possibleObjects type.name := rfl
  unfold polymorphicSteps
  rw [hdeclared, hmembers]
  cases setting.declaredHost element with
  | error reason => rfl
  | ok declared =>
      have hsteps : (setting.possibleObjects type.name).flatMap
            ((setting.resolvedBy resolver).memberSteps via · declared false) =
          (setting.possibleObjects type.name).flatMap
            (setting.memberSteps via · declared false) := by
        apply List.flatMap_congr
        intro member hmember
        obtain ⟨-, hfind, hkind⟩ := mem_possibleObjects.1 hmember
        exact h.memberSteps_eq hfind hkind via declared false
      have hchecked : ((setting.possibleObjects type.name).any fun member =>
            !((setting.resolvedBy resolver).activeHosts member.name declared false).isEmpty) =
          (setting.possibleObjects type.name).any fun member =>
            !(setting.activeHosts member.name declared false).isEmpty := by
        rw [Bool.eq_iff_iff, List.any_eq_true, List.any_eq_true]
        apply exists_congr
        intro member
        apply and_congr_right
        intro hmember
        obtain ⟨-, hfind, hkind⟩ := mem_possibleObjects.1 hmember
        rw [h.activeHosts_eq hfind hkind]
      simp only [hsteps, hchecked]
      rfl

theorem fieldSteps_eq (field : Field) (serving : TypeRef) :
    (setting.resolvedBy resolver).fieldSteps field serving = setting.fieldSteps field serving := by
  have hgraph : (setting.resolvedBy resolver).graph = setting.graph := rfl
  unfold fieldSteps
  rw [hgraph]
  cases hreturned : setting.graph.type? field.type.innermost with
  | none => rfl
  | some returned =>
      cases hkind : returned.kind with
      | object =>
          simp only [hkind]
          exact h.objectSteps_eq (Graph.type?_name hreturned) hkind _ _
      | interface =>
          simp only [hkind]
          exact h.polymorphicSteps_eq _ _ _
      | union =>
          simp only [hkind]
          exact h.polymorphicSteps_eq _ _ _
      | _ => simp only [hkind]

theorem serveSteps_eq (field : Field) (serving : Option TypeRef) :
    (setting.resolvedBy resolver).serveSteps field serving =
      setting.serveSteps field serving := by
  cases serving with
  | some serving => exact h.fieldSteps_eq field serving
  | none => rfl

theorem pairSteps_eq (type : GraphType) (host : HostType) :
    (setting.resolvedBy resolver).pairSteps type host = setting.pairSteps type host := by
  simp only [pairSteps, h.serveSteps_eq]
  rfl

theorem rootSteps_eq (root : GraphType) :
    (setting.resolvedBy resolver).rootSteps root = setting.rootSteps root := by
  simp only [rootSteps, h.serveSteps_eq]
  rfl

/-- The same steps are taken in the same way. -/
theorem walk_eq (unchecked : List (String × String)) (steps : List Step) :
    (setting.resolvedBy resolver).walk unchecked steps = setting.walk unchecked steps := by
  fun_induction walk setting unchecked steps with
  | case1 unchecked => rw [walk]
  | case2 unchecked type host rest hmem ih =>
      rw [walk_visit_of_mem hmem, h.pairSteps_eq, ih]
  | case3 unchecked type host rest hmem ih =>
      rw [walk_visit_of_not_mem hmem, ih]
  | case4 unchecked step rest hvisit ih =>
      rw [walk_step hvisit, ih]

theorem trace_eq : (setting.resolvedBy resolver).trace = setting.trace := by
  unfold trace
  simp only [h.rootSteps_eq, h.walk_eq]
  rfl

theorem report_eq : (setting.resolvedBy resolver).report = setting.report := by
  have hevents : (setting.resolvedBy resolver).events = setting.events := by
    unfold events
    rw [h.trace_eq]
    rfl
  rw [report, report, hevents]

/-- What is looked up in the walk is found in the same way, and the same warnings are given. -/
theorem memo_eq : Memo.ofSteps (setting.resolvedBy resolver) setting.trace =
    Memo.ofSteps setting setting.trace := by
  apply List.foldl_ext
  intro memo step hmem
  cases step with
  | consult name declared =>
      obtain ⟨⟨object, hfind, hkind, rfl⟩, -⟩ := looksUp_of_consult_mem_trace hmem
      simp only [Memo.follow, Memo.consult, h object hfind hkind declared]
      rfl
  | _ => rfl

end FindsSame

end Setting

/-- A mapping of the root type to a host type of another name. -/
def mirrorNames : List TypeNames :=
  [⟨[("app::Root", "Query")]⟩]

/-- A mirror may be the host type that is mapped, or one that goes by the name of the root type. -/
def mirrorHosts : Registry :=
  ⟨[⟨"app::Mirror", .abstract, [], [], ["app::Query", "app::Root"]⟩,
    ⟨"app::Query", .concrete, [], [], []⟩,
    ⟨"app::Root", .concrete, [("self", .named "app::Mirror" [])], [], []⟩]⟩

def mirrorControllers : Controller.Registry :=
  ⟨[(.operation .query "self", ⟨"Mirrors", "self", .named "app::Mirror" [], []⟩)]⟩

namespace Inspector

variable {graph : Graph} {controllers : Controller.Registry} {hosts : Registry}

/-- Of a resolver an inspection takes its check, and what it finds for the object types. -/
theorem inspect_eq_of_findsSame {inspector inspector' : Inspector}
    (hpolicy : inspector'.policy = inspector.policy)
    (hwrappers : inspector'.wrappers = inspector.wrappers)
    (hcheck : inspector'.resolver.check graph hosts = inspector.resolver.check graph hosts)
    (hsame : (inspector.setting graph controllers hosts).FindsSame inspector'.resolver) :
    inspector'.inspect graph controllers hosts = inspector.inspect graph controllers hosts := by
  have hsetting : inspector'.setting graph controllers hosts =
      (inspector.setting graph controllers hosts).resolvedBy inspector'.resolver := by
    simp only [setting, Setting.resolvedBy, hpolicy, hwrappers]
  unfold inspect
  simp only [hcheck, hsetting, hsame.report_eq, hsame.trace_eq, hsame.memo_eq]

/-- The inspector that is made from mappings, one after another, and a class-name function, if there
is one, without resolvers of any other kind. -/
def ofNames (names : List TypeNames) (className : Option (String → String))
    (policy : InterfacePolicy) (wrappers : Wrappers) : Inspector :=
  (names.foldl Options.withTypeNames ⟨[], .empty, className, policy, wrappers⟩).inspector

variable {names : List TypeNames} {className className' : Option (String → String)}
  {policy : InterfacePolicy} {wrappers : Wrappers}

theorem foldl_withTypeNames (options : Options) (names : List TypeNames) :
    names.foldl Options.withTypeNames options =
      { options with table := names.foldl Table.insertNames options.table } := by
  induction names generalizing options with
  | nil => rfl
  | cons mapped names ih => rw [List.foldl_cons, ih, List.foldl_cons]; rfl

theorem ofNames_eq : ofNames names className policy wrappers =
    ⟨mappedResolver names (className.getD id), policy, wrappers⟩ := by
  rw [ofNames, foldl_withTypeNames]
  rfl

/-- What is found for a named type are the paths that are mapped to it. -/
theorem resolve_ofNames {type : String} (h : Named names type) (hosts : Registry)
    (declared : Option HostType) :
    (ofNames names className policy wrappers).resolver.resolve hosts type declared =
      some (mappedPaths names type).eraseDups := by
  rw [ofNames_eq]
  exact h.resolve_mappedResolver _ hosts declared

theorem candidatePaths_ofNames {type : String} (h : Named names type) (declared : HostType) :
    ((ofNames names className policy wrappers).setting graph controllers hosts).candidatePaths
      type declared = (mappedPaths names type).eraseDups := by
  have hresolve : (ofNames names className policy wrappers).resolver.resolve hosts type
      (some declared) = some (mappedPaths names type).eraseDups :=
    resolve_ofNames h hosts (some declared)
  exact congrArg (Option.getD · []) hresolve

theorem candidates_ofNames {type : String} (h : Named names type) (declared : HostType) :
    ((ofNames names className policy wrappers).setting graph controllers hosts).candidates
      type declared = (mappedPaths names type).eraseDups.filterMap hosts.get? := by
  rw [Setting.candidates, candidatePaths_ofNames h]
  rfl

/-- If all object types are named, class-name functions are asked about none of them. -/
theorem findsSame_ofNames
    (hnamed : ∀ type ∈ graph.types, type.kind = .object → Named names type.name) :
    ((ofNames names className policy wrappers).setting graph controllers hosts).FindsSame
      (ofNames names className' policy wrappers).resolver := by
  intro type hfind hkind declared
  have htype := hnamed type (mem_of_findType? hfind) hkind
  have hresolve : (ofNames names className' policy wrappers).resolver.resolve hosts type.name
      (some declared) = some (mappedPaths names type.name).eraseDups :=
    resolve_ofNames htype hosts (some declared)
  rw [candidatePaths_ofNames htype]
  exact congrArg (Option.getD · []) hresolve

/-- Explicit mappings take precedence over class-name functions. For a type that they name the
mapped paths are found, whatever the function, so that its candidates are the same; and if they name
all object types of a schema, inspections come to the same outcome. -/
theorem mappings_precede (names : List TypeNames) (className className' : Option (String → String))
    (policy : InterfacePolicy) (wrappers : Wrappers) (graph : Graph)
    (controllers : Controller.Registry) (hosts : Registry) :
    (∀ type, Named names type → ∀ declared,
      (ofNames names className policy wrappers).resolver.resolve hosts type declared =
        some (mappedPaths names type).eraseDups) ∧
    (∀ type, Named names type → ∀ declared,
      ((ofNames names className policy wrappers).setting graph controllers hosts).candidates
          type declared =
        ((ofNames names className' policy wrappers).setting graph controllers hosts).candidates
          type declared) ∧
    ((∀ type ∈ graph.types, type.kind = .object → Named names type.name) →
      (ofNames names className policy wrappers).inspect graph controllers hosts =
        (ofNames names className' policy wrappers).inspect graph controllers hosts) := by
  refine ⟨fun type htype declared => resolve_ofNames htype hosts declared, ?_, ?_⟩
  · intro type htype declared
    rw [candidates_ofNames htype, candidates_ofNames htype]
  · intro hnamed
    apply inspect_eq_of_findsSame
    · rw [ofNames_eq, ofNames_eq]
    · rw [ofNames_eq, ofNames_eq]
    · rw [ofNames_eq, ofNames_eq]
      exact check_mappedResolver names _ _ graph hosts
    · exact findsSame_ofNames hnamed

theorem mirror_mappings_precede :
    ∃ outcome, Graph.ofDocuments selfDocuments = .ok selfGraph ∧
      (∀ type ∈ selfGraph.types, type.kind = .object → Named mirrorNames type.name) ∧
      (ofNames mirrorNames none .concreteTypesOnly .standard).inspect selfGraph mirrorControllers
        mirrorHosts = .ok outcome ∧
      (ofNames mirrorNames (some fun name => name ++ "Type") .concreteTypesOnly .standard).inspect
        selfGraph mirrorControllers mirrorHosts = .ok outcome := by
  have hquery : ∀ type ∈ selfGraph.types, type.kind = .object → type.name = "Query" := by
    decide +kernel
  have hnamed : ∀ type ∈ selfGraph.types, type.kind = .object → Named mirrorNames type.name := by
    intro type hmem hkind
    rw [hquery type hmem hkind]
    exact ⟨_, List.mem_cons_self, "app::Root", List.mem_cons_self⟩
  have hchecked : ((ofNames mirrorNames none .concreteTypesOnly .standard).inspect selfGraph
      mirrorControllers mirrorHosts).isOk = true := by
    decide +kernel
  obtain ⟨outcome, hinspected⟩ := exists_eq_ok_of_isOk hchecked
  obtain ⟨-, -, hsame⟩ := mappings_precede mirrorNames (some fun name => name ++ "Type") none
    .concreteTypesOnly .standard selfGraph mirrorControllers mirrorHosts
  exact ⟨outcome, selfGraph_built, hnamed, hinspected, (hsame hnamed).trans hinspected⟩

end Inspector

end SchemaCoverage.Inspection
