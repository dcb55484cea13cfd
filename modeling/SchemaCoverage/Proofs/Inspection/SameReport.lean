import SchemaCoverage.Inspection.Inspector
import SchemaCoverage.Proofs.Inspection.Layers
import SchemaCoverage.Proofs.Inspection.Termination
/-!
Reports do not tell layers. Two inspections whose inputs are the same without layers take the same
steps but for the layers in what they step to, and make the same report, in the same order. A
resolver may be a function that looks at layers, and has to answer alike for that.
-/
namespace SchemaCoverage

section Lists

universe u v

variable {α γ : Type u} {β δ : Type v} {as as' : List α} {view : α → γ}

theorem flatMap_eq_of_map_eq {f f' : α → List β} (h : as.map view = as'.map view)
    (hf : ∀ a a', view a = view a' → f a = f' a') : as.flatMap f = as'.flatMap f' := by
  induction as generalizing as' with
  | nil =>
      obtain rfl := List.map_eq_nil_iff.1 h.symm
      rfl
  | cons a as ih =>
      obtain ⟨a', rest, rfl, ha, hrest⟩ := List.map_eq_cons_iff.1 h.symm
      rw [List.flatMap_cons, List.flatMap_cons, hf a a' ha.symm, ih hrest.symm]

theorem map_flatMap_eq_of_map_eq {f f' : α → List β} {view' : β → δ}
    (h : as.map view = as'.map view)
    (hf : ∀ a a', view a = view a' → (f a).map view' = (f' a').map view') :
    (as.flatMap f).map view' = (as'.flatMap f').map view' := by
  rw [List.map_flatMap, List.map_flatMap]
  exact flatMap_eq_of_map_eq h hf

theorem any_eq_of_map_eq {holds holds' : α → Bool} (h : as.map view = as'.map view)
    (hholds : ∀ a a', view a = view a' → holds a = holds' a') : as.any holds = as'.any holds' := by
  induction as generalizing as' with
  | nil =>
      obtain rfl := List.map_eq_nil_iff.1 h.symm
      rfl
  | cons a as ih =>
      obtain ⟨a', rest, rfl, ha, hrest⟩ := List.map_eq_cons_iff.1 h.symm
      rw [List.any_cons, List.any_cons, hholds a a' ha.symm, ih hrest.symm]

theorem map_filter_eq_of_map_eq (h : as.map view = as'.map view) (keeps : γ → Bool) :
    (as.filter fun a => keeps (view a)).map view =
      (as'.filter fun a => keeps (view a)).map view := by
  have hfilter := congrArg (List.filter keeps) h
  rwa [List.filter_map, List.filter_map] at hfilter

theorem isEmpty_eq_of_map_eq (h : as.map view = as'.map view) : as.isEmpty = as'.isEmpty := by
  rw [← List.isEmpty_map (f := view), h, List.isEmpty_map]

theorem none_or_some_of_map_eq {a a' : Option α} (h : a.map view = a'.map view) :
    a = none ∧ a' = none ∨ ∃ b b', a = some b ∧ a' = some b' ∧ view b = view b' := by
  cases a with
  | none => exact Or.inl ⟨rfl, Option.map_eq_none_iff.1 h.symm⟩
  | some b =>
      obtain ⟨b', hb', hview⟩ := Option.map_eq_some_iff.1 h.symm
      exact Or.inr ⟨b, b', rfl, hb', hview.symm⟩

end Lists

namespace Inspection

open Schema Host Candidates

/-- The step without layers in what it steps to. -/
def Step.unlayered (wrappers : Wrappers) : Step → Step
  | .record event => .record event
  | .consult type declared => .consult type (declared.unlayered wrappers)
  | .visit type host => .visit type.unlayered (host.unlayered wrappers)

/-- What is a visit without layers is a visit with them, of a pair of the same names. -/
theorem Step.exists_visit {wrappers : Wrappers} {step : Step} {type : GraphType} {host : HostType}
    (h : step.unlayered wrappers = (Step.visit type host).unlayered wrappers) :
    ∃ type' host', step = .visit type' host' ∧ type'.unlayered = type.unlayered ∧
      host'.unlayered wrappers = host.unlayered wrappers ∧
      (type'.name, host'.path) = (type.name, host.path) := by
  cases step with
  | record event => cases h
  | consult type declared => cases h
  | visit type' host' =>
      obtain ⟨htype, hhost⟩ := Step.visit.inj h
      refine ⟨type', host', rfl, htype, hhost, ?_⟩
      rw [GraphType.name_eq_of_unlayered htype, HostType.path_eq_of_unlayered hhost]

namespace Setting

/-- Two settings are the same without layers, and their resolvers answer alike. -/
structure Alike (setting setting' : Setting) : Prop where
  graph : setting.graph.unlayered = setting'.graph.unlayered
  methods : setting.methods.map (Prod.map id (Controller.Method.unlayered setting.wrappers)) =
    setting'.methods.map (Prod.map id (Controller.Method.unlayered setting.wrappers))
  registry : setting.registry.unlayered setting.wrappers =
    setting'.registry.unlayered setting.wrappers
  policy : setting.policy = setting'.policy
  wrappers : setting.wrappers = setting'.wrappers
  candidatePaths : ∀ type path declared declared', setting.registry.get? path = some declared →
    setting'.registry.get? path = some declared' →
    setting.candidatePaths type declared = setting'.candidatePaths type declared'

variable {setting setting' : Setting}

namespace Alike

variable (h : setting.Alike setting')

include h

theorem map_type? (name : String) :
    (setting.graph.type? name).map GraphType.unlayered =
      (setting'.graph.type? name).map GraphType.unlayered := by
  rw [← Graph.type?_unlayered, h.graph, Graph.type?_unlayered]

theorem possibleTypes_eq (name : String) :
    setting.graph.possibleTypes name = setting'.graph.possibleTypes name := by
  rw [← Graph.possibleTypes_unlayered, h.graph, Graph.possibleTypes_unlayered]

theorem map_get? (path : String) :
    (setting.registry.get? path).map (HostType.unlayered setting.wrappers) =
      (setting'.registry.get? path).map (HostType.unlayered setting.wrappers) := by
  rw [← Registry.get?_unlayered, h.registry, Registry.get?_unlayered]

theorem isAssignable_eq : setting.registry.isAssignable = setting'.registry.isAssignable := by
  rw [← Registry.isAssignable_unlayered setting.wrappers, h.registry,
    Registry.isAssignable_unlayered]

/-- The same element type declares host types of one path in both, or nothing in either. -/
theorem declaredHost_cases (element : TypeRef) :
    (∃ reason, setting.declaredHost element = .error reason ∧
        setting'.declaredHost element = .error reason) ∨
      ∃ path declared declared', setting.declaredHost element = .ok declared ∧
        setting'.declaredHost element = .ok declared' ∧
        setting.registry.get? path = some declared ∧
        setting'.registry.get? path = some declared' := by
  cases element with
  | named path generics =>
      simp only [declaredHost]
      obtain ⟨hfirst, hsecond⟩ | ⟨declared, declared', hfirst, hsecond, -⟩ :=
        none_or_some_of_map_eq (h.map_get? path)
      · exact Or.inl ⟨.unknownHostType, by rw [hfirst], by rw [hsecond]⟩
      · exact Or.inr ⟨path, declared, declared', by rw [hfirst], by rw [hsecond], hfirst, hsecond⟩
  | unnamed => exact Or.inl ⟨.unnamedHostType, rfl, rfl⟩
  | list inner => exact Or.inl ⟨.unnamedHostType, rfl, rfl⟩
  | optional inner => exact Or.inl ⟨.unnamedHostType, rfl, rfl⟩

section Declared

-- Resolvers are only known to answer alike about registered types, so declared types come with the
-- path at which they are found.
variable {path : String} {declared declared' : HostType}
  (hget : setting.registry.get? path = some declared)
  (hget' : setting'.registry.get? path = some declared')

include hget hget'

theorem unlayered_eq :
    declared.unlayered setting.wrappers = declared'.unlayered setting.wrappers := by
  have hfound := h.map_get? path
  rw [hget, hget'] at hfound
  exact Option.some.inj hfound

theorem path_eq : declared.path = declared'.path :=
  HostType.path_eq_of_unlayered (h.unlayered_eq hget hget')

theorem isAbstract_eq : declared.isAbstract = declared'.isAbstract := by
  simpa using congrArg HostType.isAbstract (h.unlayered_eq hget hget')

theorem map_candidates (type : String) :
    (setting.candidates type declared).map (HostType.unlayered setting.wrappers) =
      (setting'.candidates type declared').map (HostType.unlayered setting.wrappers) := by
  unfold candidates
  rw [h.candidatePaths type path declared declared' hget hget', List.map_filterMap,
    List.map_filterMap]
  congr 1
  funext found
  exact h.map_get? found

theorem map_activeHosts (type : String) (direct : Bool) :
    (setting.activeHosts type declared direct).map (HostType.unlayered setting.wrappers) =
      (setting'.activeHosts type declared' direct).map (HostType.unlayered setting.wrappers) := by
  have hcandidates := h.map_candidates hget hget' type
  have hany : (setting.candidates type declared).any (·.path == declared.path) =
      (setting'.candidates type declared').any (·.path == declared.path) :=
    any_eq_of_map_eq hcandidates fun candidate candidate' hcandidate => by
      rw [HostType.path_eq_of_unlayered hcandidate]
  unfold activeHosts
  rw [← h.isAbstract_eq hget hget', ← h.isAssignable_eq, ← h.path_eq hget hget', hany]
  split
  · exact map_filter_eq_of_map_eq hcandidates (setting.registry.isAssignable ·.path declared.path)
  · split
    · rw [List.map_singleton, List.map_singleton, h.unlayered_eq hget hget']
    · rfl

theorem inactiveReason_eq (type : String) :
    setting.inactiveReason type declared = setting'.inactiveReason type declared' := by
  unfold inactiveReason
  rw [h.isAbstract_eq hget hget', isEmpty_eq_of_map_eq (h.map_candidates hget hget' type)]

theorem nearest_eq (type : String) :
    (setting.candidates type declared).head?.map (·.path) =
      (setting'.candidates type declared').head?.map (·.path) := by
  have hhead := congrArg List.head? (h.map_candidates hget hget' type)
  rw [List.head?_map, List.head?_map] at hhead
  have hpaths := congrArg (Option.map HostType.path) hhead
  rwa [Option.map_map, Option.map_map] at hpaths

theorem map_visits (type : String) (direct : Bool) {member member' : GraphType}
    (hmember : member.unlayered = member'.unlayered) :
    ((setting.activeHosts type declared direct).map (.visit member)).map
        (Step.unlayered setting.wrappers) =
      ((setting'.activeHosts type declared' direct).map (.visit member')).map
        (Step.unlayered setting.wrappers) := by
  have hvisits := congrArg (List.map (Step.visit member.unlayered))
    (h.map_activeHosts hget hget' type direct)
  rw [List.map_map, List.map_map, hmember] at hvisits
  rw [List.map_map, List.map_map]
  simpa only [Function.comp_def, Step.unlayered, hmember] using hvisits

theorem map_memberSteps (via : Coordinate) {member member' : GraphType}
    (hmember : member.unlayered = member'.unlayered) (direct : Bool) :
    (setting.memberSteps via member declared direct).map (Step.unlayered setting.wrappers) =
      (setting'.memberSteps via member' declared' direct).map (Step.unlayered setting.wrappers) := by
  have hname := GraphType.name_eq_of_unlayered hmember
  have hconsult : Step.unlayered setting.wrappers (.consult member.name declared) =
      Step.unlayered setting.wrappers (.consult member.name declared') :=
    congrArg (Step.consult member.name) (h.unlayered_eq hget hget')
  have hvisits := h.map_visits hget hget' member.name direct hmember
  unfold memberSteps
  rw [← hname, ← h.isAbstract_eq hget hget', ← h.nearest_eq hget hget',
    ← h.inactiveReason_eq hget hget']
  cases hfirst : setting.activeHosts member.name declared direct with
  | nil =>
      rw [hfirst, List.map_nil, List.map_nil, eq_comm, List.map_eq_nil_iff, List.map_eq_nil_iff]
        at hvisits
      simp only [hvisits, List.map_append, apply_ite (List.map _), List.map_nil, List.map_singleton,
        hconsult]
  | cons host hosts =>
      cases hsecond : setting'.activeHosts member.name declared' direct with
      | nil => simp [hfirst, hsecond] at hvisits
      | cons host' hosts' =>
          rw [hfirst, hsecond] at hvisits
          simp only [List.map_append, hvisits, apply_ite (List.map _), List.map_nil,
            List.map_singleton, hconsult]

end Declared

section Types

variable {type type' : GraphType} (htype : type.unlayered = type'.unlayered)

include htype

theorem map_objectSteps (via : Coordinate) (element : TypeRef) :
    (setting.objectSteps via type element).map (Step.unlayered setting.wrappers) =
      (setting'.objectSteps via type' element).map (Step.unlayered setting.wrappers) := by
  have hname := GraphType.name_eq_of_unlayered htype
  unfold objectSteps
  obtain ⟨reason, hfirst, hsecond⟩ | ⟨path, declared, declared', hfirst, hsecond, hget, hget'⟩ :=
    h.declaredHost_cases element
  · rw [hfirst, hsecond, hname]
  · rw [hfirst, hsecond]
    exact h.map_memberSteps hget hget' via htype true

theorem map_possibleObjects :
    (setting.possibleObjects type.name).map GraphType.unlayered =
      (setting'.possibleObjects type'.name).map GraphType.unlayered := by
  have hname := GraphType.name_eq_of_unlayered htype
  unfold possibleObjects
  rw [hname, h.possibleTypes_eq, List.map_filterMap, List.map_filterMap]
  congr 1
  funext name
  have hfilter := congrArg (Option.filter (·.kind == .object)) (h.map_type? name)
  rw [Option.filter_map, Option.filter_map] at hfilter
  simpa only [Function.comp_def, GraphType.kind_unlayered] using hfilter

theorem checksInterface_eq {path : String} {declared declared' : HostType}
    (hget : setting.registry.get? path = some declared)
    (hget' : setting'.registry.get? path = some declared') :
    setting.checksInterface type declared = setting'.checksInterface type' declared' := by
  have hkind : type.kind = type'.kind := by
    simpa using congrArg GraphType.kind htype
  rw [checksInterface, checksInterface, h.policy, h.isAbstract_eq hget hget', hkind]

theorem map_polymorphicSteps (via : Coordinate) (element : TypeRef) :
    (setting.polymorphicSteps via type element).map (Step.unlayered setting.wrappers) =
      (setting'.polymorphicSteps via type' element).map (Step.unlayered setting.wrappers) := by
  have hname := GraphType.name_eq_of_unlayered htype
  unfold polymorphicSteps
  obtain ⟨reason, hfirst, hsecond⟩ | ⟨path, declared, declared', hfirst, hsecond, hget, hget'⟩ :=
    h.declaredHost_cases element
  · rw [hfirst, hsecond, hname, h.possibleTypes_eq]
  · have hitself := h.checksInterface_eq htype hget hget'
    have hvisit : Step.unlayered setting.wrappers (.visit type declared) =
        Step.unlayered setting.wrappers (.visit type' declared') := by
      rw [Step.unlayered, Step.unlayered, htype, h.unlayered_eq hget hget']
    have hmembers := h.map_possibleObjects htype
    rw [hname] at hmembers
    have hsteps := map_flatMap_eq_of_map_eq hmembers fun member member' hmember =>
      h.map_memberSteps hget hget' via hmember false
    have hany : ((setting.possibleObjects type'.name).any fun member =>
          !(setting.activeHosts member.name declared false).isEmpty) =
        (setting'.possibleObjects type'.name).any fun member =>
          !(setting'.activeHosts member.name declared' false).isEmpty :=
      any_eq_of_map_eq hmembers fun member member' hmember => by
        rw [GraphType.name_eq_of_unlayered hmember,
          isEmpty_eq_of_map_eq (h.map_activeHosts hget hget' member'.name false)]
    rw [hfirst, hsecond]
    simp only [List.map_append, apply_ite (List.map _), List.map_singleton, List.map_nil, hname,
      hitself, hvisit, hsteps, hany]

end Types

theorem map_find?_methods (coordinate : Coordinate) :
    (setting.methods.find? coordinate).map (Controller.Method.unlayered setting.wrappers) =
      (setting'.methods.find? coordinate).map (Controller.Method.unlayered setting.wrappers) := by
  rw [← Assoc.find?_map, h.methods, Assoc.find?_map]

section Fields

variable {field field' : Field} (hfield : field.unlayered = field'.unlayered)

include hfield

theorem map_fieldSteps {serving serving' : TypeRef}
    (hserving : serving.element setting.wrappers = serving'.element setting.wrappers) :
    (setting.fieldSteps field serving).map (Step.unlayered setting.wrappers) =
      (setting'.fieldSteps field' serving').map (Step.unlayered setting.wrappers) := by
  unfold fieldSteps
  rw [← Field.innermost_eq_of_unlayered hfield, ← Field.coordinate_eq_of_unlayered hfield,
    ← h.wrappers, ← hserving]
  obtain ⟨hfirst, hsecond⟩ | ⟨type, type', hfirst, hsecond, htype⟩ :=
    none_or_some_of_map_eq (h.map_type? field.type.innermost)
  · rw [hfirst, hsecond]
  · have hkind : type.kind = type'.kind := by
      simpa using congrArg GraphType.kind htype
    simp only [hfirst, hsecond, hkind, GraphType.name_eq_of_unlayered htype]
    cases type'.kind with
    | object => exact h.map_objectSteps htype _ _
    | interface => exact h.map_polymorphicSteps htype _ _
    | union => exact h.map_polymorphicSteps htype _ _
    | _ => rfl

theorem map_registered? :
    (setting.registered? field).map (TypeRef.element setting.wrappers) =
      (setting'.registered? field').map (TypeRef.element setting.wrappers) := by
  have hmethods := congrArg (Option.map Controller.Method.returns)
    (h.map_find?_methods field.coordinate)
  rw [Option.map_map, Option.map_map] at hmethods
  rw [registered?, registered?, Option.map_map, Option.map_map,
    ← Field.coordinate_eq_of_unlayered hfield]
  exact hmethods

theorem map_serving? {host host' : HostType}
    (hhost : host.unlayered setting.wrappers = host'.unlayered setting.wrappers) :
    (setting.serving? host field).map (TypeRef.element setting.wrappers) =
      (setting'.serving? host' field').map (TypeRef.element setting.wrappers) := by
  have hmember := congrArg (HostType.member? · field.name) hhost
  simp only [HostType.member?_unlayered] at hmember
  rw [serving?, serving?, Option.map_or, Option.map_or, h.map_registered? hfield, hmember,
    Field.name_eq_of_unlayered hfield]

theorem map_serveSteps {serving serving' : Option TypeRef}
    (hserving : serving.map (TypeRef.element setting.wrappers) =
      serving'.map (TypeRef.element setting.wrappers)) :
    (setting.serveSteps field serving).map (Step.unlayered setting.wrappers) =
      (setting'.serveSteps field' serving').map (Step.unlayered setting.wrappers) := by
  obtain ⟨rfl, rfl⟩ | ⟨ref, ref', rfl, rfl, helement⟩ := none_or_some_of_map_eq hserving
  · rw [serveSteps, serveSteps, Field.coordinate_eq_of_unlayered hfield]
  · exact h.map_fieldSteps hfield helement

end Fields

theorem map_pairSteps {type type' : GraphType} (htype : type.unlayered = type'.unlayered)
    {host host' : HostType}
    (hhost : host.unlayered setting.wrappers = host'.unlayered setting.wrappers) :
    (setting.pairSteps type host).map (Step.unlayered setting.wrappers) =
      (setting'.pairSteps type' host').map (Step.unlayered setting.wrappers) := by
  have hfields : type.fields.map Field.unlayered = type'.fields.map Field.unlayered := by
    simpa using congrArg GraphType.fields htype
  have hsteps := map_flatMap_eq_of_map_eq hfields fun field field' hfield =>
    h.map_serveSteps hfield (h.map_serving? hfield hhost)
  simp only [pairSteps, List.map_append, hsteps, GraphType.name_eq_of_unlayered htype,
    HostType.path_eq_of_unlayered hhost]

theorem map_rootSteps {root root' : GraphType} (hroot : root.unlayered = root'.unlayered) :
    (setting.rootSteps root).map (Step.unlayered setting.wrappers) =
      (setting'.rootSteps root').map (Step.unlayered setting.wrappers) := by
  have hfields : root.fields.map Field.unlayered = root'.fields.map Field.unlayered := by
    simpa using congrArg GraphType.fields hroot
  have hsteps := map_flatMap_eq_of_map_eq hfields fun field field' hfield =>
    h.map_serveSteps hfield (h.map_registered? hfield)
  simp only [rootSteps, List.map_append, hsteps, GraphType.name_eq_of_unlayered hroot]

/-- The same steps but for layers are taken in the same way: a pair is checked in both walks or in
neither, since it goes by its names. -/
theorem map_walk (unchecked : List (String × String)) {steps steps' : List Step}
    (hsteps : steps.map (Step.unlayered setting.wrappers) =
      steps'.map (Step.unlayered setting.wrappers)) :
    (setting.walk unchecked steps).map (Step.unlayered setting.wrappers) =
      (setting'.walk unchecked steps').map (Step.unlayered setting.wrappers) := by
  fun_induction walk setting unchecked steps generalizing steps' with
  | case1 unchecked =>
      obtain rfl := List.map_eq_nil_iff.1 hsteps.symm
      rw [walk]
  | case2 unchecked type host rest hmem ih =>
      obtain ⟨step', rest', rfl, hstep, hrest⟩ := List.map_eq_cons_iff.1 hsteps.symm
      obtain ⟨type', host', rfl, htype, hhost, hpair⟩ := Step.exists_visit hstep
      rw [walk_visit_of_mem (hpair ▸ hmem), hpair]
      apply ih
      rw [List.map_append, List.map_append, h.map_pairSteps htype.symm hhost.symm, hrest]
  | case3 unchecked type host rest hmem ih =>
      obtain ⟨step', rest', rfl, hstep, hrest⟩ := List.map_eq_cons_iff.1 hsteps.symm
      obtain ⟨type', host', rfl, -, -, hpair⟩ := Step.exists_visit hstep
      rw [walk_visit_of_not_mem (hpair ▸ hmem)]
      exact ih hrest.symm
  | case4 unchecked step rest hvisit ih =>
      obtain ⟨step', rest', rfl, hstep, hrest⟩ := List.map_eq_cons_iff.1 hsteps.symm
      have hvisit' (type : GraphType) (host : HostType) : step' ≠ .visit type host := by
        rintro rfl
        obtain ⟨type', host', heq, -⟩ := Step.exists_visit hstep.symm
        exact hvisit type' host' heq
      rw [walk_step hvisit', List.map_cons, List.map_cons, hstep, ih hrest.symm]

theorem allPairs_eq : setting.allPairs = setting'.allPairs := by
  have hpaths : setting.registry.paths = setting'.registry.paths := by
    rw [← Registry.paths_unlayered setting.wrappers, h.registry, Registry.paths_unlayered]
  have htypes : setting.graph.types.map GraphType.unlayered =
      setting'.graph.types.map GraphType.unlayered := congrArg Graph.types h.graph
  have hcomposite := map_filter_eq_of_map_eq htypes GraphType.isComposite
  simp only [GraphType.isComposite_unlayered] at hcomposite
  rw [allPairs, allPairs, hpaths]
  exact flatMap_eq_of_map_eq hcomposite fun type type' htype => by
    rw [GraphType.name_eq_of_unlayered htype]

theorem map_trace : setting.trace.map (Step.unlayered setting.wrappers) =
    setting'.trace.map (Step.unlayered setting.wrappers) := by
  have hroots : setting.graph.roots.map (Prod.map id GraphType.unlayered) =
      setting'.graph.roots.map (Prod.map id GraphType.unlayered) := by
    rw [← Graph.roots_unlayered, h.graph, Graph.roots_unlayered]
  unfold trace
  rw [h.allPairs_eq]
  apply h.map_walk
  exact map_flatMap_eq_of_map_eq hroots fun root root' hroot =>
    h.map_rootSteps (Prod.mk.inj hroot).2

theorem registrationEvents_eq : setting.registrationEvents = setting'.registrationEvents := by
  unfold registrationEvents
  refine flatMap_eq_of_map_eq h.methods ?_
  rintro ⟨coordinate, method⟩ ⟨coordinate', method'⟩ hentry
  obtain ⟨rfl, hmethod⟩ := Prod.mk.inj hentry
  obtain ⟨hcontroller, hname, -, harguments⟩ := Controller.Method.mk.inj hmethod
  have hrender : method.render = method'.render := by
    rw [Controller.Method.render, Controller.Method.render, hcontroller, hname]
  have hfield : (setting.graph.field? coordinate).map Field.unlayered =
      (setting'.graph.field? coordinate).map Field.unlayered := by
    rw [← Graph.field?_unlayered, h.graph, Graph.field?_unlayered]
  obtain ⟨hfirst, hsecond⟩ | ⟨field, field', hfirst, hsecond, hunlayered⟩ :=
    none_or_some_of_map_eq hfield
  · simp only [id, hfirst, hsecond, hrender]
  · simp only [id, hfirst, hsecond, harguments, hrender,
      Field.arguments_eq_of_unlayered hunlayered]

/-- Layers are in what a walk steps to, and not in what it records. -/
theorem events_eq : setting.events = setting'.events := by
  have hevent (step : Step) : eventOf? (step.unlayered setting.wrappers) = eventOf? step := by
    cases step <;> rfl
  have htrace := congrArg (List.filterMap eventOf?) h.map_trace
  simp only [List.filterMap_map, Function.comp_def, hevent] at htrace
  rw [events, events, h.registrationEvents_eq]
  exact congrArg (· ++ _) htrace

theorem report_eq : setting.report = setting'.report := by
  rw [report, report, h.events_eq]

end Alike

end Setting

namespace Inspector

variable {inspector : Inspector} {graph graph' : Graph}
  {controllers controllers' : Controller.Registry} {hosts hosts' : Registry}

theorem setting_alike (hgraph : graph.unlayered = graph'.unlayered)
    (hcontrollers : controllers.unlayered inspector.wrappers =
      controllers'.unlayered inspector.wrappers)
    (hhosts : hosts.unlayered inspector.wrappers = hosts'.unlayered inspector.wrappers)
    (hresolver : inspector.resolver.AnswersAlike graph graph' hosts hosts') :
    (inspector.setting graph controllers hosts).Alike
      (inspector.setting graph' controllers' hosts') where
  graph := hgraph
  methods := by
    change (controllers.byCoordinate graph).1.map _ = (controllers'.byCoordinate graph').1.map _
    rw [← controllers.byCoordinate_unlayered_graph graph, hgraph,
      controllers.byCoordinate_unlayered_graph,
      ← Controller.Registry.byCoordinate_unlayered, ← Controller.Registry.byCoordinate_unlayered]
    exact congrArg (fun registry => (registry.byCoordinate graph').1) hcontrollers
  registry := hhosts
  policy := rfl
  wrappers := rfl
  candidatePaths type path declared declared' hget hget' :=
    congrArg (Option.getD · []) (hresolver.resolve_eq hhosts hget hget' type)

/-- Layers never influence a report, unless a function of the resolver looks at them. Inputs that differ in
the layers of references and of field types alone are refused for the same error or have the same
report. -/
theorem report_eq_of_unlayered_eq (hgraph : graph.unlayered = graph'.unlayered)
    (hcontrollers : controllers.unlayered inspector.wrappers =
      controllers'.unlayered inspector.wrappers)
    (hhosts : hosts.unlayered inspector.wrappers = hosts'.unlayered inspector.wrappers)
    (hresolver : inspector.resolver.AnswersAlike graph graph' hosts hosts') :
    (inspector.inspect graph controllers hosts).map (·.report) =
      (inspector.inspect graph' controllers' hosts').map (·.report) := by
  have halike := setting_alike hgraph hcontrollers hhosts hresolver
  unfold inspect
  rw [hresolver.check_eq hhosts hgraph]
  cases inspector.resolver.check graph' hosts' with
  | error error => rfl
  | ok _ => exact congrArg Except.ok halike.report_eq

end Inspector

/-- The definitions `type Query { pets: .. }`, `interface Pet { name: String }` and
`type Cat implements Pet { name: String age: Int }`, with some type of the pets. -/
def cattery (pets : Sdl.TypeExpr) : List Sdl.TypeDef :=
  [⟨"Query", .object [] [⟨"pets", [], pets, ⟨1, 14⟩⟩], ⟨1, 1⟩⟩,
    ⟨"Pet", .interface [] [⟨"name", [], .named "String" false, ⟨2, 17⟩⟩], ⟨2, 1⟩⟩,
    ⟨"Cat", .object ["Pet"] [⟨"name", [], .named "String" false, ⟨3, 27⟩⟩,
      ⟨"age", [], .named "Int" false, ⟨3, 40⟩⟩], ⟨3, 1⟩⟩]

/-- The graph of these definitions. -/
def catteryGraph (pets : Sdl.TypeExpr) : Graph :=
  ⟨builtinTypes ++ (cattery pets).map (GraphType.ofDef none), "Query", none, none⟩

/-- A method for the pets, with what it returns. -/
def catteryControllers (pets : TypeRef) : Controller.Registry :=
  ⟨[(.operation .query "pets", ⟨"Pets", "pets", pets, []⟩)]⟩

/-- Cats are pets and have a name of some type. -/
def catteryHosts (name : TypeRef) : Registry :=
  ⟨[⟨"app::Pet", .abstract, [], [], ["app::Cat"]⟩,
    ⟨"app::Cat", .concrete, [("name", name)], ["app::Pet"], []⟩]⟩

/-- Candidates are what a function finds where a type is declared; without one they go by their names. -/
def finding (found : HostType → List String) : Inspector :=
  (Options.standard.withResolver (.custom fun _ declared _ => declared.map found)).inspector

/-- A function that looks at no layers does not tell inputs apart. -/
theorem finding_answersAlike {found : HostType → List String}
    (hfound : ∀ host, found (host.unlayered .standard) = found host) {graph graph' : Graph}
    {hosts hosts' : Registry} (h : hosts.unlayered .standard = hosts'.unlayered .standard) :
    (finding found).resolver.AnswersAlike graph graph' hosts hosts' := by
  apply Resolver.AnswersAlike.chain
  intro resolver hmem
  obtain rfl | hmem := List.mem_cons.1 hmem
  · refine .custom (fun type path _ => ?_) rfl
    have hget := congrArg (fun registry => (registry.get? path).map found) h
    simpa only [Registry.get?_unlayered, Option.map_map, Function.comp_def, hfound] using hget
  · obtain rfl := List.mem_singleton.1 hmem
    exact (Resolver.Plain.convention _).answersAlike ..

/-- Pets in a list, behind a wrapper with a second type argument. -/
def wrappedPets : TypeRef :=
  .named "Result" [.list (.named "app::Pet" []), .unnamed]

namespace Inspector

/-- Wrapped lists of pets whose names may be missing are reported as a single pet is. -/
theorem layeredCattery_sameReport :
    (∃ outcome, (finding HostType.permits).inspect (catteryGraph (.named "Pet" false))
        (catteryControllers (.named "app::Pet" [])) (catteryHosts .unnamed) = .ok outcome) ∧
      (catteryGraph (.named "Pet" false)).unlayered =
        (catteryGraph (.list (.named "Pet" true) true)).unlayered ∧
      (catteryControllers (.named "app::Pet" [])).unlayered .standard =
        (catteryControllers wrappedPets).unlayered .standard ∧
      (catteryHosts .unnamed).unlayered .standard =
        (catteryHosts (.optional (.named "Arc" []))).unlayered .standard ∧
      (finding HostType.permits).resolver.AnswersAlike (catteryGraph (.named "Pet" false))
        (catteryGraph (.list (.named "Pet" true) true)) (catteryHosts .unnamed)
        (catteryHosts (.optional (.named "Arc" []))) ∧
      ((finding HostType.permits).inspect (catteryGraph (.named "Pet" false))
          (catteryControllers (.named "app::Pet" [])) (catteryHosts .unnamed)).map (·.report) =
        ((finding HostType.permits).inspect (catteryGraph (.list (.named "Pet" true) true))
          (catteryControllers wrappedPets)
          (catteryHosts (.optional (.named "Arc" [])))).map (·.report) := by
  have hgraph : (catteryGraph (.named "Pet" false)).unlayered =
      (catteryGraph (.list (.named "Pet" true) true)).unlayered := rfl
  have hcontrollers : (catteryControllers (.named "app::Pet" [])).unlayered .standard =
      (catteryControllers wrappedPets).unlayered .standard := by
    decide
  have hhosts : (catteryHosts .unnamed).unlayered .standard =
      (catteryHosts (.optional (.named "Arc" []))).unlayered .standard := by
    decide
  have hresolver : (finding HostType.permits).resolver.AnswersAlike
      (catteryGraph (.named "Pet" false)) (catteryGraph (.list (.named "Pet" true) true))
      (catteryHosts .unnamed) (catteryHosts (.optional (.named "Arc" []))) :=
    finding_answersAlike (HostType.permits_unlayered .standard) hhosts
  exact ⟨⟨_, rfl⟩, hgraph, hcontrollers, hhosts, hresolver,
    report_eq_of_unlayered_eq hgraph hcontrollers hhosts hresolver⟩

end Inspector

/-- A type itself, unless its name may be missing. -/
def itselfNamed (host : HostType) : List String :=
  match host.member? "name" with
  | some (.optional _) => []
  | _ => [host.path]

/-- The inspection of pets that are cats, where candidates depend on the type of the name. -/
def namedCattery (name : TypeRef) : Setting :=
  (finding itselfNamed).setting (catteryGraph (.named "Pet" false))
    (catteryControllers (.named "app::Cat" [])) (catteryHosts name)

theorem skippedNames_namedCattery :
    (namedCattery (.named "String" [])).report.skippedNames = [] ∧
      (namedCattery (.optional (.named "String" []))).report.skippedNames = ["Cat"] := by
  have hwithin : ((namedCattery (.named "String" [])).eventsWithin 20).map
      (fun events => (Tally.ofEvents events).report.skippedNames) = some [] := by
    decide +kernel
  have hwithin' : ((namedCattery (.optional (.named "String" []))).eventsWithin 20).map
      (fun events => (Tally.ofEvents events).report.skippedNames) = some ["Cat"] := by
    decide +kernel
  exact ⟨Setting.view_events_eq hwithin, Setting.view_events_eq hwithin'⟩

namespace Inspector

/-- A function that looks at the layers of a member tells two inputs apart that are the same without
layers: cats are checked in one, and skipped in the other. -/
theorem optionalNames_otherReport :
    Graph.ofDocuments [(none, (cattery (.named "Pet" false)).map .type)] =
        .ok (catteryGraph (.named "Pet" false)) ∧
      (catteryHosts (.named "String" [])).unlayered .standard =
        (catteryHosts (.optional (.named "String" []))).unlayered .standard ∧
      ∃ report report',
        ((finding itselfNamed).inspect (catteryGraph (.named "Pet" false))
            (catteryControllers (.named "app::Cat" []))
            (catteryHosts (.named "String" []))).map (·.report) = .ok report ∧
          ((finding itselfNamed).inspect (catteryGraph (.named "Pet" false))
            (catteryControllers (.named "app::Cat" []))
            (catteryHosts (.optional (.named "String" [])))).map (·.report) = .ok report' ∧
          report.skippedNames = [] ∧ report'.skippedNames = ["Cat"] ∧ report ≠ report' := by
  obtain ⟨hnames, hnames'⟩ := skippedNames_namedCattery
  refine ⟨by decide +kernel, by decide, (namedCattery (.named "String" [])).report,
    (namedCattery (.optional (.named "String" []))).report, rfl, rfl, hnames, hnames', ?_⟩
  intro hsame
  rw [hsame, hnames'] at hnames
  cases hnames

end Inspector

end Inspection

end SchemaCoverage
